import KnxIp.Fault
import KnxIp.Octets

/-!
# Application data

The data of a telegram comes in two forms. A value of at most six bits is *short*: it
travels inside the last octet of the service code. Anything else is a string of octets
behind that one; the empty string says that there is no data.
-/

namespace KnxIp

/-- The greatest number of octets behind the service code. -/
def maxApduData : Nat := 32

/-- **The data of a telegram.** -/
inductive Apdu
  /-- A value of six bits inside the service code. -/
  | short (value : BitVec 6)
  /-- Octets behind the service code. -/
  | octets (data : Octets maxApduData)
  deriving DecidableEq

namespace Apdu

/-- No data. -/
def empty : Apdu := .octets .empty

/-- The low six bits of an octet, as short data. -/
def ofLowBits (octet : UInt8) : Apdu := .short (BitVec.ofNat 6 octet.toNat)

/-- A string of octets as data. -/
def ofOctets (data : List UInt8) : Except Fault Apdu :=
  (Octets.ofList (.decode .invalidCemi) data).map .octets

/-- The octet of a short value. -/
def shortOctet (value : BitVec 6) : UInt8 := UInt8.ofNat value.toNat

/-- The data as a string; a short value is one octet. -/
def toList : Apdu → List UInt8
  | .short value => [shortOctet value]
  | .octets data => data.toList

/-- The octets that travel behind the service code. -/
def trailing : Apdu → List UInt8
  | .short _ => []
  | .octets data => data.toList

/-- Whether the data travels inside the service code. -/
def isShort : Apdu → Bool
  | .short _ => true
  | .octets _ => false

/-- Whether there is no data. -/
def isEmpty (a : Apdu) : Bool := a.toList.isEmpty

theorem length_trailing_le (a : Apdu) : a.trailing.length ≤ maxApduData := by
  cases a with
  | short value => simp [trailing]
  | octets data => exact data.length_le

end Apdu

end KnxIp
