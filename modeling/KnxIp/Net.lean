import KnxIp.Fault
import KnxIp.Octets
import KnxIp.Text.Decimal
import KnxIp.Text.Fields

/-!
# Addresses of the network

The addresses under which a gateway and its clients reach each other: an internet
address of four octets (`KnxIp.Ipv4`), and one together with a port (`KnxIp.Endpoint`).
-/

namespace KnxIp

/-- The port on which gateways listen unless told otherwise. -/
def defaultPort : UInt16 := 3671

/-- **An internet address of four octets.** -/
structure Ipv4 where
  a : UInt8
  b : UInt8
  c : UInt8
  d : UInt8
  deriving DecidableEq

namespace Ipv4

/-- The address that stands for none. -/
def unspecified : Ipv4 := ⟨0, 0, 0, 0⟩

/-- The address of the own machine. -/
def localhost : Ipv4 := ⟨127, 0, 0, 1⟩

/-- The octets, in the order in which they travel. -/
def octets (ip : Ipv4) : List UInt8 := [ip.a, ip.b, ip.c, ip.d]

/-- The address whose octets are those of a number, the most significant first. -/
def ofNat (n : Nat) : Ipv4 :=
  ⟨UInt8.ofNat (n / 16777216), UInt8.ofNat (n / 65536), UInt8.ofNat (n / 256), UInt8.ofNat n⟩

/-- Four numbers, separated by points. -/
def text (ip : Ipv4) : String :=
  String.intercalate "." (ip.octets.map fun o => Text.decimal o.toNat)

/-- The octet that a field writes. -/
def readOctet? (field : List Char) : Option UInt8 :=
  (Text.readBelow? 256 field).map UInt8.ofNat

/-- The address that four fields write. -/
def ofFields? : List (List Char) → Option Ipv4
  | [a, b, c, d] => do
    let a ← readOctet? a
    let b ← readOctet? b
    let c ← readOctet? c
    let d ← readOctet? d
    pure ⟨a, b, c, d⟩
  | _ => none

/-- Read an address: four numbers below 256, separated by points. The text comes from a
configuration, so a wrong one is a wrong value there. -/
def parse (cs : List Char) : Except Fault Ipv4 :=
  match ofFields? (Text.fields '.' cs) with
  | some ip => .ok ip
  | none => .error (.config .invalidValue)

end Ipv4

/-- **An internet address and a port**: where a datagram comes from or goes to. -/
structure Endpoint where
  ip : Ipv4
  port : UInt16
  deriving DecidableEq

namespace Endpoint

/-- The endpoint that stands for none. -/
def unspecified : Endpoint := ⟨.unspecified, 0⟩

/-- Address and port, separated by a colon. -/
def text (e : Endpoint) : String := e.ip.text ++ ":" ++ Text.decimal e.port.toNat

end Endpoint

end KnxIp
