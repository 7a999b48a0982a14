import KnxIp.Address
import KnxIp.Text.Decimal
import KnxIp.Text.Fields

/-!
# How addresses are written

An individual address is written as area, line and device with points between them, a
group address as main, middle and sub group with slashes. A group address is also
written in two parts, `KnxIp.GroupAddress.longText`, and is read with points as well.
Reading takes fields of decimal digits only, and answers every other text, also one with
a number that is too great, with `invalidFormat`.
-/

namespace KnxIp

/-! ### Writing -/

/-- Area, line and device, with points between them. -/
def IndividualAddress.text (a : IndividualAddress) : String :=
  Text.decimal a.area ++ "." ++ Text.decimal a.line ++ "." ++ Text.decimal a.device

/-- Main, middle and sub group, with slashes between them. -/
def GroupAddress.text (g : GroupAddress) : String :=
  Text.decimal g.main ++ "/" ++ Text.decimal g.middle ++ "/" ++ Text.decimal g.sub

/-- Main group and long sub group, with a slash between them. -/
def GroupAddress.longText (g : GroupAddress) : String :=
  Text.decimal g.main ++ "/" ++ Text.decimal g.longSub

/-- An address, written as its kind is. -/
def Address.text : Address → String
  | .individual a => a.text
  | .group g => g.text

/-! ### Reading -/

/-- The numbers in the fields of a text, if every field is a number below 65536 and
there are at most three. -/
def addressParts? (separator : Char) (cs : List Char) : Option (List Nat) :=
  let fields := Text.fields separator cs
  if fields.length ≤ 3 then
    fields.mapM fun field => (Text.readDigits? field).filter (· < 65536)
  else
    none

/-- The fault of a text that writes no address. -/
def misspelledAddress : Fault := .addressing .invalidFormat

/-- Read an individual address. -/
def IndividualAddress.ofText (cs : List Char) : Except Fault IndividualAddress :=
  match addressParts? '.' cs with
  | some [area, line, device] =>
    if area ≤ 15 ∧ line ≤ 15 ∧ device ≤ 255 then
      ofParts (UInt8.ofNat area) (UInt8.ofNat line) (UInt8.ofNat device)
    else
      .error misspelledAddress
  | _ => .error misspelledAddress

/-- Read a group address. The fields are separated by slashes if the text has one, and
by points if it has none. -/
def GroupAddress.ofText (cs : List Char) : Except Fault GroupAddress :=
  let separator := if '/' ∈ cs then '/' else '.'
  match addressParts? separator cs with
  | some [main, middle, sub] =>
    if main ≤ 31 ∧ middle ≤ 7 ∧ sub ≤ 255 then
      ofParts (UInt8.ofNat main) (UInt8.ofNat middle) (UInt8.ofNat sub)
    else
      .error misspelledAddress
  | some [main, sub] =>
    if main ≤ 31 ∧ sub ≤ 2047 then
      ofPair (UInt8.ofNat main) (UInt16.ofNat sub)
    else
      .error misspelledAddress
  | _ => .error misspelledAddress

/-- Read an address of the kind that is asked for. -/
def Address.parse (kind : AddressKind) (text : String) : Except Fault Address :=
  match kind with
  | .individual => (IndividualAddress.ofText text.toList).map .individual
  | .group => (GroupAddress.ofText text.toList).map .group

end KnxIp
