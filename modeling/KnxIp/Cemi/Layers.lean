import KnxIp.Octets

/-!
# The layers above the bus

Behind the addresses of a telegram come two codes. The *transport* control
(`KnxIp.Tpci`) says whether the telegram belongs to a connection between two devices;
the *application* control (`KnxIp.Apci`), ten bits of it, says which service the telegram
asks for. Three of those services – read, response and write – concern groups
(`KnxIp.GroupService`).

Both codes are kept as they were given. What does not fit into its bits is cut off when
they are written, and not before.
-/

namespace KnxIp

/-! ### Transport -/

/-- **The transport control of a telegram.** -/
inductive Tpci
  /-- Data outside of any connection. -/
  | unnumberedData
  /-- Data inside a connection. -/
  | numberedData (sequence : UInt8)
  /-- Opens or closes a connection. -/
  | unnumberedControl (code : UInt8)
  /-- Acknowledges data inside a connection, or refuses it. -/
  | numberedControl (sequence code : UInt8)
  deriving DecidableEq

namespace Tpci

/-- The control that an octet stands for. -/
def ofOctet (octet : UInt8) : Tpci :=
  let sequence := UInt8.ofNat (octet.toNat / 4 % 16)
  let code := UInt8.ofNat (octet.toNat % 4)
  match octet.toNat / 64 with
  | 0 => .unnumberedData
  | 1 => .numberedData sequence
  | 2 => .unnumberedControl code
  | _ => .numberedControl sequence code

/-- The octet of a control: two bits for its kind, four for the sequence, two for the
code. Data leaves the low two bits to the service code. -/
def octet : Tpci → UInt8
  | .unnumberedData => 0
  | .numberedData sequence => UInt8.ofNat (64 + sequence.toNat % 16 * 4)
  | .unnumberedControl code => UInt8.ofNat (128 + code.toNat % 4)
  | .numberedControl sequence code =>
    UInt8.ofNat (192 + sequence.toNat % 16 * 4 + code.toNat % 4)

/-- Whether the telegram carries data. -/
def isData : Tpci → Bool
  | .unnumberedData => true
  | .numberedData _ => true
  | _ => false

end Tpci

/-! ### Application -/

/-- **The services that concern groups.** -/
inductive GroupService
  | read
  | response
  | write
  deriving DecidableEq

/-- The name of a group service. -/
def GroupService.name : GroupService → String
  | .read => "Read"
  | .response => "Response"
  | .write => "Write"

/-- **The application control of a telegram.** -/
inductive Apci
  | groupValueRead
  | groupValueResponse
  | groupValueWrite
  /-- Any other service, by its code. -/
  | other (code : UInt16)
  deriving DecidableEq

namespace Apci

/-- The service of the low ten bits of a number. -/
def ofCode (code : Nat) : Apci :=
  match code % 1024 with
  | 0 => .groupValueRead
  | 64 => .groupValueResponse
  | 128 => .groupValueWrite
  | n => .other (UInt16.ofNat n)

/-- The ten bits of a service. -/
def code : Apci → Nat
  | .groupValueRead => 0
  | .groupValueResponse => 64
  | .groupValueWrite => 128
  | .other code => code.toNat % 1024

/-- The service, if it concerns groups. -/
def groupService? : Apci → Option GroupService
  | .groupValueRead => some .read
  | .groupValueResponse => some .response
  | .groupValueWrite => some .write
  | .other _ => none

/-- The control for a group service. -/
def ofGroupService : GroupService → Apci
  | .read => .groupValueRead
  | .response => .groupValueResponse
  | .write => .groupValueWrite

theorem groupService?_ofGroupService (s : GroupService) :
    (ofGroupService s).groupService? = some s := by cases s <;> rfl

end Apci

end KnxIp
