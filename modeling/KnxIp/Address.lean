import KnxIp.Fault
import KnxIp.Octets
import KnxIp.Region

/-!
# Addresses of the bus

A device on the bus has an *individual* address, and a function that several devices
share – a lamp, a blind – has a *group* address. Both are sixteen bits. They differ in
how the bits are divided: four, four and eight for area, line and device; five, three
and eight for main, middle and sub group, the last two of which are also read as one
sub group of eleven bits.
-/

namespace KnxIp

/-- The two address spaces. -/
inductive AddressKind
  | individual
  | group
  deriving DecidableEq

/-! ### Devices -/

/-- **The address of a device.** -/
structure IndividualAddress where
  raw : UInt16
  deriving DecidableEq

namespace IndividualAddress

/-- `0.0.0`, in place of which a gateway puts the address of its tunnel. -/
def unassigned : IndividualAddress := ⟨0⟩

/-- Area, the topmost four bits. -/
def area (a : IndividualAddress) : Nat := a.raw.toNat / 4096

/-- Line, the next four bits. -/
def line (a : IndividualAddress) : Nat := a.raw.toNat / 256 % 16

/-- Device, the low octet. -/
def device (a : IndividualAddress) : Nat := a.raw.toNat % 256

/-- The address of a device on a line of an area. -/
def ofParts (area line device : UInt8) : Except Fault IndividualAddress :=
  if 15 < area ∨ 15 < line then
    .error (.addressing .outOfRange)
  else
    .ok ⟨UInt16.ofNat (area.toNat * 4096 + line.toNat * 256 + device.toNat)⟩

end IndividualAddress

/-! ### Functions -/

/-- **The address of a function of the installation.** -/
structure GroupAddress where
  raw : UInt16
  deriving DecidableEq

namespace GroupAddress

/-- Main group, the topmost five bits. -/
def main (g : GroupAddress) : Nat := g.raw.toNat / 2048

/-- Middle group, the next three bits. -/
def middle (g : GroupAddress) : Nat := g.raw.toNat / 256 % 8

/-- Sub group below a middle group, the low octet. -/
def sub (g : GroupAddress) : Nat := g.raw.toNat % 256

/-- Sub group directly below a main group, the low eleven bits. -/
def longSub (g : GroupAddress) : Nat := g.raw.toNat % 2048

/-- The address of a sub group of a middle group. -/
def ofParts (main middle sub : UInt8) : Except Fault GroupAddress :=
  if 31 < main ∨ 7 < middle then
    .error (.addressing .outOfRange)
  else
    .ok ⟨UInt16.ofNat (main.toNat * 2048 + middle.toNat * 256 + sub.toNat)⟩

/-- The address of a sub group directly below a main group. -/
def ofPair (main : UInt8) (sub : UInt16) : Except Fault GroupAddress :=
  if 31 < main ∨ 2047 < sub then
    .error (.addressing .outOfRange)
  else
    .ok ⟨UInt16.ofNat (main.toNat * 2048 + sub.toNat)⟩

end GroupAddress

/-! ### Either of them -/

/-- **The destination of a telegram**: a device or a function. -/
inductive Address
  | individual (address : IndividualAddress)
  | group (address : GroupAddress)
  deriving DecidableEq

namespace Address

/-- The sixteen bits, read in an address space. -/
def ofRaw (kind : AddressKind) (raw : UInt16) : Address :=
  match kind with
  | .individual => .individual ⟨raw⟩
  | .group => .group ⟨raw⟩

/-- The sixteen bits of an address. -/
def raw : Address → UInt16
  | .individual a => a.raw
  | .group g => g.raw

/-- The address space of an address. -/
def kind : Address → AddressKind
  | .individual _ => .individual
  | .group _ => .group

/-- The group address, if it is one. -/
def asGroup? : Address → Option GroupAddress
  | .individual _ => none
  | .group g => some g

theorem ofRaw_kind_raw (a : Address) : ofRaw a.kind a.raw = a := by
  cases a <;> rfl

/-- Write the address into a buffer, high octet first. -/
def fill (a : Address) (r : Region) : Except Fault Region := r.put (wordOctets a.raw)

/-- Read an address off the first two octets. -/
def read (kind : AddressKind) : List UInt8 → Except Fault Address
  | high :: low :: _ => .ok (ofRaw kind (word high low))
  | _ => .error (.decode .truncatedBody)

end Address

end KnxIp
