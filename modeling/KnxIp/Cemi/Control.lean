/-!
# Control fields

Two octets in front of the addresses of a telegram. The first says in which form and how
urgently it goes over the bus, and in a confirmation whether it got there; the second
says whether the destination is a group and how many couplers the telegram may still
cross.
-/

namespace KnxIp

/-- **How urgent a telegram is.** -/
inductive Priority
  | system
  | normal
  | urgent
  | low
  deriving DecidableEq

namespace Priority

/-- The priority of the low two bits of a number. -/
def ofBits (n : Nat) : Priority :=
  match n % 4 with
  | 0 => .system
  | 1 => .normal
  | 2 => .urgent
  | _ => .low

/-- The two bits of a priority. -/
def bits : Priority → Nat
  | .system => 0
  | .normal => 1
  | .urgent => 2
  | .low => 3

/-- The priority of telegrams that do not say otherwise. -/
def default : Priority := .low

/-- The name of a priority. -/
def name : Priority → String
  | .system => "System"
  | .normal => "Normal"
  | .urgent => "Urgent"
  | .low => "Low"

end Priority

/-- **The first control field.** -/
structure Control1 where
  raw : UInt8
  deriving DecidableEq

namespace Control1

/-- Whether the telegram has the standard form, and not the extended one. -/
def isStandard (c : Control1) : Bool := c.raw.toNat / 128 % 2 = 1

/-- Whether the telegram is not to be repeated on the bus. -/
def noRepeat (c : Control1) : Bool := c.raw.toNat / 32 % 2 = 1

/-- How urgent the telegram is. -/
def priority (c : Control1) : Priority := .ofBits (c.raw.toNat / 4)

/-- Whether the bus did not take the telegram; of confirmations only. -/
def hasError (c : Control1) : Bool := c.raw.toNat % 2 = 1

/-- The field with these properties. -/
def ofParts (standard noRepeat broadcast : Bool) (priority : Priority) : Control1 :=
  ⟨UInt8.ofNat
    (standard.toNat * 128 + noRepeat.toNat * 32 + broadcast.toNat * 16 + priority.bits * 4)⟩

/-- Standard form, no repetition, a broadcast of low priority. -/
def default : Control1 := ofParts true true true .low

end Control1

/-- **The second control field.** -/
structure Control2 where
  raw : UInt8
  deriving DecidableEq

namespace Control2

/-- Whether the destination is a group. -/
def isGroup (c : Control2) : Bool := c.raw.toNat / 128 = 1

/-- How many couplers the telegram may still cross. -/
def hopCount (c : Control2) : Nat := c.raw.toNat / 16 % 8

/-- The field with these properties; of the hop count the low three bits. -/
def ofParts (group : Bool) (hopCount : Nat) : Control2 :=
  ⟨UInt8.ofNat (group.toNat * 128 + hopCount % 8 * 16)⟩

/-- To a group, across six couplers. -/
def default : Control2 := ofParts true 6

/-- The field with another topmost bit. -/
def withGroup (c : Control2) (group : Bool) : Control2 :=
  ⟨UInt8.ofNat (group.toNat * 128 + c.raw.toNat % 128)⟩

theorem isGroup_withGroup (c : Control2) (group : Bool) :
    (c.withGroup group).isGroup = group := by
  have := c.raw.toNat_lt
  cases group <;> simp [isGroup, withGroup] <;> omega

theorem withGroup_isGroup (c : Control2) : c.withGroup c.isGroup = c := by
  obtain ⟨raw⟩ := c
  have h := raw.toNat_lt
  refine congrArg Control2.mk (UInt8.toNat_inj.mp ?_)
  by_cases hg : raw.toNat / 128 = 1 <;> simp [isGroup, hg] <;> omega

end Control2

end KnxIp
