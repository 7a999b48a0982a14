/-!
# Octet strings

Everything that travels is a string of octets, written here as a list. Two things about
such strings are fixed once for the whole library: sixteen-bit words are written with
their high octet first (`KnxIp.word`, `KnxIp.highOctet`, `KnxIp.lowOctet`), and a string
that has a greatest length carries the proof that it keeps it (`KnxIp.Octets`).
-/

namespace KnxIp

/-! ### Words -/

/-- The high octet of a word, the one that travels first. -/
def highOctet (w : UInt16) : UInt8 := UInt8.ofNat (w.toNat / 256)

/-- The low octet of a word. -/
def lowOctet (w : UInt16) : UInt8 := UInt8.ofNat (w.toNat % 256)

/-- The word with these two octets. -/
def word (high low : UInt8) : UInt16 := UInt16.ofNat (high.toNat * 256 + low.toNat)

/-- The two octets of a word, in the order in which they travel. -/
def wordOctets (w : UInt16) : List UInt8 := [highOctet w, lowOctet w]

theorem word_highOctet_lowOctet (w : UInt16) : word (highOctet w) (lowOctet w) = w := by
  apply UInt16.toNat_inj.mp
  have := w.toNat_lt
  simp [word, highOctet, lowOctet]
  omega

theorem highOctet_word (high low : UInt8) : highOctet (word high low) = high := by
  apply UInt8.toNat_inj.mp
  have := high.toNat_lt
  have := low.toNat_lt
  simp [word, highOctet]
  omega

theorem lowOctet_word (high low : UInt8) : lowOctet (word high low) = low := by
  apply UInt8.toNat_inj.mp
  have := high.toNat_lt
  have := low.toNat_lt
  simp [word, lowOctet]

theorem length_wordOctets (w : UInt16) : (wordOctets w).length = 2 := rfl

/-! ### Strings with a greatest length -/

/-- **An octet string of at most `capacity` octets.** -/
structure Octets (capacity : Nat) where
  /-- The octets, in the order in which they travel. -/
  toList : List UInt8
  length_le : toList.length ≤ capacity
  deriving DecidableEq

namespace Octets

variable {capacity : Nat}

/-- The string without octets. -/
def empty : Octets capacity := ⟨[], Nat.zero_le _⟩

/-- The string of these octets, if there are not too many of them. -/
def ofList? (octets : List UInt8) : Option (Octets capacity) :=
  if h : octets.length ≤ capacity then some ⟨octets, h⟩ else none

/-- The string of these octets, or the fault that there are too many of them. -/
def ofList {ε : Type} (excess : ε) (octets : List UInt8) : Except ε (Octets capacity) :=
  match ofList? octets with
  | some s => .ok s
  | none => .error excess

theorem ofList?_toList (s : Octets capacity) : ofList? s.toList = some s := by
  simp [ofList?, s.length_le]

theorem ofList?_eq_some_iff {octets : List UInt8} {s : Octets capacity} :
    ofList? octets = some s ↔ s.toList = octets := by
  constructor
  · intro h
    unfold ofList? at h
    split at h
    · cases h; rfl
    · cases h
  · rintro rfl
    exact ofList?_toList s

theorem ofList?_eq_none_iff {octets : List UInt8} :
    (ofList? octets : Option (Octets capacity)) = none ↔ capacity < octets.length := by
  unfold ofList?
  split <;> simp <;> omega

end Octets

end KnxIp
