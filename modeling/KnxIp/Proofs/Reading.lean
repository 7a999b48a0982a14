import KnxIp.Fault
import KnxIp.Octets

/-!
# What a reader accepts

A reader takes a string of octets apart, and of most strings there is only one thing to say:
whether they have the form of what is to be read. If they have it there is a value, and if not
there is one fault for all the ways in which a form can be missed. `KnxIp.ReadsIf` says this of
one result. Where a reader goes through a string part by part, the forms of the parts add up to
the form of the whole (`KnxIp.ReadsIf.bind`), so what it accepts is put together like the
reader itself.

Of a reader that has read a value, the same steps say what the string was
(`KnxIp.exists_of_bind_eq_ok`).

Forms are said by places, counted from the front of the string: so many octets at least, and
this octet at that place. A word takes two places (`KnxIp.wordAt?`).
-/

namespace KnxIp

/-- The number that the two octets from a place on stand for, the high one first. -/
def wordAt? (s : List UInt8) (place : Nat) : Option Nat := do
  let high ← s[place]?
  let low ← s[place + 1]?
  pure (high.toNat * 256 + low.toNat)

/-- **Whether a form decides a result**: with it there is a value, and without it this
fault. -/
structure ReadsIf {α : Type} (fault : Fault) (form : Prop) (result : Except Fault α) : Prop where
  accepts : form → ∃ a, result = .ok a
  refuses : ¬ form → result = .error fault

namespace ReadsIf

variable {α β : Type} {fault : Fault} {p q : Prop} {r : Except Fault α}

theorem congr (h : ReadsIf fault p r) (hpq : p ↔ q) : ReadsIf fault q r :=
  ⟨fun hq => h.accepts (hpq.mpr hq), fun hq => h.refuses fun hp => hq (hpq.mp hp)⟩

theorem of_ok (a : α) (hp : p) : ReadsIf fault p (.ok a) :=
  ⟨fun _ => ⟨a, rfl⟩, fun hn => absurd hp hn⟩

theorem of_error (hp : ¬ p) : ReadsIf fault p (.error fault : Except Fault α) :=
  ⟨fun h => absurd h hp, fun _ => rfl⟩

/-- **The forms of the parts add up.** What is read behind a part may depend on its value. -/
theorem bind {k : α → Except Fault β} (h : ReadsIf fault p r)
    (hk : ∀ a, r = .ok a → ReadsIf fault q (k a)) : ReadsIf fault (p ∧ q) (r.bind k) := by
  by_cases hp : p
  · obtain ⟨a, rfl⟩ := h.accepts hp
    exact (hk a rfl).congr (by simp [hp])
  · rw [h.refuses hp]
    exact of_error fun h => hp h.1

/-- What is made of a value does not matter. -/
theorem map (f : α → β) (h : ReadsIf fault p r) : ReadsIf fault p (r.map f) := by
  by_cases hp : p
  · obtain ⟨a, rfl⟩ := h.accepts hp
    exact of_ok (f a) hp
  · rw [h.refuses hp]
    exact of_error hp

theorem ok_iff (h : ReadsIf fault p r) : (∃ a, r = .ok a) ↔ p := by
  refine ⟨fun ⟨a, ha⟩ => ?_, h.accepts⟩
  by_cases hp : p
  · exact hp
  · rw [h.refuses hp] at ha
    cases ha

theorem error_iff (h : ReadsIf fault p r) : r = .error fault ↔ ¬ p := by
  refine ⟨fun hr hp => ?_, h.refuses⟩
  obtain ⟨a, ha⟩ := h.accepts hp
  rw [hr] at ha
  cases ha

end ReadsIf

section Inversion

variable {ε α β : Type} {r : Except ε α} {b : β}

/-- A value that was read in two steps has a value behind the first. -/
theorem exists_of_bind_eq_ok {k : α → Except ε β} (h : r.bind k = .ok b) :
    ∃ a, r = .ok a ∧ k a = .ok b := by
  cases r with
  | error e => cases h
  | ok a => exact ⟨a, rfl, h⟩

theorem exists_of_map_eq_ok {f : α → β} (h : r.map f = .ok b) : ∃ a, r = .ok a ∧ f a = b := by
  cases r with
  | error e => cases h
  | ok a => exact ⟨a, rfl, Except.ok.inj h⟩

end Inversion

namespace Octets

variable {capacity : Nat}

/-- A string is kept if it is not too long. -/
theorem readsIf_ofList (fault : Fault) (octets : List UInt8) :
    ReadsIf fault (octets.length ≤ capacity)
      (ofList fault octets : Except Fault (Octets capacity)) := by
  unfold ofList
  cases h : (ofList? octets : Option (Octets capacity)) with
  | some s => exact .of_ok s (by simp [← ofList?_eq_some_iff.mp h, s.length_le])
  | none => exact .of_error (by simpa using ofList?_eq_none_iff.mp h)

theorem toList_of_ofList {ε : Type} {excess : ε} {octets : List UInt8} {s : Octets capacity}
    (h : ofList excess octets = .ok s) : s.toList = octets := by
  unfold ofList at h
  split at h
  · rename_i s' hs
    cases h
    exact ofList?_eq_some_iff.mp hs
  · cases h

end Octets

end KnxIp
