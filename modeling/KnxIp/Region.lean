import KnxIp.Fault
import KnxIp.Octets

/-!
# Filling a buffer

A caller who encodes into memory of its own hands over a buffer of some length, with
whatever it held before. `KnxIp.Region` is such a buffer part way through: what has been
written, and what is still as it was. `KnxIp.Region.put` writes some octets if there is
room for all of them and fails with `bufferTooSmall` otherwise, so an encoder that is a
sequence of `put`s finds out about a short buffer at the first part that does not fit.
-/

namespace KnxIp

/-- **A buffer part way through being filled.** -/
structure Region where
  /-- What has been written, from the start of the buffer. -/
  written : List UInt8
  /-- What is left of the buffer's former content, after what has been written. -/
  free : List UInt8
  deriving DecidableEq

namespace Region

/-- A buffer of which nothing has been filled. -/
def ofBuffer (buffer : List UInt8) : Region := ⟨[], buffer⟩

/-- A fresh buffer of `length` zero octets. -/
def blank (length : Nat) : Region := ofBuffer (List.replicate length 0)

/-- The whole content of the buffer. -/
def content (r : Region) : List UInt8 := r.written ++ r.free

/-- Write octets behind what has been written, if all of them fit. -/
def put (octets : List UInt8) (r : Region) : Except Fault Region :=
  if octets.length ≤ r.free.length then
    .ok ⟨r.written ++ octets, r.free.drop octets.length⟩
  else
    .error (.transport .bufferTooSmall)

/-- Writing two strings one after the other is writing their concatenation. -/
theorem put_append (a b : List UInt8) (r : Region) :
    r.put (a ++ b) = (r.put a).bind (put b) := by
  unfold put
  by_cases ha : a.length ≤ r.free.length
  · by_cases hb : a.length + b.length ≤ r.free.length
    · have hb' : b.length ≤ r.free.length - a.length := by omega
      simp [ha, hb, hb', Except.bind]
    · have hb' : ¬ b.length ≤ r.free.length - a.length := by omega
      simp [ha, hb, hb', Except.bind]
  · have hab : ¬ a.length + b.length ≤ r.free.length := by omega
    simp [ha, hab, Except.bind]

theorem put_nil (r : Region) : r.put [] = .ok r := by simp [put]

end Region

end KnxIp
