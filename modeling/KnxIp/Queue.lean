/-!
# Queues of limited length

First in, first out, and never more than `capacity` entries. There are two ways to enter
a full queue: not at all (`KnxIp.Queue.push?`), or by pushing out the oldest entry
(`KnxIp.Queue.pushEvicting`).
-/

namespace KnxIp

/-- **A queue of at most `capacity` entries.** -/
structure Queue (α : Type) (capacity : Nat) where
  /-- The entries, the oldest first. -/
  toList : List α
  length_le : toList.length ≤ capacity
  deriving DecidableEq

namespace Queue

variable {α : Type} {capacity : Nat}

/-- The queue without entries. -/
def empty : Queue α capacity := ⟨[], Nat.zero_le _⟩

theorem length_concat_le {q : Queue α capacity} (h : q.toList.length < capacity) (a : α) :
    (q.toList ++ [a]).length ≤ capacity := by
  rw [List.length_append]
  exact h

/-- Enter behind the others, if there is room. -/
def push? (q : Queue α capacity) (a : α) : Option (Queue α capacity) :=
  if h : q.toList.length < capacity then
    some ⟨q.toList ++ [a], length_concat_le h a⟩
  else
    none

/-- Enter behind the others; the oldest entry leaves if there is no room. A queue that
can hold nothing stays empty. -/
def pushEvicting (q : Queue α capacity) (a : α) : Queue α capacity :=
  if h : q.toList.length < capacity then
    ⟨q.toList ++ [a], length_concat_le h a⟩
  else
    ⟨(q.toList ++ [a]).drop (q.toList.length + 1 - capacity), by
      have := q.length_le
      simp
      omega⟩

/-- The oldest entry, and the queue without it. -/
def pop? (q : Queue α capacity) : Option (α × Queue α capacity) :=
  match h : q.toList with
  | [] => none
  | a :: rest => some (a, ⟨rest, by have := q.length_le; simp [h] at this; omega⟩)

theorem toList_of_push? {q r : Queue α capacity} {a : α} (h : q.push? a = some r) :
    r.toList = q.toList ++ [a] := by
  unfold push? at h
  split at h
  · cases h; rfl
  · cases h

theorem toList_of_pop? {q r : Queue α capacity} {a : α} (h : q.pop? = some (a, r)) :
    q.toList = a :: r.toList := by
  unfold pop? at h
  split at h
  · cases h
  · cases h; assumption

theorem pop?_eq_none_iff {q : Queue α capacity} : q.pop? = none ↔ q.toList = [] := by
  unfold pop?
  split <;> simp_all

end Queue

end KnxIp
