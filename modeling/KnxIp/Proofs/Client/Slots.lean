import KnxIp.Client

/-!
# The places of waiting callers

How the table of waiting callers changes when requests end. A request that ends completes
its place (`KnxIp.Slot.completed`), which a second time makes no difference; so when the
queue is let go, each place is as if at most one of the requests had named it
(`KnxIp.Client.getElem_foldl_dropSlot`).

The end of a session, `KnxIp.Client.sessionLost_eq`, is then a change of single fields.
-/

namespace KnxIp

namespace Slot

/-- A place whose request has ended. -/
def completed (result : Except Fault Unit) : Slot → Slot
  | .waiting => .done result
  | .abandoned => .free
  | .free => .free
  | .done earlier => .done earlier

theorem completed_completed (result result' : Except Fault Unit) (s : Slot) :
    (s.completed result).completed result' = s.completed result := by
  cases s <;> rfl

end Slot

namespace Client

theorem getElem_slots (slots : Vector Slot sendSlots) (id : SlotId) :
    slots[id] = getElem slots id.val id.isLt := rfl

@[simp] theorem getElem_setSlot (c : Client) (id id' : SlotId) (s : Slot) :
    (c.setSlot id s).slots[id'] = if id = id' then s else c.slots[id'] := by
  simp [getElem_slots, setSlot, Vector.getElem_set, Fin.ext_iff]

theorem completeSlot_eq (c : Client) (id : SlotId) (result : Except Fault Unit) :
    c.completeSlot id result = c.setSlot id (c.slots[id].completed result) := by
  have hself : ∀ s, c.slots[id] = s → c.setSlot id s = c := by
    rintro s rfl
    simp [getElem_slots, setSlot]
  unfold completeSlot
  cases hs : c.slots[id] with
  | free => exact (hself _ hs).symm
  | done earlier => exact (hself _ hs).symm
  | _ => rfl

/-! ### Letting requests go -/

/-- The places after a request was let go. -/
def dropSlot (slots : Vector Slot sendSlots) (job : Job) : Vector Slot sendSlots :=
  match job.slot with
  | some id => slots.set id (slots[id].completed (.error lost)) id.isLt
  | none => slots

theorem dropJob_eq (c : Client) (job : Job) :
    c.dropJob job = { c with slots := dropSlot c.slots job } := by
  unfold dropJob dropSlot
  cases job.slot with
  | none => rfl
  | some id => exact c.completeSlot_eq id _

theorem foldl_dropJob (jobs : List Job) (c : Client) :
    jobs.foldl dropJob c = { c with slots := jobs.foldl dropSlot c.slots } := by
  induction jobs generalizing c with
  | nil => rfl
  | cons job jobs ih => simp only [List.foldl_cons, ih, dropJob_eq]

theorem getElem_dropSlot (slots : Vector Slot sendSlots) (job : Job) (id : SlotId) :
    (dropSlot slots job)[id] =
      if job.slot = some id then slots[id].completed (.error lost) else slots[id] := by
  unfold dropSlot
  cases job.slot with
  | none => simp
  | some id' =>
    by_cases h : id' = id
    · subst h
      simp [getElem_slots]
    · have : id'.val ≠ id.val := fun hv => h (Fin.ext hv)
      simp [getElem_slots, h, this]

/-- **Of the places, exactly those are completed that a request names**, and each of them
once. -/
theorem getElem_foldl_dropSlot (jobs : List Job) (slots : Vector Slot sendSlots) (id : SlotId) :
    (jobs.foldl dropSlot slots)[id] =
      if ∃ job ∈ jobs, job.slot = some id then slots[id].completed (.error lost)
      else slots[id] := by
  induction jobs generalizing slots with
  | nil => simp
  | cons job jobs ih =>
    rw [List.foldl_cons, ih, getElem_dropSlot]
    by_cases h : job.slot = some id
    · simp [h, Slot.completed_completed]
    · simp [h]

/-- **The end of a session**, field by field. -/
theorem sessionLost_eq (c : Client) (reason : EndReason) :
    c.sessionLost reason =
      { c with
        ackDone := some (.error lost)
        confirmation := some (.error lost)
        heartbeatDone := some (.error lost)
        disconnectDone := true
        queue := .empty
        slots := c.queue.toList.foldl dropSlot c.slots
        outbox := c.outbox ++ [.event (.disconnected reason)] } := by
  unfold sessionLost publish
  simp only [foldl_dropJob]

end Client

end KnxIp
