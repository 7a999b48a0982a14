import KnxIp.Proofs.Registry.Usage
import Mathlib.Data.List.Perm.Basic

/-!
# Reads are answered by the right telegram

A read is nothing but a place in the table of reads, and the places are used again and again: by
reads that were answered, that were given up, and that will be answered much later. What a read
finds on its place has to be the answer to *it*: the data of the first response for its address
that came after it began (`KnxIp.Registry.Inquiry.answer?`), whatever else came, and whoever had
the place before.

The invariant (`KnxIp.Registry.Answers`) says this of all reads that are held; that there is
nothing on the places of no read is what makes the next read begin with no answer.

## Main statement

* `KnxIp.Registry.Usage.readsExact_run`: however a registry was used, every read that is held has a
  place of its own and finds its own answer there, and another can begin unless all places are
  taken.
-/

namespace KnxIp

namespace Registry

variable {r r' : Registry} {address : GroupAddress} {id : ReadId} {t : News} {q : Inquiry}
  {qs qs' : List Inquiry} {heard : List News}

/-! ### The answer to a read -/

/-- What a telegram answers to the reads of an address: the data of a response for it. -/
def News.answerTo? (t : News) (address : GroupAddress) : Option Apdu :=
  if t.service = .response ∧ t.address = address then some t.data else none

namespace Inquiry

/-- **The answer to a read**: what the first telegram has answered that did, since it began. -/
def answer? (q : Inquiry) (heard : List News) : Option Apdu :=
  (heard.drop q.since).findSome? fun t => t.answerTo? q.address

/-- What is on the place of a read. -/
def slot (q : Inquiry) (heard : List News) : ReadSlot :=
  match q.answer? heard with
  | none => .waiting q.address
  | some data => .answered data

theorem slot_ne_free (q : Inquiry) (heard : List News) : q.slot heard ≠ .free := by
  unfold slot
  split <;> simp

/-- A read that begins has no answer. -/
theorem slot_of_length_le (h : heard.length ≤ q.since) : q.slot heard = .waiting q.address := by
  simp [slot, answer?, List.drop_eq_nil_of_le h]

/-- A telegram answers a read that has no answer yet. -/
theorem answer?_concat (h : q.since ≤ heard.length) (t : News) :
    q.answer? (heard ++ [t]) = (q.answer? heard).or (t.answerTo? q.address) := by
  rw [answer?, List.drop_append_of_le_length h, List.findSome?_append, List.findSome?_singleton]
  rfl

end Inquiry

/-- What is found on the place of a read is its answer. -/
theorem answer?_of_slot (h : r.reads[q.place] = q.slot heard) :
    r.answer? q.place = q.answer? heard := by
  rw [Registry.answer?, h, Inquiry.slot]
  cases q.answer? heard <;> rfl

/-! ### The invariant -/

/-- **On the place of every read is its answer.** -/
structure Answers (r : Registry) (qs : List Inquiry) (heard : List News) : Prop where
  /-- No two reads have one place. -/
  nodup : (qs.map Inquiry.place).Nodup
  slot : ∀ q ∈ qs, r.reads[q.place] = q.slot heard
  /-- There is nothing on the other places. -/
  free : ∀ id : ReadId, (∀ q ∈ qs, q.place ≠ id) → r.reads[id] = .free
  since : ∀ q ∈ qs, q.since ≤ heard.length

theorem answers_empty : empty.Answers [] [] where
  nodup := List.nodup_nil
  slot := by simp
  free id _ := getElem_reads_empty id
  since := by simp

theorem Answers.perm (h : r.Answers qs heard) (hq : qs.Perm qs') : r.Answers qs' heard where
  nodup := (hq.map _).nodup_iff.mp h.nodup
  slot q hq' := h.slot q (hq.mem_iff.mpr hq')
  free id hid := h.free id fun q hq' => hid q (hq.mem_iff.mp hq')
  since q hq' := h.since q (hq.mem_iff.mpr hq')

theorem Answers.ne_free_iff (h : r.Answers qs heard) (id : ReadId) :
    r.reads[id] ≠ .free ↔ ∃ q ∈ qs, q.place = id := by
  constructor
  · intro hne
    by_contra hnot
    exact hne (h.free id fun q hq hid => hnot ⟨q, hq, hid⟩)
  · rintro ⟨q, hq, rfl⟩
    rw [h.slot q hq]
    exact q.slot_ne_free heard

/-- A read begins, on a place of its own. -/
theorem Answers.begin (h : r.Answers qs heard) (hid : r.reads[id] = .free)
    (address : GroupAddress) :
    (r.setRead id (.waiting address)).Answers (qs ++ [⟨address, id, heard.length⟩]) heard := by
  have hnew : ∀ q ∈ qs, q.place ≠ id := fun q hq hplace =>
    (h.ne_free_iff id).mpr ⟨q, hq, hplace⟩ hid
  -- It does not matter in which order the reads began.
  refine Answers.perm ?_ (List.perm_append_singleton _ _).symm
  constructor
  case nodup =>
    rw [List.map_cons, List.nodup_cons]
    refine ⟨?_, h.nodup⟩
    rintro hmem
    obtain ⟨q, hq, hplace⟩ := List.mem_map.mp hmem
    exact hnew q hq hplace
  case slot =>
    intro q hq
    rw [getElem_setRead]
    rcases List.mem_cons.mp hq with rfl | hq
    · rw [if_pos rfl, Inquiry.slot_of_length_le (Nat.le_refl _)]
    · rw [if_neg (hnew q hq).symm, h.slot q hq]
  case free =>
    intro id' hid'
    rw [getElem_setRead, if_neg (hid' _ (List.mem_cons_self ..))]
    exact h.free id' fun q hq => hid' q (List.mem_cons_of_mem _ hq)
  case since =>
    exact List.forall_mem_cons.mpr ⟨Nat.le_refl _, h.since⟩

/-- A read is given up, and leaves nothing on its place. -/
theorem Answers.endRead (h : r.Answers (q :: qs) heard) : (r.endRead q.place).Answers qs heard := by
  obtain ⟨hnotMem, hnodup⟩ := List.nodup_cons.mp h.nodup
  have hother : ∀ q' ∈ qs, q.place ≠ q'.place := fun q' hq' hplace =>
    hnotMem (hplace ▸ List.mem_map_of_mem hq')
  constructor
  case nodup => exact hnodup
  case slot =>
    intro q' hq'
    rw [Registry.endRead, getElem_setRead, if_neg (hother q' hq')]
    exact h.slot q' (List.mem_cons_of_mem _ hq')
  case free =>
    intro id hid
    rw [Registry.endRead, getElem_setRead]
    split
    · rfl
    · exact h.free id (List.forall_mem_cons.mpr ⟨‹q.place ≠ id›, hid⟩)
  case since => exact fun q' hq' => h.since q' (List.mem_cons_of_mem _ hq')

/-- What a telegram does to the place of a read. -/
theorem getElem_onTelegram (r : Registry) (t : News) (id : ReadId) :
    (r.onTelegram t.service t.address t.data).2.reads[id] =
      if t.service = .response ∧ r.reads[id] = .waiting t.address then .answered t.data
      else r.reads[id] := by
  obtain ⟨service, address, data⟩ := t
  cases service with
  | read => simp [onTelegram]
  | write => simp [onTelegram, reads_update]
  | response =>
    simp only [onTelegram, reads_update, true_and]
    exact getElem_answerReads r address data id

/-- A telegram comes, and answers the reads that it has to. -/
theorem Answers.hear (h : r.Answers qs heard) (t : News) :
    (r.onTelegram t.service t.address t.data).2.Answers qs (heard ++ [t]) where
  nodup := h.nodup
  slot q hq := by
    rw [getElem_onTelegram, h.slot q hq, Inquiry.slot, Inquiry.slot,
      Inquiry.answer?_concat (h.since q hq)]
    cases q.answer? heard with
    | some data => simp
    | none =>
      by_cases ht : t.service = .response ∧ t.address = q.address
      · simp [News.answerTo?, ht]
      · have hwaiting : ¬ (t.service = .response ∧ q.address = t.address) := by
          rwa [@eq_comm _ q.address]
        simp [News.answerTo?, ht, hwaiting]
  free id hid := by
    rw [getElem_onTelegram, h.free id hid]
    simp
  since q hq := by
    have := h.since q hq
    rw [List.length_append]
    omega

/-- There are as many reads on the table as are held. -/
theorem Answers.readCount_eq (h : r.Answers qs heard) : r.readCount = qs.length := by
  have htaken : (Finset.univ.filter fun id : ReadId => decide (r.reads[id] ≠ .free) = true) =
      (qs.map Inquiry.place).toFinset := by
    ext id
    simp only [Finset.mem_filter, Finset.mem_univ, true_and, decide_eq_true_eq,
      h.ne_free_iff, List.mem_toFinset, List.mem_map]
  rw [readCount, countP_eq_card]
  refine (congrArg Finset.card htaken).trans ?_
  rw [List.toFinset_card_of_nodup h.nodup, List.length_map]

theorem readCount_eq_max_iff :
    r.readCount = maxPendingReads ↔ ∀ id : ReadId, r.reads[id] ≠ .free := by
  rw [readCount, Vector.countP_eq_size]
  constructor
  · intro h id
    exact of_decide_eq_true (h _ (Vector.getElem_mem id.isLt))
  · intro h slot hslot
    obtain ⟨i, hi, rfl⟩ := Vector.getElem_of_mem hslot
    exact decide_eq_true (h ⟨i, hi⟩)

theorem Answers.refused_iff (h : r.Answers qs heard) (f : Fault) :
    r.beginRead address = .error f ↔
      f = .tunneling .tooManyPendingReads ∧ qs.length = maxPendingReads := by
  rw [← h.readCount_eq, readCount_eq_max_iff]
  rcases r.beginRead_cases address with ⟨id, hid, hr⟩ | ⟨hall, hr⟩
  · rw [hr]
    exact iff_of_false (by simp) fun hf => hf.2 id hid
  · rw [hr, Except.error.injEq]
    constructor
    · rintro rfl
      exact ⟨rfl, hall⟩
    · exact fun hf => hf.1.symm

/-- A read that begins finds nothing that was there before. -/
theorem Answers.began (h : r.Answers qs heard) (hr : r.beginRead address = .ok (id, r')) :
    (∀ q ∈ qs, q.place ≠ id) ∧ r'.answer? id = none := by
  rcases r.beginRead_cases address with ⟨id', hfree, hok⟩ | ⟨-, herror⟩
  · obtain ⟨rfl, rfl⟩ := Prod.mk.inj (Except.ok.inj (hok.symm.trans hr))
    refine ⟨fun q hq hplace => (h.ne_free_iff id').mpr ⟨q, hq, hplace⟩ hfree, ?_⟩
    rw [answer?, getElem_setRead, if_pos rfl]
  · cases herror.symm.trans hr

namespace Usage

/-- **What every operation preserves**: on the place of every read is its answer. -/
theorem answers_after (u : Usage) (operation : Operation)
    (h : u.registry.Answers u.reads u.heard) :
    (u.after operation).registry.Answers (u.after operation).reads (u.after operation).heard := by
  -- Whatever changes only bindings leaves the table of reads as it is.
  have hsame : ∀ r : Registry, r.reads = u.registry.reads → r.Answers u.reads u.heard :=
    fun r hr => ⟨h.nodup, by simpa only [hr] using h.slot, by simpa only [hr] using h.free, h.since⟩
  cases operation with
  | bind address dpt =>
    simp only [after]
    cases hr : u.registry.bind address dpt with
    | ok r => exact hsame _ (reads_bind hr)
    | error f => exact h
  | release position =>
    simp only [after]
    cases u.points[position]? with
    | some p => exact hsame _ rfl
    | none => exact h
  | store place v => exact hsame _ rfl
  | beginWait place => exact hsame _ rfl
  | takeUpdate place =>
    simp only [after, takeUpdate?]
    cases u.registry.bindings[place].bind Binding.update with
    | some v => exact hsame _ rfl
    | none => exact h
  | beginRead address =>
    simp only [after]
    rcases u.registry.beginRead_cases address with ⟨id, hid, hr⟩ | ⟨-, hr⟩
    · rw [hr]
      exact h.begin hid address
    · rwa [hr]
  | endRead position =>
    simp only [after]
    cases hq : u.reads[position]? with
    | some q =>
      obtain ⟨hlt, rfl⟩ := List.getElem?_eq_some_iff.mp hq
      exact (h.perm (List.getElem_cons_eraseIdx_perm hlt).symm).endRead
    | none => exact h
  | hear t => exact h.hear t

/-- **The reads that are held have their answers**, and another can begin unless it cannot. -/
structure ReadsExact (u : Usage) : Prop where
  /-- Every read has a place of its own, -/
  nodup : (u.reads.map Inquiry.place).Nodup
  /-- and no other place is taken. -/
  ne_free_iff : ∀ id : ReadId, u.registry.reads[id] ≠ .free ↔ ∃ q ∈ u.reads, q.place = id
  readCount : u.registry.readCount = u.reads.length
  /-- A read cannot begin if there are as many as there can be, and for no other reason. -/
  refused_iff : ∀ address f, u.registry.beginRead address = .error f ↔
    f = .tunneling .tooManyPendingReads ∧ u.reads.length = maxPendingReads
  /-- A read that begins takes a place that no other has, and finds no answer there. -/
  began : ∀ address id r, u.registry.beginRead address = .ok (id, r) →
    (∀ q ∈ u.reads, q.place ≠ id) ∧ r.answer? id = none
  /-- The answer to a read is that of the first response for its address since it began. -/
  answer : ∀ q ∈ u.reads, u.registry.answer? q.place = q.answer? u.heard
  /-- A telegram answers every read that it is a response to and that has no answer yet; to all
  others it is nothing. -/
  hear : ∀ t, ∀ q ∈ u.reads, (u.after (.hear t)).registry.answer? q.place =
    (u.registry.answer? q.place).or (t.answerTo? q.address)

theorem answers_run (operations : List Operation) :
    (run operations).registry.Answers (run operations).reads (run operations).heard :=
  run_induction answers_empty (fun u operation h => answers_after u operation h) operations

/-- **Reads are answered exactly.** However a registry was used – reads begun, in vain or not,
and given up, answered or not, while telegrams of all kinds were heard – every read that is held
has a place of its own, and finds there the data of the first response for its address that was
heard since it began; and another read can begin unless all places are taken. -/
theorem readsExact_run (operations : List Operation) : (run operations).ReadsExact := by
  have h := answers_run operations
  generalize run operations = u at h
  constructor
  case nodup => exact h.nodup
  case ne_free_iff => exact h.ne_free_iff
  case readCount => exact h.readCount_eq
  case refused_iff => exact fun address f => h.refused_iff f
  case began => exact fun address id r hr => h.began hr
  case answer => exact fun q hq => answer?_of_slot (h.slot q hq)
  case hear =>
    intro t q hq
    rw [answer?_of_slot (h.slot q hq), ← Inquiry.answer?_concat (h.since q hq) t]
    exact answer?_of_slot ((h.hear t).slot q hq)

end Usage

/-- What is held of a registry in use has its answers there. -/
theorem InUse.answers {ps : List Point} (h : r.InUse ps qs heard) : r.Answers qs heard := by
  obtain ⟨operations, rfl, -, hq, rfl⟩ := h
  exact (Usage.answers_run operations).perm hq

end Registry

end KnxIp
