import KnxIp.Proofs.Host.Ledger

/-!
# The places of waiting callers, over a run

Four parties change the table of waiting callers, each at its own time: a call takes a place
and gives it back, the sender completes the places of the requests that it delivers, the end
of a session those of the requests that it lets go, and a call that is stopped abandons its
place, for whoever ends its request to free. With the tickets of `KnxIp.Ledger` one can say
in what state a place is (`KnxIp.Ledger.Place`): who holds it, which request names it, and
whose result lies in it.

Everything that happens to requests happens to a place in one of two ways. Either some of the
requests that name it end – at most one does, and then the place is completed
(`KnxIp.Ledger.Place.settle`) – or the call that holds it has a turn, or is stopped
(`KnxIp.Ledger.Placed.sending`, `KnxIp.Ledger.Placed.cancel`).

## Main statements

* `KnxIp.Ledger.places_run`: after every run, a place is free if and only if nobody holds it
  and nothing names it; no two pending requests name the same place; each request produces
  one result; what a call is told is the result of its own request; and a call is refused for
  lack of a place exactly if all of them are taken.
-/

namespace KnxIp

/-- The calls that wait for a request, each under its number. -/
def sendings (ks : List PendingCall) : List (Nat × Sending) :=
  ks.filterMap fun k => k.call.sending?.map fun q => (k.number, q)

/-- Those of them that hold a place. -/
def holders (qs : List (Nat × Sending)) (id : SlotId) : List (Nat × Sending) :=
  qs.filter fun x => x.2.slot? = some id

section Holders

variable {A B : List (Nat × Sending)} {x y : Nat × Sending} {id : SlotId}

theorem holders_append : holders (A ++ B) id = holders A id ++ holders B id :=
  List.filter_append ..

theorem holders_cons_of_eq (h : x.2.slot? = some id) : holders (x :: B) id = x :: holders B id :=
  List.filter_cons_of_pos (by simpa using h)

theorem holders_cons_of_ne (h : x.2.slot? ≠ some id) : holders (x :: B) id = holders B id :=
  List.filter_cons_of_neg (by simpa using h)

/-- A call that holds a place which only one holds is that one. -/
theorem eq_of_holders (hx : x.2.slot? = some id) (h : holders (A ++ x :: B) id = [y]) :
    x = y ∧ holders A id = [] ∧ holders B id = [] := by
  rw [holders_append, holders_cons_of_eq hx] at h
  cases hA : holders A id with
  | nil =>
    simp only [hA, List.nil_append, List.cons.injEq] at h
    exact ⟨h.1, rfl, h.2⟩
  | cons a l => simp [hA] at h

theorem holders_ne_nil (hx : x.2.slot? = some id) : holders (A ++ x :: B) id ≠ [] := by
  rw [holders_append, holders_cons_of_eq hx]
  simp

end Holders

theorem sendings_append (ks ks' : List PendingCall) :
    sendings (ks ++ ks') = sendings ks ++ sendings ks' := List.filterMap_append

theorem sendings_cons (k : PendingCall) (ks : List PendingCall) :
    sendings (k :: ks) =
      (k.call.sending?.map fun q => (k.number, q)).toList ++ sendings ks := by
  unfold sendings
  rw [List.filterMap_cons]
  cases k.call.sending? <;> rfl

/-- What waits of a call after its turn. -/
theorem sendings_rest (k : PendingCall) (c : Client) :
    sendings (k.rest c) =
      ((Call.waitsFor (k.call.poll c)).map fun q => (k.number, q)).toList := by
  unfold PendingCall.rest Call.waitsFor
  cases (k.call.poll c).1.rest? with
  | none => rfl
  | some call =>
    simp only [Option.map_some, Option.toList_some, Option.bind_some]
    rw [sendings_cons]
    simp [sendings]

/-- The numbers of the calls that wait are among those of all calls. -/
theorem mem_numbers {ks : List PendingCall} {x : Nat × Sending} (h : x ∈ sendings ks) :
    x.1 ∈ ks.map PendingCall.number := by
  obtain ⟨k, hk, hx⟩ := List.mem_filterMap.mp h
  obtain ⟨q, -, rfl⟩ := Option.map_eq_some_iff.mp hx
  exact List.mem_map_of_mem hk

/-- The calls that wait beside this one have other numbers. -/
theorem ne_number {pre post : List PendingCall} {k : PendingCall}
    (hn : ((pre ++ k :: post).map PendingCall.number).Nodup) :
    ∀ x ∈ sendings pre ++ sendings post, x.1 ≠ k.number := by
  intro x hx heq
  rw [← sendings_append] at hx
  have hmem := mem_numbers hx
  rw [heq] at hmem
  rw [List.map_append, List.map_cons, List.nodup_middle, ← List.map_append] at hn
  exact (List.nodup_cons.mp hn).1 hmem

/-- A call that begins holds no place. -/
theorem holders_begin {ks : List PendingCall} {k : PendingCall} (hk : k.call.slot? = none)
    (id : SlotId) : holders (sendings (ks ++ [k])) id = holders (sendings ks) id := by
  rw [sendings_append, sendings_cons, holders_append]
  cases hs : k.call.sending? with
  | none => simp [sendings, holders]
  | some q =>
    have hq : q.slot? = none := by simpa [Call.slot?, hs] using hk
    simp [sendings, holders, hq]

theorem holders_sendings_eq_nil_iff {ks : List PendingCall} {id : SlotId} :
    holders (sendings ks) id = [] ↔ ∀ k ∈ ks, k.call.slot? ≠ some id := by
  induction ks with
  | nil => simp [sendings, holders]
  | cons k ks ih =>
    rw [sendings_cons, holders_append, List.append_eq_nil_iff, ih, List.forall_mem_cons]
    refine and_congr ?_ Iff.rfl
    cases hs : k.call.sending? with
    | none => simp [holders, Call.slot?, hs]
    | some q => simp [holders, Call.slot?, hs]

theorem length_holders (ks : List PendingCall) (id : SlotId) :
    (holders (sendings ks) id).length = ks.countP fun k => k.call.slot? = some id := by
  induction ks with
  | nil => rfl
  | cons k ks ih =>
    rw [sendings_cons, holders_append, List.length_append, ih, List.countP_cons, Nat.add_comm]
    cases hs : k.call.sending? with
    | none => simp [holders, Call.slot?, hs]
    | some q =>
      by_cases hq : q.slot? = some id <;> simp [holders, Call.slot?, hs, hq]

/-- The call that alone holds a place. -/
theorem exists_of_holders {ks : List PendingCall} {id : SlotId} {n : Nat} {q : Sending}
    (h : holders (sendings ks) id = [(n, q)]) : ∃ k ∈ ks, k.call.sending? = some q := by
  have hmem : (n, q) ∈ holders (sendings ks) id := by simp [h]
  obtain ⟨k, hk, hx⟩ := List.mem_filterMap.mp (List.mem_filter.mp hmem).1
  obtain ⟨q', hq, heq⟩ := Option.map_eq_some_iff.mp hx
  cases heq
  exact ⟨k, hk, hq⟩

namespace Ledger

open Host

/-! ### The state of a place -/

/-- The place that a request names. -/
def slotOf (L : Ledger) (t : Nat) : Option SlotId := L.entered[t]?.bind Job.slot

/-- The pending requests that name a place. -/
def namers (L : Ledger) (id : SlotId) : List Nat := L.pending.filter fun t => L.slotOf t = some id

/-- **The state of a place**: the calls that hold it, the requests that name it, and what lies
in it. -/
inductive Place (L : Ledger) (qs : List (Nat × Sending)) (id : SlotId) : Slot → Prop
  /-- Nobody holds it, and nothing names it. -/
  | free (hq : holders qs id = []) (ht : L.namers id = []) : Place L qs id .free
  /-- A call holds it and waits for room in the queue. -/
  | claimed (n : Nat) (m : Cemi) (hq : holders qs id = [(n, .queueing m id)])
      (ht : L.namers id = []) : Place L qs id .waiting
  /-- A call holds it, and its request is pending. -/
  | handed (n t : Nat) (hq : holders qs id = [(n, .awaiting id)]) (ho : L.owner n = some t)
      (ht : L.namers id = [t]) : Place L qs id .waiting
  /-- A call holds it, and its request has ended. -/
  | ended (n t : Nat) (result : Except Fault Unit) (hq : holders qs id = [(n, .awaiting id)])
      (ho : L.owner n = some t) (hid : L.slotOf t = some id) (hr : (t, result) ∈ L.produced)
      (ht : L.namers id = []) : Place L qs id (.done result)
  /-- The call that held it is gone, and its request is pending. -/
  | abandoned (t : Nat) (hq : holders qs id = []) (ht : L.namers id = [t]) :
      Place L qs id .abandoned

/-- **Every place is in a state.** -/
def Placed (L : Ledger) (qs : List (Nat × Sending)) (slots : Vector Slot sendSlots) : Prop :=
  ∀ id : SlotId, L.Place qs id slots[id]

variable {L L' : Ledger} {qs qs' : List (Nat × Sending)} {id : SlotId} {s : Slot}

/-- **Requests end.** Of those that end at most one names the place, and it completes it. -/
theorem Place.settle (h : L.Place qs id s) (gone : List Nat) (result : Except Fault Unit)
    (hq : holders qs' id = holders qs id) (ht : (gone ++ L'.namers id).Perm (L.namers id))
    (hid : ∀ t, L.slotOf t = some id → L'.slotOf t = some id)
    (hp : ∀ x ∈ L.produced, x ∈ L'.produced) (hg : ∀ t ∈ gone, (t, result) ∈ L'.produced)
    (ho : ∀ x ∈ holders qs id, L'.owner x.1 = L.owner x.1) :
    L'.Place qs' id (if gone = [] then s else s.completed result) := by
  -- Nothing that names the place ends if nothing names it.
  have hnone : L.namers id = [] → gone = [] ∧ L'.namers id = [] := by
    intro hn
    rw [hn] at ht
    simpa using ht.eq_nil
  have hone : ∀ t, L.namers id = [t] →
      gone = [] ∧ L'.namers id = [t] ∨ gone = [t] ∧ L'.namers id = [] := by
    intro t hn
    rw [hn, List.perm_singleton] at ht
    rcases List.append_eq_singleton_iff.mp ht with h | h
    · exact Or.inl h
    · exact Or.inr h
  have hnamed : ∀ t, L.namers id = [t] → L.slotOf t = some id := by
    intro t hn
    have : t ∈ L.namers id := by simp [hn]
    simpa using (List.mem_filter.mp this).2
  cases h with
  | free hq' ht' =>
    obtain ⟨rfl, hn⟩ := hnone ht'
    exact .free (hq.trans hq') hn
  | claimed n m hq' ht' =>
    obtain ⟨rfl, hn⟩ := hnone ht'
    exact .claimed n m (hq.trans hq') hn
  | handed n t hq' ho' ht' =>
    have hown : L'.owner n = some t := (ho (n, .awaiting id) (by simp [hq'])).trans ho'
    rcases hone t ht' with ⟨rfl, hn⟩ | ⟨rfl, hn⟩
    · exact .handed n t (hq.trans hq') hown hn
    · exact .ended n t result (hq.trans hq') hown (hid t (hnamed t ht')) (hg t (by simp)) hn
  | ended n t result' hq' ho' hid' hr ht' =>
    obtain ⟨rfl, hn⟩ := hnone ht'
    have hown : L'.owner n = some t := (ho (n, .awaiting id) (by simp [hq'])).trans ho'
    exact .ended n t result' (hq.trans hq') hown (hid t hid') (hp _ hr) hn
  | abandoned t hq' ht' =>
    rcases hone t ht' with ⟨rfl, hn⟩ | ⟨rfl, hn⟩
    · exact .abandoned t (hq.trans hq') hn
    · exact .free (hq.trans hq') hn

/-- A place that is not concerned stays in its state. -/
theorem Place.frame (h : L.Place qs id s) (hq : holders qs' id = holders qs id)
    (ht : L'.namers id = L.namers id) (hid : ∀ t, L.slotOf t = some id → L'.slotOf t = some id)
    (hp : ∀ x ∈ L.produced, x ∈ L'.produced)
    (ho : ∀ x ∈ holders qs id, L'.owner x.1 = L.owner x.1) : L'.Place qs' id s :=
  h.settle [] (.ok ()) hq (by simp [ht]) hid hp (by simp) ho

/-- One place changes, and the others stay in their states. -/
theorem Placed.setSlot {id₀ : SlotId} (c : Client) (h : L.Place qs id₀ s)
    (hother : ∀ id, id₀ ≠ id → L.Place qs id c.slots[id]) :
    L.Placed qs (c.setSlot id₀ s).slots := by
  intro id
  rw [Client.getElem_setSlot]
  by_cases hid : id₀ = id
  · subst hid
    rwa [if_pos rfl]
  · rw [if_neg hid]
    exact hother id hid

/-! ### Requests end -/

section Ending

variable {queue : List Job} {job : Option Job}

/-- The places that the requests in the queue name. -/
theorem Fits.map_slotOf (h : L.Fits queue job) : L.queued.map L.slotOf = queue.map Job.slot := by
  have := congrArg (List.map fun o : Option Job => o.bind Job.slot) h.queue
  rw [List.map_map, List.map_map] at this
  exact this

/-- The place that the request in flight names. -/
theorem Fits.slotOf_inFlight {t : Nat} {j : Job} (h : L.Fits queue (some j))
    (ht : L.inFlight = some t) : L.slotOf t = j.slot := by
  have hjob := h.job
  simp only [ht, Option.map_some, Option.some.injEq] at hjob
  simp [slotOf, hjob]

/-- **The queue stays, or is let go**, and with it the requests that are in it. -/
theorem Placed.drops {c c' : Client} (h : L.Placed qs c.slots) (caller : Option Nat)
    (hf : L.Fits c.queue.toList job) (hd : c.Drops c') :
    (L.requeue c'.queue.toList caller).Placed qs c'.slots := by
  rcases hd with ⟨hq, hs⟩ | ⟨hq, hs⟩
  · rw [hq, hs, requeue_of_length hf.length_eq.symm]
    exact h
  · have hempty : c'.queue.toList = [] := by
      rw [hq]
      rfl
    rw [hempty, requeue_nil, hs]
    intro id
    -- Of the requests that are let go, those that name this place end for it.
    have hgone : (L.queued.filter fun t => L.slotOf t = some id) = [] ↔
        ¬ ∃ job ∈ c.queue.toList, job.slot = some id := by
      rw [← List.mem_map, ← hf.map_slotOf]
      simp [List.filter_eq_nil_iff]
    have hsettle : Ledger.Place { L with
        queued := []
        produced := L.produced ++ L.queued.map fun t => (t, .error Client.lost) } qs id _ :=
      (h id).settle (L.queued.filter fun t => L.slotOf t = some id) (.error Client.lost) rfl ?_
        (fun _ h => h) (fun x hx => List.mem_append_left _ hx) ?_ (fun _ _ => rfl)
    · rw [Client.getElem_foldl_dropSlot]
      by_cases hmem : ∃ job ∈ c.queue.toList, job.slot = some id
      · rw [if_pos hmem]
        rwa [if_neg (fun hn => hgone.mp hn hmem)] at hsettle
      · rw [if_neg hmem]
        rwa [if_pos (hgone.mpr hmem)] at hsettle
    · simp only [namers, pending, List.append_nil, List.filter_append]
      exact List.perm_append_comm
    · intro t ht
      exact List.mem_append_right _ (List.mem_map_of_mem (List.mem_filter.mp ht).1)

/-- **The request in flight ends**, and completes the place that it names. -/
theorem Placed.conclude {slots slots' : Vector Slot sendSlots} {j : Job} (h : L.Placed qs slots)
    (hf : L.Fits queue (some j)) (result : Except Fault Unit)
    (hs : ∀ id : SlotId, slots'[id] =
      if j.slot = some id then slots[id].completed result else slots[id]) :
    (L.conclude result).Placed qs slots' := by
  obtain ⟨t, ht⟩ := Option.isSome_iff_exists.mp (hf.inFlight_isSome.trans rfl)
  have hslot := hf.slotOf_inFlight ht
  intro id
  -- One request ends, which may name this place or another one, or none.
  have hsettle : (L.conclude result).Place qs id _ :=
    (h id).settle ([t].filter fun t => L.slotOf t = some id) result rfl ?_ ?_ ?_ ?_ ?_
  · rw [hs id]
    by_cases hj : j.slot = some id
    · rw [if_pos hj]
      rwa [if_neg (by simp [hslot, hj])] at hsettle
    · rw [if_neg hj]
      rwa [if_pos (by simp [hslot, hj])] at hsettle
  · simp only [namers, pending, Ledger.conclude, ht, Option.toList_some, Option.toList_none,
      List.nil_append, List.filter_append]
    exact List.Perm.refl _
  · intro t' ht'
    simpa [slotOf, Ledger.conclude, ht] using ht'
  · intro x hx
    simp [Ledger.conclude, ht, hx]
  · intro t' ht'
    have : t' = t := List.mem_singleton.mp (List.mem_filter.mp ht').1
    simp [Ledger.conclude, ht, this]
  · intro x _
    simp [Ledger.conclude, ht]

end Ending

/-! ### Requests enter the queue -/

section Entering

variable {queue : List Job} {job : Option Job} {caller : Option Nat} {j : Job}

/-- What was given a ticket names the same place for ever. -/
theorem slotOf_requeue {t : Nat} (h : L.slotOf t = some id) :
    (L.requeue queue caller).slotOf t = some id := by
  unfold slotOf at h ⊢
  cases ht : L.entered[t]? with
  | none => simp [ht] at h
  | some job =>
    have hlt := (List.getElem?_eq_some_iff.mp ht).1
    simp only [requeue, List.getElem?_append_left hlt]
    exact h

/-- A request that enters the queue joins those that name its place. -/
theorem Fits.namers_concat (hf : L.Fits queue job) (id : SlotId) :
    (L.requeue (queue ++ [j]) caller).namers id =
      L.namers id ++ if j.slot = some id then [L.entered.length] else [] := by
  have hentered : (L.requeue (queue ++ [j]) caller).entered = L.entered ++ [j] := by
    rw [Ledger.requeue_concat hf.length_eq.symm]
  have hpending : (L.requeue (queue ++ [j]) caller).pending = L.pending ++ [L.entered.length] := by
    rw [Ledger.requeue_concat hf.length_eq.symm]
    simp [pending]
  have hold : ∀ t ∈ L.pending, (L.requeue (queue ++ [j]) caller).slotOf t = L.slotOf t := by
    intro t ht
    have hlt : t < L.entered.length := by
      simpa using hf.count.mem_iff.mp (List.mem_append_left _ ht)
    rw [slotOf, hentered, List.getElem?_append_left hlt, slotOf]
  have hnew : (L.requeue (queue ++ [j]) caller).slotOf L.entered.length = j.slot := by
    rw [slotOf, hentered]
    simp
  rw [namers, hpending, List.filter_append, List.filter_congr fun t ht => by rw [hold t ht], namers]
  by_cases hj : j.slot = some id <;> simp [hnew, hj]

end Entering

/-! ### Calls have their turns -/

section Calling

variable {A B : List (Nat × Sending)} {n : Nat} {q : Sending} {c c' : Client}
  {job : Option Job} {p : Progress (Except Fault Unit) Sending}

/-- The places that a call does not concern stay as they are in its turn: those that it held
neither before nor holds afterwards. -/
theorem Place.other (h : L.Place (A ++ (n, q) :: B) id s) (rest : List (Nat × Sending))
    (hq : q.slot? ≠ some id) (hrest : holders rest id = [])
    (hn : ∀ x ∈ A ++ B, x.1 ≠ n) (ht : L'.namers id = L.namers id)
    (hid : ∀ t, L.slotOf t = some id → L'.slotOf t = some id)
    (hp : ∀ x ∈ L.produced, x ∈ L'.produced) (ho : ∀ n' ≠ n, L'.owner n' = L.owner n') :
    L'.Place (A ++ (rest ++ B)) id s := by
  have hsame : holders (A ++ (n, q) :: B) id = holders (A ++ B) id := by
    rw [holders_append, holders_append, holders_cons_of_ne hq]
  refine h.frame ?_ ht hid hp ?_
  · rw [hsame, holders_append, holders_append, holders_append, hrest, List.nil_append]
  · intro x hx
    rw [hsame] at hx
    exact ho _ (hn x (List.mem_filter.mp hx).1)

/-- **A request enters the queue** with the place of its call, which nothing named before. -/
theorem Placed.enter {slots slots' : Vector Slot sendSlots} {queue : List Job} {m : Cemi}
    {id₀ : SlotId} (h : L.Placed (A ++ (n, q) :: B) slots) (hf : L.Fits queue job)
    (hn : ∀ x ∈ A ++ B, x.1 ≠ n) (hA : holders A id₀ = []) (hB : holders B id₀ = [])
    (ht : L.namers id₀ = []) (hq : ∀ id, id ≠ id₀ → q.slot? ≠ some id)
    (hs : ∀ id : SlotId, slots'[id] = if id = id₀ then .waiting else slots[id]) :
    (L.requeue (queue ++ [⟨m, some id₀⟩]) (some n)).Placed (A ++ ((n, .awaiting id₀) :: B))
      slots' := by
  have howner : (L.requeue (queue ++ [⟨m, some id₀⟩]) (some n)).owner =
      Function.update L.owner n (some L.entered.length) := by
    rw [Ledger.requeue_concat hf.length_eq.symm]
  intro id
  rw [hs id]
  by_cases hid : id = id₀
  · -- The call is the owner of the new ticket, which is the only one that names the place.
    subst hid
    rw [if_pos rfl]
    refine .handed n L.entered.length ?_ (by rw [howner, Function.update_self]) ?_
    · rw [holders_append, holders_cons_of_eq rfl, hA, hB]
      rfl
    · rw [hf.namers_concat, ht]
      simp
  · have hne : ¬ id₀ = id := fun heq => hid heq.symm
    rw [if_neg hid]
    refine (h id).other [(n, .awaiting id₀)] (hq id hid) ?_ hn ?_
      (fun _ => slotOf_requeue) ?_ ?_
    · rw [holders_cons_of_ne (by simpa [Sending.slot?] using hne)]
      rfl
    · rw [hf.namers_concat]
      simp [hne]
    · intro x hx
      rw [Ledger.requeue_concat hf.length_eq.symm]
      exact hx
    · intro n' hn'
      rw [howner, Function.update_of_ne hn']

/-- Of a place that is free, nothing is left. -/
theorem Place.of_free (h : L.Place (A ++ (n, q) :: B) id .free) :
    holders A id = [] ∧ holders B id = [] ∧ L.namers id = [] := by
  cases h with
  | free hq ht =>
    rw [holders_append, List.append_eq_nil_iff] at hq
    refine ⟨hq.1, ?_, ht⟩
    by_cases hx : q.slot? = some id
    · rw [holders_cons_of_eq hx] at hq
      cases hq.2
    · rw [holders_cons_of_ne hx] at hq
      exact hq.2

/-- A place whose call waits for room in the queue is named by nothing yet. -/
theorem Place.of_queueing {m : Cemi} (h : L.Place (A ++ (n, .queueing m id) :: B) id s) :
    s = .waiting ∧ holders A id = [] ∧ holders B id = [] ∧ L.namers id = [] := by
  have hne : holders (A ++ (n, .queueing m id) :: B) id ≠ [] := holders_ne_nil rfl
  cases h with
  | free hq ht => exact absurd hq hne
  | claimed n' m' hq ht =>
    obtain ⟨-, hA, hB⟩ := eq_of_holders rfl hq
    exact ⟨rfl, hA, hB, ht⟩
  | handed n' t hq ho ht => cases (eq_of_holders rfl hq).1
  | ended n' t r hq ho hid hr ht => cases (eq_of_holders rfl hq).1
  | abandoned t hq ht => exact absurd hq hne

/-- The place of a call that waits for the sender: its request is pending, or has ended with
the result that lies there. -/
theorem Place.of_awaiting (h : L.Place (A ++ (n, .awaiting id) :: B) id s) :
    holders A id = [] ∧ holders B id = [] ∧ ∃ t, L.owner n = some t ∧ L.slotOf t = some id ∧
      (s = .waiting ∧ L.namers id = [t] ∨
        ∃ result, s = .done result ∧ L.namers id = [] ∧ (t, result) ∈ L.produced) := by
  have hne : holders (A ++ (n, .awaiting id) :: B) id ≠ [] := holders_ne_nil rfl
  cases h with
  | free hq ht => exact absurd hq hne
  | claimed n' m' hq ht => cases (eq_of_holders rfl hq).1
  | handed n' t hq ho ht =>
    obtain ⟨heq, hA, hB⟩ := eq_of_holders rfl hq
    cases heq
    have hmem : t ∈ L.namers id := by simp [ht]
    exact ⟨hA, hB, t, ho, by simpa using (List.mem_filter.mp hmem).2, Or.inl ⟨rfl, ht⟩⟩
  | ended n' t r hq ho hid hr ht =>
    obtain ⟨heq, hA, hB⟩ := eq_of_holders rfl hq
    cases heq
    exact ⟨hA, hB, t, ho, hid, Or.inr ⟨r, rfl, ht, hr⟩⟩
  | abandoned t hq ht => exact absurd hq hne

/-- **A turn of a call that waits for its request.** -/
theorem Placed.sending (h : L.Placed (A ++ (n, q) :: B) c.slots) (hf : L.Fits c.queue.toList job)
    (hn : ∀ x ∈ A ++ B, x.1 ≠ n) (t : q.Turn c p c') :
    (L.requeue c'.queue.toList (some n)).Placed
      (A ++ ((p.rest?.map fun q => (n, q)).toList ++ B)) c'.slots := by
  have hstay : L.requeue c.queue.toList (some n) = L := requeue_of_length hf.length_eq.symm
  -- A place that the call neither held nor holds is not concerned, nor is the ledger.
  have hother : ∀ (id : SlotId) (rest : List (Nat × Sending)), q.slot? ≠ some id →
      holders rest id = [] → L.Place (A ++ (rest ++ B)) id c.slots[id] :=
    fun id rest hq hrest => (h id).other rest hq hrest hn rfl (fun _ h => h) (fun _ h => h)
      (fun _ _ => rfl)
  cases t with
  | refused m hc =>
    rw [hstay]
    exact fun id => hother id [] (by simp [Sending.slot?]) rfl
  | full m hc hs =>
    rw [hstay]
    exact fun id => hother id [] (by simp [Sending.slot?]) rfl
  | wait =>
    rw [hstay]
    exact h
  | hold m id₀ hs =>
    have hstay' : L.requeue (c.setSlot id₀ .waiting).queue.toList (some n) = L := hstay
    obtain ⟨hA, hB, ht⟩ := (hs ▸ h id₀).of_free
    rw [hstay']
    refine Placed.setSlot c (.claimed n m ?_ ht) fun id hid => ?_
    · simp only [Progress.rest?_waiting, Option.map_some, Option.toList_some, List.singleton_append]
      rw [holders_append, holders_cons_of_eq rfl, hA, hB]
      rfl
    · refine hother id _ (by simp [Sending.slot?]) ?_
      exact holders_cons_of_ne (by simpa [Sending.slot?] using hid)
  | enter m id₀ q hs hq =>
    obtain ⟨hA, hB, ht⟩ := (hs ▸ h id₀).of_free
    have hpush : q.toList = c.queue.toList ++ [⟨m, some id₀⟩] := Queue.toList_of_push? hq
    simp only [hpush]
    refine h.enter hf hn hA hB ht (by simp [Sending.slot?]) fun id => ?_
    rw [Client.getElem_setSlot]
    by_cases hid : id₀ = id <;> simp [hid, eq_comm]
  | join m id₀ q hq =>
    obtain ⟨hw, hA, hB, ht⟩ := (h id₀).of_queueing
    have hpush : q.toList = c.queue.toList ++ [⟨m, some id₀⟩] := Queue.toList_of_push? hq
    simp only [hpush]
    refine h.enter hf hn hA hB ht (fun id hid => ?_) fun id => ?_
    · simpa [Sending.slot?] using fun heq => hid heq.symm
    · by_cases hid : id = id₀
      · rw [if_pos hid, hid, hw]
      · rw [if_neg hid]
  | collect id₀ result hs =>
    have hstay' : L.requeue (c.setSlot id₀ .free).queue.toList (some n) = L := hstay
    rw [hstay']
    obtain ⟨hA, hB, t, -, -, ⟨hw, -⟩ | ⟨-, -, ht, -⟩⟩ := (h id₀).of_awaiting
    · rw [hs] at hw
      cases hw
    · refine Placed.setSlot c (.free ?_ ht) fun id hid => ?_
      · simp only [Progress.rest?_done, Option.map_none, Option.toList_none, List.nil_append]
        rw [holders_append, hA, hB]
        rfl
      · exact hother id [] (by simpa [Sending.slot?] using hid) rfl

/-- **A call that waits for its request is stopped.** -/
theorem Placed.cancel (h : L.Placed (A ++ (n, q) :: B) c.slots) (hn : ∀ x ∈ A ++ B, x.1 ≠ n) :
    L.Placed (A ++ B) (q.cancel c).slots := by
  have hother : ∀ id : SlotId, q.slot? ≠ some id → L.Place (A ++ B) id c.slots[id] :=
    fun id hq => (h id).other [] hq rfl hn rfl (fun _ h => h) (fun _ h => h)
      (fun _ _ => rfl)
  cases q with
  | start m => exact fun id => hother id (by simp [Sending.slot?])
  | queueing m id₀ =>
    obtain ⟨-, hA, hB, ht⟩ := (h id₀).of_queueing
    refine Placed.setSlot c (.free ?_ ht) fun id hid => ?_
    · rw [holders_append, hA, hB]
      rfl
    · exact hother id (by simpa [Sending.slot?] using hid)
  | awaiting id₀ =>
    obtain ⟨hA, hB, t, -, -, hcases⟩ := (h id₀).of_awaiting
    have hnobody : holders (A ++ B) id₀ = [] := by
      rw [holders_append, hA, hB]
      rfl
    have hothers : ∀ id, id₀ ≠ id → L.Place (A ++ B) id c.slots[id] :=
      fun id hid => hother id (by simpa [Sending.slot?] using hid)
    -- Whether the place is freed or abandoned depends on whether its request is still pending.
    simp only [Sending.cancel, Client.releaseSlot]
    rcases hcases with ⟨hw, ht⟩ | ⟨result, hw, ht, -⟩
    · simp only [hw]
      exact Placed.setSlot c (.abandoned t hnobody ht) hothers
    · simp only [hw]
      exact Placed.setSlot c (.free hnobody ht) hothers

end Calling

/-! ### Every turn -/

/-- What does not concern the tickets concerns no place. -/
theorem Placed.of_eq {slots : Vector Slot sendSlots} (h : L.Placed qs slots)
    (hp : L'.pending = L.pending) (he : L'.entered = L.entered) (hr : L'.produced = L.produced)
    (ho : ∀ x ∈ qs, L'.owner x.1 = L.owner x.1) : L'.Placed qs slots := by
  have hslot : L'.slotOf = L.slotOf := by
    funext t
    rw [slotOf, slotOf, he]
  intro id
  refine (h id).frame rfl (by rw [namers, namers, hp, hslot])
    (fun t => by rw [hslot]; exact fun h => h) (fun x hx => by rw [hr]; exact hx)
    fun x hx => ho x (List.mem_filter.mp hx).1

/-- **A turn of the sender.** -/
theorem Placed.send {c : Client} {s : Sender} (h : L.Placed qs c.slots)
    (hf : L.Fits c.queue.toList s.job?) :
    (L.note ⟨.send s, c, (s.poll c).2⟩).Placed qs (s.poll c).2.slots := by
  have hemit : ∀ {L : Ledger} {m : Moment} {slots : Vector Slot sendSlots}, L.Placed qs slots →
      (L.emit m).Placed qs slots := fun h => h.of_eq rfl rfl rfl fun _ _ => rfl
  simp only [note]
  cases hw : s.work? c with
  | none =>
    obtain ⟨hc, -, -, -⟩ := Sender.poll_of_work?_eq_none hw
    rw [hc, hf.takeFor_of_work?_eq_none hw, requeue_of_length hf.length_eq.symm]
    exact hemit h
  | some r =>
    obtain ⟨job, p⟩ := r
    obtain ⟨b, hb, hfits, hdrops⟩ := hf.work hw
    have htake : (L.takeFor s c).Placed qs b.slots := by
      rw [hb]
      obtain ⟨queued, inFlight, begun, htake⟩ := L.takeFor_eq s c
      exact h.of_eq hf.pending_takeFor (by rw [htake]) (by rw [htake]) fun x _ => by rw [htake]
    have hdone := hemit (m := ⟨.send s, c, (Sender.follow job p).2⟩)
      (htake.drops none hfits hdrops)
    have hfits' := (hf.takeFor hw).emit ⟨.send s, c, (Sender.follow job p).2⟩
    rw [Sender.poll_of_work? hw, Sender.queue_follow]
    obtain ⟨result | t, c'⟩ := p
    · exact hdone.conclude hfits' result (Sender.getElem_slots_finish job result c')
    · exact hdone

/-- **The sender is stopped.** -/
theorem Placed.stop {c b : Client} {s : Sender} (h : L.Placed qs c.slots)
    (hf : L.Fits c.queue.toList s.job?) (hb : c.Aside b) :
    (L.note ⟨.stop s, c, s.cancel b⟩).Placed qs (s.cancel b).slots := by
  rw [note_stop]
  cases hjob : s.job? with
  | none =>
    have hcancel : s.cancel b = b := by simp [Sender.cancel, hjob]
    rw [hcancel, hb.slots]
    exact h
  | some job =>
    rw [hjob] at hf
    rw [← hb.slots] at h
    exact h.conclude hf _ (Sender.getElem_slots_cancel hjob b)

section Turns

variable {pre post : List PendingCall} {k : PendingCall} {c : Client} {job : Option Job}

/-- A call that waits for nothing may forget what an earlier call with its number did. -/
theorem Placed.forget {slots : Vector Slot sendSlots} (h : L.Placed qs slots)
    (hn : k.call.sending? = none → ∀ x ∈ qs, x.1 ≠ k.number) :
    ((L.tell c k).forget k).Placed qs slots := by
  refine h.of_eq rfl rfl rfl fun x hx => ?_
  cases hk : k.call.sending? with
  | none => simp [Ledger.forget, hk, tell, Function.update_of_ne (hn hk x hx)]
  | some q => simp [Ledger.forget, hk, tell]

/-- As far as places are concerned, a call in which another one waits for a request is that
other one. -/
theorem Placed.of_question {q : Sending} {b : Client}
    (h : L.Placed (sendings (pre ++ k :: post)) c.slots)
    (hn : ∀ x ∈ sendings pre ++ sendings post, x.1 ≠ k.number)
    (hq : k.call.question? c = some (q, b)) :
    ((L.tell c k).forget k).Placed (sendings pre ++ (k.number, q) :: sendings post) b.slots := by
  obtain ⟨hb, -, -⟩ := Call.poll_of_question? hq
  rw [sendings_append, sendings_cons] at h
  rw [hb.slots]
  cases hs : k.call.sending? with
  | none =>
    obtain ⟨m, rfl⟩ := Call.start_of_question? hs hq
    rw [hs] at h
    have hL := h.forget (c := c) (k := k) fun _ => hn
    -- A call that has only begun holds no place, so that it makes no difference.
    refine fun id => (hL id).frame ?_ rfl (fun _ h => h) (fun _ h => h) (fun _ _ => rfl)
    rw [holders_append, holders_cons_of_ne (by simp [Sending.slot?]), holders_append]
    rfl
  | some q' =>
    have heq := Call.question?_of_sending? hs c
    rw [hq] at heq
    cases heq
    rw [hs] at h
    exact h.forget (by simp [hs])

/-- **A call has its turn that waits for no request.** -/
theorem Placed.poll_of_question?_eq_none
    (h : ((L.tell c k).forget k).Placed (sendings pre ++ sendings post) c.slots)
    (hf : ((L.tell c k).forget k).Fits c.queue.toList job)
    (hn : ∀ x ∈ sendings pre ++ sendings post, x.1 ≠ k.number)
    (hq : k.call.question? c = none) :
    (((L.tell c k).forget k).requeue (k.call.poll c).2.queue.toList (some k.number)).Placed
      (sendings pre ++ sendings post) (k.call.poll c).2.slots := by
  rcases Call.poll_cases hq with ⟨-, hm⟩ | ⟨-, b, ho, hm⟩ | ⟨-, b, hj, ha⟩
  · exact h.drops _ hf hm.drops
  · exact h.drops _ hf (ho.drops.trans hm.drops)
  · obtain ⟨m, q, hpush⟩ := hj
    rw [ha.queue, ha.slots]
    simp only [Queue.toList_of_push? hpush]
    -- The request names no place; only what the call has handed over is another one.
    intro id
    refine (h id).frame rfl ?_ (fun _ => slotOf_requeue) ?_ ?_
    · rw [hf.namers_concat]
      simp
    · intro x hx
      rw [Ledger.requeue_concat hf.length_eq.symm]
      exact hx
    · intro x hx
      rw [Ledger.requeue_concat hf.length_eq.symm]
      exact Function.update_of_ne (hn x (List.mem_filter.mp hx).1) _ _

/-- **A call has its turn.** -/
theorem Placed.call (h : L.Placed (sendings (pre ++ k :: post)) c.slots)
    (hf : L.Fits c.queue.toList job)
    (hn : ((pre ++ k :: post).map PendingCall.number).Nodup) :
    (L.note ⟨.call k, c, (k.call.poll c).2⟩).Placed (sendings (pre ++ (k.rest c ++ post)))
      (k.call.poll c).2.slots := by
  have hne := ne_number hn
  have hf' : ((L.tell c k).forget k).Fits c.queue.toList job := (hf.tell c k).forget k
  rw [note_call]
  rw [sendings_append, sendings_append, sendings_rest]
  cases hq : k.call.question? c with
  | some r =>
    obtain ⟨q, b⟩ := r
    obtain ⟨hb, hwait, hc⟩ := Call.poll_of_question? hq
    rw [← hb.queue] at hf'
    rw [hwait, hc.queue, hc.slots]
    exact (h.of_question hne hq).sending hf' hne (q.turn_poll b)
  | none =>
    have hs : k.call.sending? = none := by
      by_contra hs
      obtain ⟨q, hs⟩ := Option.ne_none_iff_exists'.mp hs
      rw [Call.question?_of_sending? hs c] at hq
      cases hq
    rw [sendings_append, sendings_cons, hs] at h
    rw [Call.waitsFor_of_question? hq]
    exact (h.forget fun _ => hne).poll_of_question?_eq_none hf' hne hq

/-- **A call is stopped.** -/
theorem Placed.stopCall (h : L.Placed (sendings (pre ++ k :: post)) c.slots)
    (hn : ((pre ++ k :: post).map PendingCall.number).Nodup) :
    L.Placed (sendings (pre ++ post)) (k.call.cancel c).slots := by
  rw [sendings_append, sendings_cons] at h
  rw [sendings_append]
  cases hs : k.call.sending? with
  | none =>
    rw [hs] at h
    rw [(Call.cancel_of_no_sending hs c).slots]
    exact h
  | some q =>
    rw [hs] at h
    rw [(Call.cancel_of_sending? hs c).slots]
    exact Placed.cancel h (ne_number hn)

end Turns

/-- **What calls were told** is what their own requests have produced. -/
def Told (L : Ledger) : Prop :=
  ∀ r ∈ L.returned, ∃ t, r.ticket = some t ∧ (t, r.result) ∈ L.produced

/-- What is told stays true as long as results are only added. -/
theorem Told.of_eq (h : L.Told) (hr : L'.returned = L.returned)
    (hp : ∀ x ∈ L.produced, x ∈ L'.produced) : L'.Told := by
  intro r hr'
  rw [hr] at hr'
  obtain ⟨t, ht, hres⟩ := h r hr'
  exact ⟨t, ht, hp _ hres⟩

theorem Told.requeue (h : L.Told) (queue : List Job) (caller : Option Nat) :
    (L.requeue queue caller).Told :=
  h.of_eq rfl fun _ hx => List.mem_append_left _ hx

theorem Told.conclude (h : L.Told) (result : Except Fault Unit) : (L.conclude result).Told := by
  unfold Ledger.conclude
  split
  · exact h.of_eq rfl fun _ hx => List.mem_append_left _ hx
  · exact h

/-- **A call is told** what its own request has produced. -/
theorem Told.tell {pre post : List PendingCall} {k : PendingCall} {c : Client} (h : L.Told)
    (hpl : L.Placed (sendings (pre ++ k :: post)) c.slots) : (L.tell c k).Told := by
  intro r hr
  rcases List.mem_append.mp hr with hr | hr
  · exact h r hr
  · obtain ⟨result, hres, rfl⟩ := List.mem_map.mp hr
    have htold : told? c k = some result := by simpa using hres
    unfold told? at htold
    split at htold
    · rename_i id hs
      rw [sendings_append, sendings_cons, hs] at hpl
      obtain ⟨-, -, t, ho, -, hcases⟩ := Place.of_awaiting (hpl id)
      rcases hcases with ⟨hw, -⟩ | ⟨result', hw, -, hprod⟩
      · simp [Sending.poll, hw] at htold
      · simp only [Sending.poll, hw, Option.some.injEq] at htold
        subst htold
        exact ⟨t, ho, hprod⟩
    · cases htold

/-- **A turn** leaves every place in a state. -/
theorem Placed.turn {S S' : Stage} {m : Moment} (t : Turn S m S')
    (hf : L.Fits S.client.queue.toList (S.sender.bind Sender.job?))
    (hn : (S.calls.map PendingCall.number).Nodup)
    (h : L.Placed (sendings S.calls) S.client.slots) :
    (L.note m).Placed (sendings S'.calls) S'.client.slots := by
  cases t with
  | receive c s ks d socket =>
    have hb : c.Drops { c with socket := socket } := .none rfl rfl
    have hL : (L.receive c d).Placed (sendings ks) c.slots := by
      unfold Ledger.receive
      split
      · exact h.of_eq rfl rfl rfl fun _ _ => rfl
      · exact h
    rw [note_receive]
    exact hL.drops none (hf.receive c d) (hb.trans (Client.drops_onDatagram _ _))
  | send c s ks => exact h.send hf
  | stop s ks hb => exact h.stop hf hb
  | start c ks =>
    rw [note_other]
    exact h.drops none hf (.none rfl rfl)
  | begin c s ks k hn' hk =>
    rw [note_other]
    have hL := h.drops none hf (.none rfl rfl)
    exact fun id => (hL id).frame (holders_begin hk id) rfl (fun _ h => h) (fun _ h => h)
      (fun _ _ => rfl)
  | call c s pre k post => exact h.call hf hn
  | cancel c s pre k post =>
    rw [note_cancel]
    exact h.stopCall hn
  | move s ks hm =>
    rw [note_other]
    exact h.drops none hf hm.drops

/-- **A turn** tells no call anything else than what its own request has produced. -/
theorem Told.turn {S S' : Stage} {m : Moment} (t : Turn S m S') (h : L.Told)
    (hpl : L.Placed (sendings S.calls) S.client.slots) : (L.note m).Told := by
  cases t with
  | receive c s ks d socket =>
    rw [note_receive]
    refine Told.requeue ?_ _ _
    unfold Ledger.receive
    split
    · exact h.of_eq rfl fun _ h => h
    · exact h
  | send c s ks =>
    obtain ⟨queued, inFlight, begun, htake⟩ := L.takeFor_eq s c
    have hL : (L.takeFor s c).Told := by
      rw [htake]
      exact h.of_eq rfl fun _ h => h
    have hemit : (((L.takeFor s c).requeue (s.poll c).2.queue.toList none).emit
        ⟨.send s, c, (s.poll c).2⟩).Told :=
      (hL.requeue (s.poll c).2.queue.toList none).of_eq rfl fun _ h => h
    simp only [note]
    split
    · exact hemit.conclude _
    · exact hemit
  | stop s ks hb =>
    rw [note_stop]
    split
    · exact h.conclude _
    · exact h
  | call c s pre k post =>
    have htell : ((L.tell c k).forget k).Told := (h.tell hpl).of_eq rfl fun _ h => h
    rw [note_call]
    exact htell.requeue _ _
  | cancel c s pre k post => exact h
  | _ => exact h.requeue _ _

/-- **The invariant of the places.** -/
structure Settled (L : Ledger) (S : Stage) : Prop where
  fits : L.Fits S.client.queue.toList (S.sender.bind Sender.job?)
  nodup : (S.calls.map PendingCall.number).Nodup
  placed : L.Placed (sendings S.calls) S.client.slots
  told : L.Told

theorem Settled.turn {S S' : Stage} {m : Moment} (t : Turn S m S') (h : L.Settled S) :
    (L.note m).Settled S' :=
  ⟨h.fits.turn t, t.nodup h.nodup, h.placed.turn t h.fits h.nodup, h.told.turn t h.placed⟩

theorem settled_fresh (config : Config) : empty.Settled (Host.fresh config).stage := by
  refine ⟨fits_empty, List.nodup_nil, fun id => ?_, by rintro r ⟨⟩⟩
  have hfree : (Host.fresh config).client.slots[id] = .free := by
    simp [Client.getElem_slots, Host.fresh, Client.fresh]
  exact hfree ▸ .free rfl rfl

end Ledger

/-! ### The places after a run -/

namespace Ledger

open Host

variable {L : Ledger} {id : SlotId}

/-- As many pending tickets name a place as requests do. -/
theorem Fits.length_namers {queue : List Job} {job : Option Job} (h : L.Fits queue job)
    (id : SlotId) :
    (L.namers id).length = (job.toList ++ queue).countP fun j => j.slot = some id := by
  have := congrArg (List.countP fun j : Option Job => j.bind Job.slot = some id) h.map_pending
  rw [List.countP_map, List.countP_map] at this
  rw [namers, ← List.countP_eq_length_filter]
  exact this

theorem Place.length_holders_le {qs : List (Nat × Sending)} {s : Slot} (h : L.Place qs id s) :
    (holders qs id).length ≤ 1 := by
  cases h <;> simp [*]

/-- A place that a request names has a call that waits for it, or is abandoned. -/
theorem Place.of_named {qs : List (Nat × Sending)} {s : Slot} (h : L.Place qs id s)
    (hne : L.namers id ≠ []) :
    (∃ n, s = .waiting ∧ holders qs id = [(n, .awaiting id)]) ∨
      s = .abandoned ∧ holders qs id = [] := by
  cases h with
  | handed n t hq ho ht => exact Or.inl ⟨n, rfl, hq⟩
  | abandoned t hq ht => exact Or.inr ⟨rfl, hq⟩
  | _ => contradiction

theorem Place.length_namers_le {qs : List (Nat × Sending)} {s : Slot} (h : L.Place qs id s) :
    (L.namers id).length ≤ 1 := by
  cases h <;> simp [*]

/-- A place is free if and only if nobody holds it and nothing names it. -/
theorem Place.eq_free_iff {qs : List (Nat × Sending)} {s : Slot} (h : L.Place qs id s) :
    s = .free ↔ holders qs id = [] ∧ L.namers id = [] := by
  cases h <;> simp [*]

/-- **The places of waiting callers are exact.** -/
structure PlacesExact (L : Ledger) (h : Host) : Prop where
  /-- A place is free if and only if no call holds it and no pending request names it. -/
  free_iff : ∀ id : SlotId, h.client.slots[id] = .free ↔
    (∀ k ∈ h.calls, k.call.slot? ≠ some id) ∧ ∀ j ∈ h.jobs, j.slot ≠ some id
  /-- No two calls hold the same place. -/
  held : ∀ id, (h.calls.countP fun k => k.call.slot? = some id) ≤ 1
  /-- No two pending requests name the same place. -/
  named : ∀ id, (h.jobs.countP fun j => j.slot = some id) ≤ 1
  /-- The pending tickets are those of the requests in flight and in the queue. -/
  pending : L.pending.map (L.entered[·]?) = h.jobs.map some
  /-- Of the requests that have entered the queue, each is pending, or has produced one
  result. -/
  once : (L.pending ++ L.produced.map Prod.fst).Perm (List.range L.entered.length)
  /-- The place of a call that waits for the sender holds nothing while its own request is
  pending, and then what that has produced. -/
  own : ∀ k ∈ h.calls, ∀ id, k.call.sending? = some (.awaiting id) →
    ∃ t, L.owner k.number = some t ∧ L.slotOf t = some id ∧
      (h.client.slots[id] = .waiting ∧ t ∈ L.pending ∨
        ∃ result, h.client.slots[id] = .done result ∧ (t, result) ∈ L.produced)
  /-- A pending request names the place of a call that waits for it, or an abandoned one. -/
  waited : ∀ j ∈ h.jobs, ∀ id, j.slot = some id →
    h.client.slots[id] = .waiting ∧ (∃ k ∈ h.calls, k.call.sending? = some (.awaiting id)) ∨
      h.client.slots[id] = .abandoned ∧ ∀ k ∈ h.calls, k.call.slot? ≠ some id
  /-- What a call was told is what its own request has produced. -/
  told : ∀ r ∈ L.returned, ∃ t, r.ticket = some t ∧ (t, r.result) ∈ L.produced
  /-- A call that begins to send is refused for lack of a place if and only if each place is
  held by a call, or named by a pending request whose call is gone. -/
  full : ∀ m registry,
    ((Sending.start m).poll { h.client with registry := registry }).1 =
        .done (.error (.tunneling .queueFull)) ↔
      h.client.isConnected ∧ ∀ id, (∃ k ∈ h.calls, k.call.slot? = some id) ∨
        (∀ k ∈ h.calls, k.call.slot? ≠ some id) ∧ ∃ j ∈ h.jobs, j.slot = some id

/-- A state of all places in which they are exact. -/
theorem Settled.placesExact {h : Host} (hs : L.Settled h.stage) : L.PlacesExact h := by
  have hfits := hs.fits.of_stage
  have hplace : ∀ id : SlotId, L.Place (sendings h.calls) id h.client.slots[id] := hs.placed
  have hcount : ∀ id, (L.namers id).length = h.jobs.countP fun j => j.slot = some id :=
    hfits.length_namers
  have hnamers : ∀ id, L.namers id = [] ↔ ∀ j ∈ h.jobs, j.slot ≠ some id := by
    intro id
    rw [← List.length_eq_zero_iff, hcount, List.countP_eq_zero]
    simp
  have hfree : ∀ id : SlotId, h.client.slots[id] = .free ↔
      (∀ k ∈ h.calls, k.call.slot? ≠ some id) ∧ ∀ j ∈ h.jobs, j.slot ≠ some id := by
    intro id
    rw [(hplace id).eq_free_iff, holders_sendings_eq_nil_iff, hnamers]
  refine ⟨hfree, fun id => ?_, fun id => ?_, hfits.map_pending, hfits.count, ?_, ?_, hs.told, ?_⟩
  · rw [← length_holders]
    exact (hplace id).length_holders_le
  · rw [← hcount]
    exact (hplace id).length_namers_le
  · intro k hk id hsending
    obtain ⟨pre, post, hcalls⟩ := List.append_of_mem hk
    have hp := hplace id
    rw [hcalls, sendings_append, sendings_cons, hsending] at hp
    obtain ⟨-, -, t, ho, hid, hcases⟩ := Place.of_awaiting hp
    refine ⟨t, ho, hid, ?_⟩
    rcases hcases with ⟨hw, ht⟩ | ⟨result, hw, -, hr⟩
    · have hmem : t ∈ L.namers id := by simp [ht]
      exact Or.inl ⟨hw, (List.mem_filter.mp hmem).1⟩
    · exact Or.inr ⟨result, hw, hr⟩
  · intro j hj id hslot
    have hne : L.namers id ≠ [] := fun hnil => (hnamers id).mp hnil j hj hslot
    rcases (hplace id).of_named hne with ⟨n, hw, hh⟩ | ⟨hw, hh⟩
    · exact Or.inl ⟨hw, exists_of_holders hh⟩
    · exact Or.inr ⟨hw, holders_sendings_eq_nil_iff.mp hh⟩
  · intro m registry
    rw [Sending.poll_start_eq_queueFull_iff]
    refine and_congr Iff.rfl (forall_congr' fun id => ?_)
    have hcalls : (∀ k ∈ h.calls, k.call.slot? ≠ some id) ↔
        ¬ ∃ k ∈ h.calls, k.call.slot? = some id := by simp
    have hjobs : (∀ j ∈ h.jobs, j.slot ≠ some id) ↔ ¬ ∃ j ∈ h.jobs, j.slot = some id := by simp
    rw [Ne, hfree, hcalls, hjobs]
    constructor
    · intro hne
      by_cases hheld : ∃ k ∈ h.calls, k.call.slot? = some id
      · exact Or.inl hheld
      · exact Or.inr ⟨hheld, Decidable.not_not.mp fun hnamed => hne ⟨hheld, hnamed⟩⟩
    · rintro (hheld | ⟨-, hnamed⟩) ⟨hheld', hnamed'⟩
      · exact hheld' hheld
      · exact hnamed' hnamed

/-- **After every run the places of waiting callers are exact.** -/
theorem places_run (config : Config) (actions : List Action) :
    (of ((Host.fresh config).history actions)).PlacesExact
      ((Host.fresh config).run actions) :=
  (run_induction (P := Settled) config (settled_fresh config) Settled.turn actions).placesExact

end Ledger

end KnxIp
