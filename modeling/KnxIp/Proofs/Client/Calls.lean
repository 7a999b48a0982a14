import KnxIp.Client.Call
import KnxIp.Proofs.Client.Move

/-!
# What a call does in its turn

A call that enters the queue, or that holds a place in the table of waiting callers, does
what no move of `KnxIp.Client.Move` does. There are few such things, and this module lists
them: `KnxIp.Sending.Turn` for a call that waits for its request, and
`KnxIp.Queueing.poll_cases` for one that only queues it.

A call of an application is then one of these with something around it. A read sends its
question with a call of its own, so `KnxIp.Call.question?` finds, in a call that may be of
any kind, the `KnxIp.Sending` that runs in it.

## Main statements

* `KnxIp.Sending.turn_poll`: a turn of a call that waits for its request.
* `KnxIp.Call.poll_of_question?`: the turn of a call in which such a call runs.
* `KnxIp.Call.poll_cases`: the turn of any other call moves the client, or overtakes, or
  queues a request for which nobody waits.
* `KnxIp.Call.poll_apart_or_moves`: what a turn of any call does to the session.
-/

namespace KnxIp

namespace Client

/-- **Nothing has changed that the session depends on**, and nothing was sent. -/
structure Apart (c c' : Client) : Prop where
  config : c'.config = c.config
  session : c'.session = c.session
  dataEndpoint : c'.dataEndpoint = c.dataEndpoint
  ackDone : c'.ackDone = c.ackDone
  outbox : c'.outbox = c.outbox

variable {c c' : Client}

theorem Apart.refl (c : Client) : Apart c c := ⟨rfl, rfl, rfl, rfl, rfl⟩

theorem Aside.apart (h : Aside c c') : Apart c c' :=
  ⟨h.config, h.session, h.dataEndpoint, h.ackDone, h.outbox⟩

theorem Apart.trans {c'' : Client} (h : Apart c c') (h' : Apart c' c'') : Apart c c'' :=
  ⟨h'.config.trans h.config, h'.session.trans h.session,
    h'.dataEndpoint.trans h.dataEndpoint, h'.ackDone.trans h.ackDone, h'.outbox.trans h.outbox⟩

/-- The place that a caller takes was free. -/
theorem claimSlot?_eq_some {id : SlotId} (h : c.claimSlot? = some (id, c')) :
    c.slots[id] = .free ∧ c' = c.setSlot id .waiting := by
  simp only [claimSlot?, Option.map_eq_some_iff, Prod.mk.injEq] at h
  obtain ⟨i, hi, rfl, rfl⟩ := h
  refine ⟨?_, rfl⟩
  simp only [Vector.findFinIdx?, Option.map_eq_some_iff] at hi
  obtain ⟨j, hj, rfl⟩ := hi
  have := Array.findFinIdx?_eq_some_iff.mp hj
  simpa [getElem_slots] using this.1

/-- A caller finds no place if none is free. -/
theorem claimSlot?_eq_none_iff : c.claimSlot? = none ↔ ∀ id : SlotId, c.slots[id] ≠ .free := by
  simp only [claimSlot?, Option.map_eq_none_iff, Vector.findFinIdx?_eq_none_iff,
    decide_eq_true_eq]
  constructor
  · intro h id
    exact h _ (Vector.getElem_mem id.isLt)
  · intro h x hx
    obtain ⟨i, hi, rfl⟩ := Vector.getElem_of_mem hx
    exact h ⟨i, hi⟩

end Client

/-! ### Waiting for the delivery -/

namespace Sending

/-- The place that a call holds. -/
def slot? : Sending → Option SlotId
  | .start _ => none
  | .queueing _ id => some id
  | .awaiting id => some id

/-- **A turn of a call that waits for its request.** -/
inductive Turn (c : Client) : Sending → Progress (Except Fault Unit) Sending → Client → Prop
  /-- There is no session. -/
  | refused (m : Cemi) (hc : c.isConnected = false) :
      Turn c (.start m) (.done (.error (.connection .notConnected))) c
  /-- There is no place. -/
  | full (m : Cemi) (hc : c.isConnected = true) (hs : ∀ id : SlotId, c.slots[id] ≠ .free) :
      Turn c (.start m) (.done (.error (.tunneling .queueFull))) c
  /-- The call takes a place, and waits for room in the queue. -/
  | hold (m : Cemi) (id : SlotId) (hs : c.slots[id] = .free) :
      Turn c (.start m) (.waiting (.queueing m id)) (c.setSlot id .waiting)
  /-- The call takes a place and enters the queue. -/
  | enter (m : Cemi) (id : SlotId) (q : Queue Job sendQueueDepth) (hs : c.slots[id] = .free)
      (hq : c.queue.push? ⟨m, some id⟩ = some q) :
      Turn c (.start m) (.waiting (.awaiting id)) { c.setSlot id .waiting with queue := q }
  /-- The call enters the queue. -/
  | join (m : Cemi) (id : SlotId) (q : Queue Job sendQueueDepth)
      (hq : c.queue.push? ⟨m, some id⟩ = some q) :
      Turn c (.queueing m id) (.waiting (.awaiting id)) { c with queue := q }
  /-- The call goes on waiting. -/
  | wait (k : Sending) : Turn c k (.waiting k) c
  /-- The request has ended; the call gives its place back. -/
  | collect (id : SlotId) (result : Except Fault Unit) (hs : c.slots[id] = .done result) :
      Turn c (.awaiting id) (.done result) (c.setSlot id .free)

/-- **A call that waits for its request** has no other turns. -/
theorem turn_poll (k : Sending) (c : Client) : Turn c k (k.poll c).1 (k.poll c).2 := by
  cases k with
  | start m =>
    by_cases hc : c.isConnected
    · cases hs : c.claimSlot? with
      | none =>
        simp only [poll, begin, hc, hs, if_true]
        exact .full m hc (Client.claimSlot?_eq_none_iff.mp hs)
      | some p =>
        obtain ⟨id, b⟩ := p
        obtain ⟨hfree, rfl⟩ := Client.claimSlot?_eq_some hs
        cases hq : c.queue.push? ⟨m, some id⟩ with
        | none =>
          have : (c.setSlot id .waiting).queue.push? ⟨m, some id⟩ = none := hq
          simp only [poll, begin, enter, hc, hs, this, if_true]
          exact .hold m id hfree
        | some q =>
          have : (c.setSlot id .waiting).queue.push? ⟨m, some id⟩ = some q := hq
          simp only [poll, begin, enter, hc, hs, this, if_true]
          exact .enter m id q hfree hq
    · simp only [poll, begin, hc, if_false, Bool.false_eq_true]
      exact .refused m (by simpa using hc)
  | queueing m id =>
    cases hq : c.queue.push? ⟨m, some id⟩ with
    | none =>
      simp only [poll, enter, hq]
      exact .wait _
    | some q =>
      simp only [poll, enter, hq]
      exact .join m id q hq
  | awaiting id =>
    cases hs : c.slots[id] with
    | done result =>
      simp only [poll, hs]
      exact .collect id result hs
    | _ =>
      simp only [poll, hs]
      exact .wait _

/-- A call that begins is refused for lack of a place if it finds none that is free. -/
theorem poll_start_eq_queueFull_iff (m : Cemi) (c : Client) :
    ((start m).poll c).1 = .done (.error (.tunneling .queueFull)) ↔
      c.isConnected ∧ ∀ id : SlotId, c.slots[id] ≠ .free := by
  rw [← Client.claimSlot?_eq_none_iff]
  by_cases hc : c.isConnected
  · cases hs : c.claimSlot? with
    | none => simp [poll, begin, hc, hs]
    | some r =>
      have hw : ∀ id b, (enter m id b).1 ≠ .done (.error (.tunneling .queueFull)) := by
        intro id b
        unfold enter
        cases b.queue.push? ⟨m, some id⟩ <;> simp
      simpa [poll, begin, hc, hs] using hw r.1 r.2
  · simp [poll, begin, hc]

/-- A turn of a call leaves the session alone. -/
theorem Turn.apart {c c' : Client} {k : Sending} {p : Progress (Except Fault Unit) Sending}
    (h : Turn c k p c') : Client.Apart c c' := by
  cases h <;> exact ⟨rfl, rfl, rfl, rfl, rfl⟩

end Sending

/-! ### Waiting for the queue only -/

namespace Queueing

/-- **A request for which nobody waits** enters the queue. -/
inductive Joins (c : Client) : Client → Prop
  | intro (m : Cemi) (q : Queue Job sendQueueDepth) (hq : c.queue.push? ⟨m, none⟩ = some q) :
      Joins c { c with queue := q }

theorem enter_cases (m : Cemi) (c : Client) : (enter m c).2 = c ∨ Joins c (enter m c).2 := by
  cases hq : c.queue.push? ⟨m, none⟩ with
  | none => exact Or.inl (by simp [enter, hq])
  | some q =>
    refine Or.inr ?_
    simp only [enter, hq]
    exact .intro m q hq

/-- **A call that only queues its request** does so, or leaves the client as it is. -/
theorem poll_cases (k : Queueing) (c : Client) : (k.poll c).2 = c ∨ Joins c (k.poll c).2 := by
  cases k with
  | start m =>
    by_cases hc : c.isConnected
    · simpa [poll, hc] using enter_cases m c
    · exact Or.inl (by simp [poll, hc])
  | queueing m => exact enter_cases m c

end Queueing

namespace Writing

/-- Of what a write to a point does beyond queueing its request, no request depends. -/
theorem aside_queued (p : Point) (v : Value) (r : Progress (Except Fault Unit) Queueing × Client) :
    Client.Aside r.2 (queued p v r).2 := by
  obtain ⟨(_ | _) | _, c⟩ := r
  · exact .refl c
  · exact ⟨rfl, rfl, rfl, rfl, rfl, rfl, rfl⟩
  · exact .refl c

/-- **A call that writes to a point** queues its request, and remembers the value. -/
theorem poll_cases (p : Point) (k : Writing) (c : Client) :
    Client.Aside c (k.poll p c).2 ∨
      ∃ b, Queueing.Joins c b ∧ Client.Aside b (k.poll p c).2 := by
  have hqueued : ∀ (v : Value) (r : Queueing),
      Client.Aside c (queued p v (r.poll c)).2 ∨
        ∃ b, Queueing.Joins c b ∧ Client.Aside b (queued p v (r.poll c)).2 := by
    intro v r
    rcases r.poll_cases c with h | h
    · have := aside_queued p v (r.poll c)
      rw [h] at this
      exact Or.inl this
    · exact Or.inr ⟨_, h, aside_queued p v _⟩
  cases k with
  | start setting =>
    cases he : p.dpt.encode (valueOf p setting c) with
    | error f =>
      simp only [poll, he]
      exact Or.inl (.refl c)
    | ok data =>
      simp only [poll, he]
      exact hqueued _ _
  | queueing v request => exact hqueued v request

end Writing

/-! ### Any call -/

namespace Reading

/-- Once the question of a read is delivered, nothing is left that a request depends on. -/
theorem aside_delivered (read : ReadId) (result : Except Fault Unit) (c : Client) :
    Client.Aside c (delivered read (.done result, c)).2 := by
  cases result with
  | error f => exact ⟨rfl, rfl, rfl, rfl, rfl, rfl, rfl⟩
  | ok u =>
    simp only [delivered, await]
    cases c.registry.answer? read with
    | none => exact .refl c
    | some data => exact ⟨rfl, rfl, rfl, rfl, rfl, rfl, rfl⟩

end Reading

namespace Call

/-- The call inside of this one that waits for its request. -/
def sending? : Call → Option Sending
  | .send k => some k
  | .read _ (.sending _ k) => some k
  | _ => none

/-- The place that a call holds. -/
def slot? (k : Call) : Option SlotId := k.sending?.bind Sending.slot?

/-- What is run in this call of a call that waits for its request, and on which client: a
read that begins has taken its place in the registry by then. -/
def question? (k : Call) (c : Client) : Option (Sending × Client) :=
  match k with
  | .read _ (.start address) =>
    match c.registry.beginRead address with
    | .ok (_, registry) =>
      some (.start (.groupRead c.config.individualAddress address), { c with registry := registry })
    | .error _ => none
  | _ => k.sending?.map fun q => (q, c)

/-- Whether a call would now overtake. -/
def overtakes (k : Call) (c : Client) : Bool :=
  match k with
  | .disconnect stage => stage.overtakes c
  | .close stage => stage.overtakes c
  | _ => false

theorem question?_of_sending? {k : Call} {q : Sending} (h : k.sending? = some q) (c : Client) :
    k.question? c = some (q, c) := by
  unfold question?
  split
  · simp [sending?] at h
  · rw [h]
    rfl

/-- What a call that holds no place runs has only begun. -/
theorem start_of_question? {k : Call} {q : Sending} {c b : Client} (hk : k.sending? = none)
    (h : k.question? c = some (q, b)) : ∃ m, q = .start m := by
  unfold question? at h
  split at h
  · split at h
    · cases h
      exact ⟨_, rfl⟩
    · cases h
  · simp [hk] at h

/-- What waits of a call is what its rest waits for. -/
def waitsFor (p : Progress (Except Fault Answer) Call × Client) : Option Sending :=
  p.1.rest?.bind sending?

theorem poll_read_of_delivered {form : ReadForm} {stage : Reading} {read : ReadId} {c : Client}
    {p : Progress (Except Fault Unit) Sending × Client}
    (h : stage.poll c = Reading.delivered read p) :
    waitsFor (poll (.read form stage) c) = p.1.rest? ∧
      Client.Aside p.2 (poll (.read form stage) c).2 := by
  obtain ⟨result | rest, b⟩ := p
  · have hb := Reading.aside_delivered read result b
    refine ⟨?_, by simpa [poll, h] using hb⟩
    cases result with
    | error f => simp [waitsFor, poll, h, Reading.delivered, Reading.fail]
    | ok u =>
      simp only [waitsFor, poll, h, Reading.delivered, Reading.await]
      cases b.registry.answer? read <;> rfl
  · refine ⟨?_, ?_⟩
    · simp [waitsFor, poll, h, Reading.delivered, sending?]
    · simpa [poll, h, Reading.delivered] using Client.Aside.refl b

/-- **The turn of a call in which a call runs that waits for its request** is a turn of the
latter, and beyond that only what no request depends on. -/
theorem poll_of_question? {k : Call} {q : Sending} {c b : Client}
    (h : k.question? c = some (q, b)) :
    Client.Aside c b ∧ waitsFor (k.poll c) = (q.poll b).1.rest? ∧
      Client.Aside (q.poll b).2 (k.poll c).2 := by
  unfold question? at h
  split at h
  · rename_i form address
    split at h
    · rename_i read registry hr
      cases h
      refine ⟨⟨rfl, rfl, rfl, rfl, rfl, rfl, rfl⟩,
        poll_read_of_delivered (?_ : _ = Reading.delivered read _)⟩
      simp [Reading.poll, hr]
    · cases h
  · simp only [Option.map_eq_some_iff, Prod.mk.injEq] at h
    obtain ⟨q, hq, rfl, rfl⟩ := h
    refine ⟨.refl _, ?_⟩
    unfold sending? at hq
    split at hq
    · cases hq
      refine ⟨?_, .refl _⟩
      simp only [waitsFor, poll, Prod.map_fst, Progress.rest?_map]
      cases (q.poll c).1.rest? <;> rfl
    · cases hq
      exact poll_read_of_delivered rfl
    · cases hq

/-- A call that is not to wait for a request does not come to wait for one. -/
theorem waitsFor_of_question? {k : Call} {c : Client} (h : k.question? c = none) :
    waitsFor (k.poll c) = none := by
  -- Most calls go on as the same kind of call, and of most kinds none waits for a request.
  have hmap : ∀ {α β : Type} (p : Progress α β) (g : β → Call), (∀ b, (g b).sending? = none) →
      (p.rest?.map g).bind sending? = none := by
    intro α β p g hg
    cases p with
    | done result => rfl
    | waiting rest => exact hg rest
  cases k with
  | send stage => simp [question?, sending?] at h
  | read form stage =>
    cases stage with
    | start address =>
      cases hr : c.registry.beginRead address with
      | error f => simp [waitsFor, poll, Reading.poll, hr]
      | ok r => simp [question?, hr] at h
    | sending read q => simp [question?, sending?] at h
    | awaiting read deadline =>
      simp only [waitsFor, poll, Reading.poll, Reading.await]
      cases c.registry.answer? read with
      | some data => rfl
      | none =>
        simp only [Option.map_none, Option.getD_none]
        split <;> rfl
  | refused f => rfl
  | _ =>
    simp only [waitsFor, poll, Prod.map_fst, Progress.rest?_map]
    exact hmap _ _ fun _ => rfl

/-- **The turn of any other call** moves the client, or overtakes, or queues a request for
which nobody waits. -/
theorem poll_cases {k : Call} {c : Client} (h : k.question? c = none) :
    (k.overtakes c = false ∧ Client.Moves c (k.poll c).2) ∨
      (k.overtakes c = true ∧ ∃ b, Client.Overtakes c b ∧ Client.Moves b (k.poll c).2) ∨
      (k.overtakes c = false ∧ ∃ b, Queueing.Joins c b ∧ Client.Aside b (k.poll c).2) := by
  cases k with
  | connect stage => exact Or.inl ⟨rfl, stage.moves_poll c⟩
  | disconnect stage =>
    rcases stage.poll_cases c with ⟨ho, hm⟩ | ⟨ho, hm⟩
    · exact Or.inl ⟨ho, hm⟩
    · exact Or.inr (Or.inl ⟨ho, _, hm, .refl⟩)
  | close stage =>
    rcases stage.poll_cases c with ⟨ho, hm⟩ | ⟨ho, hm⟩
    · exact Or.inl ⟨ho, hm⟩
    · exact Or.inr (Or.inl ⟨ho, hm⟩)
  | send stage => simp [question?, sending?] at h
  | enqueue stage =>
    rcases stage.poll_cases c with hq | hq
    · exact Or.inl ⟨rfl, by simp [poll, hq, Relation.ReflTransGen.refl]⟩
    · exact Or.inr (Or.inr ⟨rfl, _, hq, .refl _⟩)
  | refused f => exact Or.inl ⟨rfl, .refl⟩
  | read form stage =>
    refine Or.inl ⟨rfl, Client.Aside.moves ?_⟩
    cases stage with
    | start address =>
      cases hr : c.registry.beginRead address with
      | error f => simpa [poll, Reading.poll, hr] using Client.Aside.refl c
      | ok r => simp [question?, hr] at h
    | sending read q => simp [question?, sending?] at h
    | awaiting read deadline =>
      simp only [poll, Reading.poll, Reading.await]
      cases c.registry.answer? read with
      | some data => exact ⟨rfl, rfl, rfl, rfl, rfl, rfl, rfl⟩
      | none =>
        simp only [Option.map_none, Option.getD_none]
        split <;> exact ⟨rfl, rfl, rfl, rfl, rfl, rfl, rfl⟩
  | write p stage =>
    rcases stage.poll_cases p c with hq | hq
    · exact Or.inl ⟨rfl, hq.moves⟩
    · exact Or.inr (Or.inr ⟨rfl, hq⟩)
  | update p asNumber stage =>
    refine Or.inl ⟨rfl, Client.Aside.moves ?_⟩
    cases stage with
    | start => exact ⟨rfl, rfl, rfl, rfl, rfl, rfl, rfl⟩
    | awaiting =>
      simp only [poll, Updating.poll]
      cases c.registry.takeUpdate? p.binding <;> exact ⟨rfl, rfl, rfl, rfl, rfl, rfl, rfl⟩

/-- **A call that is stopped** gives back its place, if it holds one. -/
theorem cancel_of_sending? {k : Call} {q : Sending} (h : k.sending? = some q) (c : Client) :
    Client.Aside (q.cancel c) (k.cancel c) := by
  unfold sending? at h
  split at h
  · cases h
    exact .refl _
  · cases h
    exact ⟨rfl, rfl, rfl, rfl, rfl, rfl, rfl⟩
  · cases h

theorem cancel_of_no_sending {k : Call} (h : k.sending? = none) (c : Client) :
    Client.Aside c (k.cancel c) := by
  cases k with
  | send stage => simp [sending?] at h
  | read form stage =>
    cases stage with
    | start address => exact .refl c
    | sending read q => simp [sending?] at h
    | awaiting read deadline => exact ⟨rfl, rfl, rfl, rfl, rfl, rfl, rfl⟩
  | _ => exact .refl c

/-! ### What calls do to the session -/

/-- **A turn of a call**, as far as the session is concerned: it leaves the session alone, or
moves the client, or overtakes. -/
theorem poll_apart_or_moves (k : Call) (c : Client) :
    (k.overtakes c = false ∧ (Client.Apart c (k.poll c).2 ∨ Client.Moves c (k.poll c).2)) ∨
      (k.overtakes c = true ∧ ∃ b, Client.Overtakes c b ∧ Client.Moves b (k.poll c).2) := by
  cases h : k.question? c with
  | some r =>
    obtain ⟨q, b⟩ := r
    obtain ⟨hb, -, hc⟩ := poll_of_question? h
    -- A call that closes a session asks nothing of the queue.
    have hk : k.overtakes c = false := by
      cases k with
      | disconnect stage => simp [question?, sending?] at h
      | close stage => simp [question?, sending?] at h
      | _ => rfl
    exact Or.inl ⟨hk, Or.inl ((hb.apart.trans (q.turn_poll b).apart).trans hc.apart)⟩
  | none =>
    rcases poll_cases h with ⟨hk, hm⟩ | ho | ⟨hk, b, hj, ha⟩
    · exact Or.inl ⟨hk, Or.inr hm⟩
    · exact Or.inr ho
    · obtain ⟨m, q, -⟩ := hj
      have hq : c.Apart { c with queue := q } := ⟨rfl, rfl, rfl, rfl, rfl⟩
      exact Or.inl ⟨hk, Or.inl (hq.trans ha.apart)⟩

/-- **A call that is stopped** leaves the session alone. -/
theorem apart_cancel (k : Call) (c : Client) : Client.Apart c (k.cancel c) := by
  cases h : k.sending? with
  | none => exact (cancel_of_no_sending h c).apart
  | some q =>
    refine Client.Apart.trans ?_ (cancel_of_sending? h c).apart
    cases q with
    | start m => exact .refl c
    | queueing m id => exact ⟨rfl, rfl, rfl, rfl, rfl⟩
    | awaiting id =>
      simp only [Sending.cancel, Client.releaseSlot]
      split <;> exact ⟨rfl, rfl, rfl, rfl, rfl⟩

/-! ### What calls do to the queue -/

theorem queue_cancel (k : Call) (c : Client) : (k.cancel c).queue = c.queue := by
  cases h : k.sending? with
  | none => exact (cancel_of_no_sending h c).queue
  | some q =>
    refine (cancel_of_sending? h c).queue.trans ?_
    cases q with
    | start m => rfl
    | queueing m id => rfl
    | awaiting id =>
      simp only [Sending.cancel, Client.releaseSlot]
      split <;> rfl

/-- **A turn of a call** leaves the queue as it is, or lets it go, or enters one request. -/
theorem queue_poll (k : Call) (c : Client) :
    (k.poll c).2.queue.toList = c.queue.toList ∨ (k.poll c).2.queue.toList = [] ∨
      ∃ j, (k.poll c).2.queue.toList = c.queue.toList ++ [j] := by
  have hdrops (h : c.Drops (k.poll c).2) : (k.poll c).2.queue.toList = c.queue.toList ∨
      (k.poll c).2.queue.toList = [] ∨ ∃ j, (k.poll c).2.queue.toList = c.queue.toList ++ [j] :=
    h.toList.imp id Or.inl
  cases h : k.question? c with
  | some r =>
    obtain ⟨q, b⟩ := r
    obtain ⟨hb, -, hc⟩ := poll_of_question? h
    rw [hc.queue, ← hb.queue]
    have ht := q.turn_poll b
    generalize q.poll b = r at ht ⊢
    obtain ⟨p, b'⟩ := r
    cases ht with
    | enter m id q hs hq => exact Or.inr (Or.inr ⟨_, Queue.toList_of_push? hq⟩)
    | join m id q hq => exact Or.inr (Or.inr ⟨_, Queue.toList_of_push? hq⟩)
    | _ => exact Or.inl rfl
  | none =>
    rcases poll_cases h with ⟨-, hm⟩ | ⟨-, b, ho, hm⟩ | ⟨-, b, hj, ha⟩
    · exact hdrops hm.drops
    · exact hdrops (ho.drops.trans hm.drops)
    · obtain ⟨m, q, hq⟩ := hj
      rw [ha.queue]
      exact Or.inr (Or.inr ⟨_, Queue.toList_of_push? hq⟩)

end Call

/-! ### Calls that wait for room in the queue -/

/-- Whether the call waits for room in the queue. -/
def Sending.isQueueing : Sending → Bool
  | .queueing _ _ => true
  | _ => false

/-- Whether the call waits for room in the queue. -/
def Queueing.isQueueing : Queueing → Bool
  | .queueing _ => true
  | .start _ => false

/-- Whether the call waits for room in the queue. It has found then that there is a session,
and it will not look again. -/
def Call.isQueueing : Call → Bool
  | .send k => k.isQueueing
  | .enqueue k => k.isQueueing
  | .read _ (.sending _ k) => k.isQueueing
  | .write _ (.queueing _ k) => k.isQueueing
  | _ => false

theorem Sending.poll_of_not_isConnected (k : Sending) {c : Client} (hk : k.isQueueing = false)
    (hc : c.isConnected = false) :
    (k.poll c).1.rest?.any isQueueing = false ∧ (k.poll c).2.queue = c.queue := by
  cases k with
  | start m => simp [poll, begin, hc]
  | queueing m id => cases hk
  | awaiting id =>
    unfold poll
    simp only
    split <;> exact ⟨rfl, rfl⟩

theorem Queueing.poll_of_not_isConnected (k : Queueing) {c : Client} (hk : k.isQueueing = false)
    (hc : c.isConnected = false) : k.poll c = (.done (.error (.connection .notConnected)), c) := by
  cases k with
  | start m => simp [poll, hc]
  | queueing m => cases hk

namespace Call

/-- Whether a call that goes on waits for room in the queue. -/
def queues (p : Progress (Except Fault Answer) Call) : Bool := p.rest?.any isQueueing

/-- In a read, it is the question that waits for room. -/
theorem queues_delivered (form : ReadForm) (read : ReadId)
    (p : Progress (Except Fault Unit) Sending × Client) :
    ((Reading.delivered read p).1.rest?.map (Call.read form)).any isQueueing =
      p.1.rest?.any Sending.isQueueing := by
  obtain ⟨(f | u) | question, b⟩ := p
  · rfl
  · simp only [Reading.delivered, Reading.await]
    cases b.registry.answer? read <;> rfl
  · rfl

theorem queue_delivered (read : ReadId) (p : Progress (Except Fault Unit) Sending × Client) :
    (Reading.delivered read p).2.queue = p.2.queue := by
  obtain ⟨result | question, b⟩ := p
  · exact (Reading.aside_delivered read result b).queue
  · rfl

/-- Without a session a read does not put its question. -/
theorem read_of_not_isConnected {form : ReadForm} {stage : Reading} {c : Client}
    (hk : (read form stage).isQueueing = false) (hc : c.isConnected = false) :
    queues ((read form stage).poll c).1 = false ∧ ((read form stage).poll c).2.queue = c.queue := by
  simp only [queues, poll, Prod.map_fst, Prod.map_snd, Progress.rest?_map, id]
  cases stage with
  | start address =>
    simp only [Reading.poll]
    cases c.registry.beginRead address with
    | error f => exact ⟨rfl, rfl⟩
    | ok r =>
      have hr : Client.isConnected { c with registry := r.2 } = false := hc
      simp only [queues_delivered, queue_delivered]
      exact Sending.poll_of_not_isConnected _ rfl hr
  | sending read question =>
    simp only [Reading.poll, queues_delivered, queue_delivered]
    exact question.poll_of_not_isConnected hk hc
  | awaiting read deadline =>
    simp only [Reading.poll, Reading.await]
    cases c.registry.answer? read with
    | some data => exact ⟨rfl, rfl⟩
    | none =>
      simp only [Option.map_none, Option.getD_none]
      split <;> exact ⟨rfl, rfl⟩

/-- Nor does a write hand over its request. -/
theorem write_of_not_isConnected {p : Point} {stage : Writing} {c : Client}
    (hk : (write p stage).isQueueing = false) (hc : c.isConnected = false) :
    queues ((write p stage).poll c).1 = false ∧ ((write p stage).poll c).2.queue = c.queue := by
  have hqueued : ∀ (v : Value) (request : Queueing), request.isQueueing = false →
      Writing.queued p v (request.poll c) = (.done (.error (.connection .notConnected)), c) := by
    intro v request hr
    rw [request.poll_of_not_isConnected hr hc]
    rfl
  cases stage with
  | start setting =>
    simp only [queues, poll, Writing.poll]
    cases p.dpt.encode (Writing.valueOf p setting c) with
    | error f => exact ⟨rfl, rfl⟩
    | ok data =>
      simp only [hqueued _ (.start _) rfl]
      exact ⟨rfl, rfl⟩
  | queueing v request =>
    simp only [queues, poll, Writing.poll, hqueued v request hk]
    exact ⟨rfl, rfl⟩

/-- **Without a session no request enters the queue**, and no call begins to wait for room in
it. Only a call that waits for room already may still enter. -/
theorem poll_of_not_isConnected {k : Call} {c : Client} (hk : k.isQueueing = false)
    (hc : c.isConnected = false) :
    queues (k.poll c).1 = false ∧
      ((k.poll c).2.queue.toList = c.queue.toList ∨ (k.poll c).2.queue.toList = []) := by
  have hmap : ∀ {α β : Type} (p : Progress α β) (g : β → Call), (∀ b, (g b).isQueueing = false) →
      (p.rest?.map g).any isQueueing = false := by
    intro α β p g hg
    cases p with
    | done result => rfl
    | waiting rest => exact hg rest
  cases k with
  | connect stage =>
    refine ⟨?_, (stage.moves_poll c).drops.toList⟩
    simpa [queues, poll] using hmap _ _ fun _ => rfl
  | disconnect stage =>
    refine ⟨by simpa [queues, poll] using hmap _ _ fun _ => rfl, ?_⟩
    rcases stage.poll_cases c with ⟨-, hm⟩ | ⟨-, ho⟩
    · exact hm.drops.toList
    · exact ho.drops.toList
  | close stage =>
    refine ⟨by simpa [queues, poll] using hmap _ _ fun _ => rfl, ?_⟩
    rcases stage.poll_cases c with ⟨-, hm⟩ | ⟨-, b, ho, hm⟩
    · exact hm.drops.toList
    · exact (ho.drops.trans hm.drops).toList
  | send stage =>
    obtain ⟨hw, hq⟩ := stage.poll_of_not_isConnected hk hc
    refine ⟨?_, Or.inl (congrArg Queue.toList hq)⟩
    simp only [queues, poll, Prod.map_fst, Progress.rest?_map]
    rw [Option.any_map]
    exact hw
  | enqueue stage => simp [queues, poll, stage.poll_of_not_isConnected hk hc, Progress.map]
  | refused f => exact ⟨rfl, Or.inl rfl⟩
  | read form stage =>
    obtain ⟨hw, hq⟩ := read_of_not_isConnected hk hc
    exact ⟨hw, Or.inl (congrArg Queue.toList hq)⟩
  | write p stage =>
    obtain ⟨hw, hq⟩ := write_of_not_isConnected hk hc
    exact ⟨hw, Or.inl (congrArg Queue.toList hq)⟩
  | update p asNumber stage =>
    refine ⟨by simpa [queues, poll] using hmap _ _ fun _ => rfl, Or.inl ?_⟩
    cases stage with
    | start => rfl
    | awaiting =>
      simp only [poll, Updating.poll]
      cases c.registry.takeUpdate? p.binding <;> rfl

end Call

end KnxIp
