import KnxIp.Proofs.Client.Move

/-!
# What the sender does in its turn

A turn of the sender works on at most one request. `KnxIp.Sender.work?` says on which, and
what the turn makes of it; what remains is to go on with it or to finish with it
(`KnxIp.Sender.poll_of_work?`).

To begin with a request, or to go on with it, sends a copy, or waits, or ends the delivery
(`KnxIp.Transfer.Opening`, `KnxIp.Transfer.Turn`). Only where a copy is sent does it matter
how the client looks afterwards. A delivery that ends clears a mailbox or two and then does
what is a move for everybody else.
-/

namespace KnxIp

namespace Client

/-- **At most mailboxes have changed**, and what of the session does not concern the
requests. -/
structure Silent (c c' : Client) : Prop where
  config : c'.config = c.config
  session : c.session.Keeps c'.session
  dataEndpoint : c'.dataEndpoint = c.dataEndpoint
  queue : c'.queue = c.queue
  slots : c'.slots = c.slots
  outbox : c'.outbox = c.outbox

theorem Silent.refl (c : Client) : Silent c c := ⟨rfl, .refl _, rfl, rfl, rfl, rfl⟩

theorem Silent.drops {c c' : Client} (h : Silent c c') : Drops c c' := .none h.queue h.slots

/-- The request that carries a message in the session as it is now. -/
def request (c : Client) (m : Cemi) : Datagram :=
  ⟨(Frame.tunnelingRequest (.ofCemi c.session.channel c.session.sendSequence m)).octets,
    c.dataEndpoint⟩

/-- The client after the first copy of a request was sent. -/
def opened (c : Client) (m : Cemi) : Client :=
  { c with
    session := { c.session with outstanding := some c.session.sendSequence }
    ackDone := none
    confirmation := none
    outbox := c.outbox ++ [.datagram (c.request m)] }

theorem isRequest_request (c : Client) (m : Cemi) : (c.request m).isRequest = true := by
  simp [request, Datagram.isRequest_octets, Frame.service]

end Client

/-! ### One request -/

namespace Transfer

variable {c c' : Client}

/-- **How a delivery begins.** -/
inductive Opening (m : Cemi) (c : Client) :
    Progress (Except Fault Unit) Transfer → Client → Prop
  /-- The first copy is sent. -/
  | sent (hc : c.session.status.isConnected) :
      Opening m c (.waiting (.awaitingAck (c.request m) 0 (c.now + c.config.ackTimeout)))
        (c.opened m)
  /-- The delivery has ended already. -/
  | ended (f : Fault) {b c' : Client} (hb : c.Silent b) (hc : b.Moves c') :
      Opening m c (.done (.error f)) c'

/-- **How a delivery goes on.** -/
inductive Turn (c : Client) : Transfer → Progress (Except Fault Unit) Transfer → Client → Prop
  /-- The delivery waits. -/
  | wait (t : Transfer) : Turn c t (.waiting t) c
  /-- Another copy is sent. -/
  | again (copy : Datagram) (attempt deadline : Nat) (ha : c.ackDone = none)
      (hr : attempt < c.config.ackRetries.toNat) :
      Turn c (.awaitingAck copy attempt deadline)
        (.waiting (.awaitingAck copy (attempt + 1) (c.now + c.config.ackTimeout)))
        { c with outbox := c.outbox ++ [.datagram copy] }
  /-- The request has been acknowledged, and its confirmation is awaited. -/
  | confirm (t : Transfer) (deadline : Nat) {c' : Client} (hc : c.Silent c') :
      Turn c t (.waiting (.awaitingConfirmation deadline)) c'
  /-- The delivery has ended. -/
  | ended (t : Transfer) (result : Except Fault Unit) {b c' : Client} (hb : c.Silent b)
      (hc : b.Moves c') : Turn c t (.done result) c'

/-- To begin to deliver has no other outcome. -/
theorem opening_begin (m : Cemi) (c : Client) : Opening m c (begin m c).1 (begin m c).2 := by
  unfold begin
  rcases c.session.tunnelingRequest_cases m with ⟨f, h⟩ | ⟨hs, h⟩
  · simp only [h]
    exact .ended _ (.refl c) .refl
  · simp only [h, sendCopy]
    -- Before the copy is sent, the mailboxes are emptied, which nobody notices.
    generalize hb : ({ c with session := _, ackDone := _, confirmation := _ } : Client) = b
    have hsilent : c.Silent b := by
      subst hb
      exact ⟨rfl, .of_eq rfl rfl rfl, rfl, rfl, rfl, rfl⟩
    rcases b.transmit_cases (c.request m) with ⟨f, ht⟩ | ht
    · simp only [Client.request] at ht
      simp only [ht]
      exact .ended f hsilent (b.moves_transportFailed f)
    · simp only [Client.request] at ht
      simp only [ht]
      subst hb
      exact .sent hs

/-- To have been acknowledged ends the delivery, unless a confirmation is awaited. -/
theorem turn_acknowledged (t : Transfer) (b : Client) (hb : c.Silent b) :
    Turn c t (acknowledged b).1 (acknowledged b).2 := by
  have hclear : c.Silent { b with confirmation := none } :=
    ⟨hb.config, hb.session, hb.dataEndpoint, hb.queue, hb.slots, hb.outbox⟩
  unfold acknowledged
  split
  · split
    · exact .ended t _ hclear .refl
    · exact .confirm t _ hb
  · exact .ended t _ hb .refl

/-- To go on with a delivery has no other outcome. -/
theorem turn_poll (t : Transfer) (c : Client) : Turn c t (t.poll c).1 (t.poll c).2 := by
  cases t with
  | awaitingAck copy attempt deadline =>
    have hclear : c.Silent { c with ackDone := none } := ⟨rfl, .refl _, rfl, rfl, rfl, rfl⟩
    unfold poll
    cases ha : c.ackDone with
    | some result =>
      cases result with
      | ok u => exact turn_acknowledged _ _ hclear
      | error f => exact .ended _ _ hclear .refl
    | none =>
      simp only
      split
      · unfold ackExpired
        split
        · rename_i hr
          unfold sendCopy
          rcases c.transmit_cases copy with ⟨f, ht⟩ | ht
          · simp only [ht]
            exact .ended _ _ (.refl c) (c.moves_transportFailed f)
          · simp only [ht]
            exact .again copy attempt deadline ha hr
        · have hgiven : c.Silent { c with session := c.session.abandonRequest } :=
            ⟨rfl, .of_eq rfl rfl rfl, rfl, rfl, rfl, rfl⟩
          exact .ended _ _ hgiven .refl
      · exact .wait _
  | awaitingConfirmation deadline =>
    have hclear : c.Silent { c with confirmation := none } := ⟨rfl, .refl _, rfl, rfl, rfl, rfl⟩
    simp only [poll]
    cases c.confirmation with
    | some result => exact .ended _ _ hclear .refl
    | none =>
      simp only
      split
      · exact .ended _ _ (.refl c) .refl
      · exact .wait _

theorem Opening.drops {m : Cemi} {p : Progress (Except Fault Unit) Transfer}
    (h : Opening m c p c') : c.Drops c' := by
  cases h with
  | sent hc => exact .none rfl rfl
  | ended f hb hc => exact hb.drops.trans hc.drops

theorem Turn.drops {t : Transfer} {p : Progress (Except Fault Unit) Transfer}
    (h : Turn c t p c') : c.Drops c' := by
  cases h with
  | wait => exact .none rfl rfl
  | again copy attempt deadline ha hr => exact .none rfl rfl
  | confirm _ deadline hc => exact hc.drops
  | ended _ result hb hc => exact hb.drops.trans hc.drops

end Transfer

/-! ### The sender -/

namespace Sender

/-- Whether the sender takes a request from the queue, if there is one. -/
def isReady (s : Sender) (c : Client) : Bool :=
  match s with
  | .idle => true
  | .delivering _ _ => false
  | .resting deadline => deadline ≤ c.now

/-- **What the sender works on in its turn**: the request, and what the turn makes of its
delivery. -/
def work? (s : Sender) (c : Client) :
    Option (Job × (Progress (Except Fault Unit) Transfer × Client)) :=
  match s with
  | .delivering job transfer => some (job, transfer.poll c)
  | _ =>
    if s.isReady c then
      c.queue.pop?.map fun (job, queue) =>
        (job, Transfer.begin job.message { c with queue := queue })
    else none

theorem poll_of_work? {s : Sender} {c : Client} {job : Job}
    {p : Progress (Except Fault Unit) Transfer × Client} (h : s.work? c = some (job, p)) :
    s.poll c = follow job p := by
  cases s with
  | delivering job' transfer =>
    cases h
    rfl
  | idle =>
    simp only [work?, isReady, if_true, Option.map_eq_some_iff] at h
    obtain ⟨⟨job', queue⟩, hq, heq⟩ := h
    cases heq
    simp [poll, takeJob, hq]
  | resting deadline =>
    simp only [work?, isReady, decide_eq_true_eq] at h
    split at h
    · rename_i hd
      simp only [Option.map_eq_some_iff] at h
      obtain ⟨⟨job', queue⟩, hq, heq⟩ := h
      cases heq
      simp [poll, takeJob, hq, hd]
    · cases h

/-- A sender that works on nothing leaves the client as it is. -/
theorem poll_of_work?_eq_none {s : Sender} {c : Client} (h : s.work? c = none) :
    (s.poll c).2 = c ∧ (s.poll c).1.job? = none ∧ s.job? = none ∧
      (s.isReady c = true → c.queue.toList = []) := by
  cases s with
  | delivering job transfer => cases h
  | idle =>
    simp only [work?, isReady, if_true, Option.map_eq_none_iff] at h
    simp [poll, takeJob, h, job?, Queue.pop?_eq_none_iff.mp h]
  | resting deadline =>
    simp only [work?, isReady, decide_eq_true_eq] at h
    split at h
    · rename_i hd
      simp only [Option.map_eq_none_iff] at h
      simp [poll, takeJob, h, hd, job?, Queue.pop?_eq_none_iff.mp h]
    · rename_i hd
      simp [poll, hd, job?, isReady]

/-- A sender that delivers nothing takes what it works on from the queue, and begins with it. -/
theorem begin_of_work? {s : Sender} {c : Client} {job : Job}
    {p : Progress (Except Fault Unit) Transfer × Client} (hs : s.job? = none)
    (h : s.work? c = some (job, p)) :
    ∃ q : Queue Job sendQueueDepth, s.isReady c = true ∧ c.queue.pop? = some (job, q) ∧
      p = Transfer.begin job.message { c with queue := q } := by
  cases s with
  | delivering job' t => cases hs
  | _ =>
    simp only [work?] at h
    split at h
    · rename_i hr
      obtain ⟨⟨job', q⟩, hq, heq⟩ := Option.map_eq_some_iff.mp h
      cases heq
      exact ⟨q, hr, hq, rfl⟩
    · cases h

/-- **What the sender works on** it was delivering already, or takes from the queue. -/
theorem work?_cases {s : Sender} {c : Client} {job : Job}
    {p : Progress (Except Fault Unit) Transfer × Client} (h : s.work? c = some (job, p)) :
    (∃ t, s = .delivering job t ∧ Transfer.Turn c t p.1 p.2) ∨
      ∃ q : Queue Job sendQueueDepth, s.job? = none ∧ s.isReady c = true ∧
        c.queue.toList = job :: q.toList ∧
        Transfer.Opening job.message { c with queue := q } p.1 p.2 := by
  cases hs : s.job? with
  | some job' =>
    cases s with
    | delivering job' t =>
      cases h
      exact Or.inl ⟨t, rfl, t.turn_poll c⟩
    | _ => cases hs
  | none =>
    obtain ⟨q, hr, hq, rfl⟩ := begin_of_work? hs h
    exact Or.inr ⟨q, rfl, hr, Queue.toList_of_pop? hq, Transfer.opening_begin _ _⟩

theorem queue_finish (job : Job) (result : Except Fault Unit) (c : Client) :
    (finish job result c).2.queue = c.queue := by
  obtain ⟨message, _ | id⟩ := job
  · cases result <;> rfl
  · simp only [finish]
    rw [c.completeSlot_eq]
    rfl

theorem session_finish (job : Job) (result : Except Fault Unit) (c : Client) :
    (finish job result c).2.session = c.session := by
  obtain ⟨message, _ | id⟩ := job
  · cases result <;> rfl
  · simp only [finish]
    rw [c.completeSlot_eq]
    rfl

/-- What a sender goes on with is what it worked on, as long as that has not ended. -/
theorem job?_follow (job : Job) (p : Progress (Except Fault Unit) Transfer × Client) :
    (follow job p).1.job? = p.1.rest?.map fun _ => job := by
  obtain ⟨result | t, c⟩ := p <;> rfl

theorem queue_follow (job : Job) (p : Progress (Except Fault Unit) Transfer × Client) :
    (follow job p).2.queue = p.2.queue := by
  obtain ⟨result | t, c⟩ := p
  · exact queue_finish job result c
  · rfl

theorem queue_cancel (s : Sender) (c : Client) : (s.cancel c).queue = c.queue := by
  unfold cancel
  cases s.job? with
  | none => rfl
  | some job => simp [Client.dropJob_eq]

/-- To finish with a request completes the place that it names. -/
theorem getElem_slots_finish (job : Job) (result : Except Fault Unit) (c : Client) (id : SlotId) :
    (finish job result c).2.slots[id] =
      if job.slot = some id then c.slots[id].completed result else c.slots[id] := by
  obtain ⟨m, _ | id'⟩ := job
  · cases result <;> simp [finish, Client.publishFault, Client.publish]
  · have hset : (finish ⟨m, some id'⟩ result c).2 =
        c.setSlot id' (c.slots[id'].completed result) := c.completeSlot_eq id' result
    simp only [hset, Client.getElem_setSlot, Option.some.injEq]
    by_cases h : id' = id
    · simp [h]
    · simp [h]

/-- To stop the sender completes the place that its request names. -/
theorem getElem_slots_cancel {s : Sender} {job : Job} (h : s.job? = some job) (c : Client)
    (id : SlotId) : (s.cancel c).slots[id] =
      if job.slot = some id then c.slots[id].completed (.error Client.lost) else c.slots[id] := by
  simp only [cancel, h, Client.dropJob_eq]
  exact Client.getElem_dropSlot c.slots job id

end Sender

end KnxIp
