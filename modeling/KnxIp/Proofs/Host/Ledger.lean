import KnxIp.Proofs.Host.History
import Mathlib.Data.List.Range
import Mathlib.Data.List.Perm.Basic
import Mathlib.Logic.Function.Basic

/-!
# The ledger of a history

A request has no name: two calls may send the same message, and a place in the table of
waiting callers is used by one caller after the other. The *ledger* of a history
(`KnxIp.Ledger`) gives each request a *ticket* when it enters the queue – the number of
requests that entered before – and follows it by the ticket: who handed it over, when the
sender took it, which copies of it were sent, and how it ended. The ledger is computed from
nothing but the moments of the history, `KnxIp.Ledger.of`, so that what is proved of it is a
statement about what happened.

That the ledger is kept well is `KnxIp.Ledger.Fits`: the tickets in the queue and in flight
are those of the requests that are there, they are taken in the order in which they were
given, and of all tickets that were given each is either pending or has produced exactly
one result. Every turn keeps it so, `KnxIp.Ledger.Fits.turn`, and what every turn keeps holds
after every run, `KnxIp.Ledger.run_induction`.
-/

namespace KnxIp

/-- **A session that was granted**: its channel, and where its tunnelling frames go. -/
structure Grant where
  channel : UInt8
  endpoint : Endpoint
  deriving DecidableEq

/-- **A tunnelling request that was sent.** -/
structure Emission where
  /-- Which request of the application it carries. -/
  ticket : Nat
  datagram : Datagram
  /-- The client before and after the turn in which it was sent. -/
  before : Client
  after : Client
  /-- The session that had been granted last. -/
  grant : Option Grant
  /-- How many requests the gateway had accepted in this session. -/
  accepted : Nat

/-- **What a call was told** of its request. -/
structure Return where
  /-- The number of the call. -/
  number : Nat
  /-- Which request it had handed over last. -/
  ticket : Option Nat
  result : Except Fault Unit

/-- **What a history tells of the requests.** -/
structure Ledger where
  /-- The requests that have entered the queue, in that order: a ticket is an index. -/
  entered : List Job
  /-- What is in the queue. -/
  queued : List Nat
  /-- What the sender delivers. -/
  inFlight : Option Nat
  /-- What the sender has taken from the queue, in that order. -/
  begun : List Nat
  /-- How requests have ended. -/
  produced : List (Nat × Except Fault Unit)
  /-- The session that was granted last. -/
  grant : Option Grant
  /-- How many requests the gateway has accepted in this session. -/
  accepted : Nat
  /-- The tunnelling requests that were sent. -/
  sent : List Emission
  /-- Which request the call with a number has handed over last. -/
  owner : Nat → Option Nat
  /-- What calls were told. -/
  returned : List Return

/-- The tunnelling request that an output is, if it is one. -/
def Output.request? : Output → Option Datagram
  | .datagram d => if d.isRequest then some d else none
  | .event _ => none

/-- The tunnelling requests among what a client has done. -/
def requests (outbox : List Output) : List Datagram := outbox.filterMap Output.request?

/-- The requests that wait in the queue, behind the one that is being delivered. -/
def Host.jobs (h : Host) : List Job :=
  (h.driver.bind fun d => d.sender.job?).toList ++ h.client.queue.toList

namespace Ledger

open Host

/-! ### Keeping a ledger -/

/-- The ledger of no history. -/
def empty : Ledger := ⟨[], [], none, [], [], none, 0, [], fun _ => none, []⟩

/-- The sender takes the oldest request from the queue. -/
def take (L : Ledger) : Ledger :=
  match L.queued with
  | t :: rest => { L with queued := rest, inFlight := some t, begun := L.begun ++ [t] }
  | [] => L

/-- The sender has its turn, and takes a request if it is ready to. -/
def takeFor (L : Ledger) (s : Sender) (c : Client) : Ledger := if s.isReady c then L.take else L

theorem takeFor_eq (L : Ledger) (s : Sender) (c : Client) : ∃ queued inFlight begun,
    L.takeFor s c = { L with queued := queued, inFlight := inFlight, begun := begun } := by
  unfold takeFor take
  split
  · split
    · exact ⟨_, _, _, rfl⟩
    · exact ⟨_, _, _, rfl⟩
  · exact ⟨_, _, _, rfl⟩

/-- The queue is found to hold these requests. Those that are missing were let go, and those
that are new were handed over by the caller. -/
def requeue (L : Ledger) (queue : List Job) (caller : Option Nat) : Ledger :=
  let gone := L.queued.length - queue.length
  let new := queue.drop L.queued.length
  { L with
    entered := L.entered ++ new
    queued := L.queued.drop gone ++ List.range' L.entered.length new.length
    produced := L.produced ++ (L.queued.take gone).map fun t => (t, .error Client.lost)
    owner :=
      match caller, new with
      | some number, _ :: _ => Function.update L.owner number (some L.entered.length)
      | _, _ => L.owner }

/-- The tunnelling requests of a moment were sent. -/
def emit (L : Ledger) (m : Moment) : Ledger :=
  { L with
    sent := L.sent ++
      match L.inFlight with
      | some t =>
        (requests (m.after.outbox.drop m.before.outbox.length)).map fun d =>
          ⟨t, d, m.before, m.after, L.grant, L.accepted⟩
      | none => [] }

/-- The request that is delivered has ended. -/
def conclude (L : Ledger) (result : Except Fault Unit) : Ledger :=
  match L.inFlight with
  | some t => { L with inFlight := none, produced := L.produced ++ [(t, result)] }
  | none => L

/-- The session that the gateway has granted with a frame, or the one before. -/
def granted (L : Ledger) (c : Client) (frame : Frame) : Option Grant × Nat :=
  match c.grantedBy? frame with
  | some response => (some ⟨response.channel, response.dataEndpoint c.config.gateway⟩, 0)
  | none => (L.grant, if c.isAcceptedBy frame then L.accepted + 1 else L.accepted)

/-- A datagram was received. -/
def receive (L : Ledger) (c : Client) (d : Datagram) : Ledger :=
  match c.frame? d with
  | some frame => { L with grant := (L.granted c frame).1, accepted := (L.granted c frame).2 }
  | none => L

theorem receive_eq (L : Ledger) (c : Client) (d : Datagram) :
    ∃ grant accepted, L.receive c d = { L with grant := grant, accepted := accepted } := by
  unfold receive
  split <;> exact ⟨_, _, rfl⟩

/-- What a call is told in its turn, if it is told how its request ended. -/
def told? (c : Client) (k : PendingCall) : Option (Except Fault Unit) :=
  match k.call.sending? with
  | some (.awaiting id) =>
    match ((Sending.awaiting id).poll c).1 with
    | .done result => some result
    | .waiting _ => none
  | _ => none

/-- A call was told how its request ended. -/
def tell (L : Ledger) (c : Client) (k : PendingCall) : Ledger :=
  { L with
    returned := L.returned ++ (told? c k).toList.map fun result =>
      ⟨k.number, L.owner k.number, result⟩ }

/-- A call has its turn that does not wait for a request: it has handed over none so far,
whatever an earlier call with its number did. -/
def forget (L : Ledger) (k : PendingCall) : Ledger :=
  { L with
    owner := if k.call.sending?.isNone then Function.update L.owner k.number none else L.owner }

/-- **The ledger after another moment.** -/
def note (L : Ledger) (m : Moment) : Ledger :=
  let queue := m.after.queue.toList
  match m.deed with
  | .receive d => (L.receive m.before d).requeue queue none
  | .send s =>
    let L := ((L.takeFor s m.before).requeue queue none).emit m
    match s.work? m.before with
    | some (_, .done result, _) => L.conclude result
    | _ => L
  | .stop s => if s.job?.isSome then L.conclude (.error Client.lost) else L
  | .call k => ((L.tell m.before k).forget k).requeue queue (some k.number)
  | .cancel _ => L
  | .other => L.requeue queue none

/-- **The ledger of a history.** -/
def of (ms : List Moment) : Ledger := ms.foldl note empty

variable (L : Ledger) (c c' : Client)

theorem note_receive (d : Datagram) :
    L.note ⟨.receive d, c, c'⟩ = (L.receive c d).requeue c'.queue.toList none := rfl

theorem note_stop (s : Sender) :
    L.note ⟨.stop s, c, c'⟩ = if s.job?.isSome then L.conclude (.error Client.lost) else L := rfl

theorem note_call (k : PendingCall) :
    L.note ⟨.call k, c, c'⟩ =
      ((L.tell c k).forget k).requeue c'.queue.toList (some k.number) := rfl

theorem note_cancel (k : PendingCall) : L.note ⟨.cancel k, c, c'⟩ = L := rfl

theorem note_other : L.note ⟨.other, c, c'⟩ = L.requeue c'.queue.toList none := rfl

/-- What has neither ended nor been let go. -/
def pending (L : Ledger) : List Nat := L.inFlight.toList ++ L.queued

variable {L} {queue : List Job} {job : Option Job} {caller : Option Nat}

theorem requeue_of_length (h : queue.length = L.queued.length) : L.requeue queue caller = L := by
  have hnew : queue.drop L.queued.length = [] := by simp [← h]
  cases caller <;> simp [requeue, hnew, h]

theorem requeue_nil :
    L.requeue [] caller =
      { L with
        queued := []
        produced := L.produced ++ L.queued.map fun t => (t, .error Client.lost) } := by
  cases caller <;> simp [requeue]

theorem requeue_concat {j : Job} (h : queue.length = L.queued.length) :
    L.requeue (queue ++ [j]) caller =
      { L with
        entered := L.entered ++ [j]
        queued := L.queued ++ [L.entered.length]
        owner :=
          match caller with
          | some number => Function.update L.owner number (some L.entered.length)
          | none => L.owner } := by
  have hnew : (queue ++ [j]).drop L.queued.length = [j] := by simp [← h]
  have hgone : L.queued.length - (queue.length + 1) = 0 := by omega
  cases caller <;> simp [requeue, hnew, hgone]

/-! ### A ledger that is kept well -/

/-- **The ledger fits** the requests that are in the queue, and the one that is being
delivered. -/
structure Fits (L : Ledger) (queue : List Job) (job : Option Job) : Prop where
  queue : L.queued.map (L.entered[·]?) = queue.map some
  job : L.inFlight.map (L.entered[·]?) = job.map some
  /-- What is in flight was taken last. -/
  begun : ∀ t, L.inFlight = some t → L.begun.getLast? = some t
  /-- Requests are taken in the order in which they entered. -/
  order : (L.begun ++ L.queued).Pairwise (· < ·)
  bound : ∀ t ∈ L.begun, t < L.entered.length
  /-- Each ticket that was given is pending, or has produced one result. -/
  count : (L.pending ++ L.produced.map Prod.fst).Perm (List.range L.entered.length)

theorem fits_empty : empty.Fits [] none :=
  ⟨rfl, rfl, by rintro t ⟨⟩, by simp [empty], by simp [empty], by simp [empty, pending]⟩

namespace Fits

variable (h : L.Fits queue job)
include h

theorem length_eq : L.queued.length = queue.length := by simpa using congrArg List.length h.queue

theorem inFlight_isSome : L.inFlight.isSome = job.isSome := by
  simpa using congrArg Option.isSome h.job

/-- The pending tickets are those of the requests in the queue and in flight. -/
theorem map_pending : L.pending.map (L.entered[·]?) = (job.toList ++ queue).map some := by
  have hjob : L.inFlight.toList.map (L.entered[·]?) = job.toList.map some := by
    have := h.job
    cases hf : L.inFlight <;> cases job <;> simp_all
  rw [pending, List.map_append, List.map_append, hjob, h.queue]

/-- A ticket in the queue is one that was given. -/
theorem lt_of_mem_queued {t : Nat} (ht : t ∈ L.queued) : t < L.entered.length := by
  have : t ∈ L.pending ++ L.produced.map Prod.fst := by simp [pending, ht]
  simpa using h.count.mem_iff.mp this

/-- What has been taken from the queue is not in it any more. -/
theorem notMem_queued {t : Nat} (ht : t ∈ L.begun) : t ∉ L.queued := fun hq =>
  Nat.lt_irrefl t ((List.pairwise_append.mp h.order).2.2 t ht t hq)

omit h in
/-- The sender takes a request, and nothing was in flight. -/
theorem take {j : Job} {rest : List Job} (h : L.Fits (j :: rest) none) :
    L.take.Fits rest (some j) := by
  have hnone : L.inFlight = none := by simpa using h.job
  obtain ⟨t, ts, hqueued⟩ : ∃ t ts, L.queued = t :: ts :=
    List.exists_cons_of_length_pos (by simp [h.length_eq])
  have hqueue := h.queue
  simp only [hqueued, List.map_cons, List.cons.injEq] at hqueue
  have hlt : t < L.entered.length := h.lt_of_mem_queued (by simp [hqueued])
  simp only [Ledger.take, hqueued]
  -- The oldest ticket goes from the queue to where nothing was, so that nothing is lost.
  refine ⟨hqueue.2, by simp [hqueue.1], by simp, ?_, ?_, ?_⟩
  · simpa [hqueued] using h.order
  · intro t' ht'
    rcases List.mem_append.mp ht' with ht' | ht'
    · exact h.bound t' ht'
    · rwa [List.mem_singleton.mp ht']
  · simpa [pending, hnone, hqueued] using h.count

omit h in
/-- What the sender takes now it has not taken before. -/
theorem notMem_begun {j : Job} {rest : List Job} (h : L.Fits (j :: rest) none) {t : Nat}
    (ht : L.take.inFlight = some t) : t ∉ L.begun := by
  obtain ⟨t', ts, hqueued⟩ : ∃ t ts, L.queued = t :: ts :=
    List.exists_cons_of_length_pos (by simp [h.length_eq])
  have htt : t' = t := by simpa [Ledger.take, hqueued] using ht
  subst htt
  intro hmem
  have := (List.pairwise_append.mp h.order).2.2 t' hmem t' (by simp [hqueued])
  omega

/-- The queue is let go: what was in it has ended. -/
theorem requeue_nil : (L.requeue [] caller).Fits [] job := by
  rw [Ledger.requeue_nil]
  refine ⟨rfl, h.job, h.begun, ?_, h.bound, ?_⟩
  · exact h.order.sublist (by simp)
  · -- The tickets of the queue are now among the results; only the order has changed.
    have hsame : (L.queued ++ L.produced.map Prod.fst).Perm (L.produced.map Prod.fst ++ L.queued) :=
      List.perm_append_comm
    have := hsame.append_left L.inFlight.toList
    simpa [pending, Function.comp_def] using this.symm.trans (by simpa [pending] using h.count)

/-- A request enters the queue, and gets the next ticket. -/
theorem requeue_concat (j : Job) : (L.requeue (queue ++ [j]) caller).Fits (queue ++ [j]) job := by
  -- A ticket that was given before keeps its request, since requests are added at the end.
  have hqueued : ∀ t ∈ L.queued, (L.entered ++ [j])[t]? = L.entered[t]? := fun t ht =>
    List.getElem?_append_left (h.lt_of_mem_queued ht)
  have hflight : ∀ t, L.inFlight = some t → (L.entered ++ [j])[t]? = L.entered[t]? := by
    intro t ht
    have hmem : t ∈ L.pending ++ L.produced.map Prod.fst := by simp [pending, ht]
    exact List.getElem?_append_left (by simpa using h.count.mem_iff.mp hmem)
  rw [Ledger.requeue_concat h.length_eq.symm]
  refine ⟨?_, ?_, h.begun, ?_, ?_, ?_⟩
  · simpa [List.map_congr_left hqueued] using h.queue
  · have hjob := h.job
    cases hf : L.inFlight with
    | none => simpa [hf] using hjob
    | some t => simpa [hf, hflight t hf] using hjob
  · rw [← List.append_assoc, List.pairwise_append]
    refine ⟨h.order, by simp, ?_⟩
    intro t ht t' ht'
    rw [List.mem_singleton.mp ht']
    rcases List.mem_append.mp ht with ht | ht
    · exact h.bound t ht
    · exact h.lt_of_mem_queued ht
  · intro t ht
    exact (h.bound t ht).trans (by simp)
  · have hmid : (L.pending ++ [L.entered.length] ++ L.produced.map Prod.fst).Perm
        (L.pending ++ L.produced.map Prod.fst ++ [L.entered.length]) := by
      rw [List.append_assoc, List.append_assoc]
      exact List.perm_append_comm.append_left _
    have := hmid.trans (h.count.append_right [L.entered.length])
    simpa [pending, List.range_succ] using this

/-- What is delivered has ended. -/
theorem conclude (hj : job.isSome) (result : Except Fault Unit) :
    (L.conclude result).Fits queue none := by
  obtain ⟨t, ht⟩ := Option.isSome_iff_exists.mp (h.inFlight_isSome.trans hj)
  simp only [Ledger.conclude, ht]
  refine ⟨h.queue, rfl, by rintro t ⟨⟩, h.order, h.bound, ?_⟩
  have hcount := h.count
  simp only [pending, ht, Option.toList_some, List.cons_append] at hcount
  have hlast : (L.queued ++ (L.produced.map Prod.fst ++ [t])).Perm
      (t :: (L.queued ++ L.produced.map Prod.fst)) := by
    rw [← List.append_assoc]
    exact List.perm_append_singleton _ _
  simpa [pending] using hlast.trans hcount

/-- The queue stays, or is let go, or another request enters. -/
theorem requeue {queue' : List Job}
    (hq : queue' = queue ∨ queue' = [] ∨ ∃ j, queue' = queue ++ [j]) :
    (L.requeue queue' caller).Fits queue' job := by
  rcases hq with rfl | rfl | ⟨j, rfl⟩
  · rw [requeue_of_length h.length_eq.symm]
    exact h
  · exact h.requeue_nil
  · exact h.requeue_concat j

theorem emit (m : Moment) : (L.emit m).Fits queue job :=
  ⟨h.queue, h.job, h.begun, h.order, h.bound, h.count⟩

theorem tell (c : Client) (k : PendingCall) : (L.tell c k).Fits queue job :=
  ⟨h.queue, h.job, h.begun, h.order, h.bound, h.count⟩

theorem forget (k : PendingCall) : (L.forget k).Fits queue job :=
  ⟨h.queue, h.job, h.begun, h.order, h.bound, h.count⟩

theorem receive (c : Client) (d : Datagram) : (L.receive c d).Fits queue job := by
  unfold Ledger.receive
  split
  · exact ⟨h.queue, h.job, h.begun, h.order, h.bound, h.count⟩
  · exact h

omit h in
/-- A sender that works on nothing takes nothing. -/
theorem takeFor_of_work?_eq_none {c : Client} {s : Sender} (h : L.Fits c.queue.toList s.job?)
    (hw : s.work? c = none) : L.takeFor s c = L := by
  obtain ⟨-, -, -, hempty⟩ := Sender.poll_of_work?_eq_none hw
  unfold takeFor
  split
  · rename_i hr
    have hnil : L.queued = [] := by simpa [hempty hr] using h.length_eq
    simp [Ledger.take, hnil]
  · rfl

omit h in
/-- Once a request is taken, if it had to be, the ledger fits what the sender works on, and the
work leaves the queue as it is or lets it go. -/
theorem work {c : Client} {s : Sender} {job : Job}
    {p : Progress (Except Fault Unit) Transfer × Client} (h : L.Fits c.queue.toList s.job?)
    (hw : s.work? c = some (job, p)) :
    ∃ b : Client, b.slots = c.slots ∧ (L.takeFor s c).Fits b.queue.toList (some job) ∧
      b.Drops p.2 := by
  rcases Sender.work?_cases hw with ⟨t, rfl, ht⟩ | ⟨q, hjob, hr, hq, ho⟩
  · exact ⟨c, rfl, h, ht.drops⟩
  · rw [hq, hjob] at h
    exact ⟨{ c with queue := q }, rfl, by simpa [Ledger.takeFor, hr] using h.take, ho.drops⟩

omit h in
theorem takeFor {c : Client} {s : Sender} {job : Job}
    {p : Progress (Except Fault Unit) Transfer × Client} (h : L.Fits c.queue.toList s.job?)
    (hw : s.work? c = some (job, p)) :
    ((L.takeFor s c).requeue p.2.queue.toList none).Fits p.2.queue.toList (some job) := by
  obtain ⟨b, -, hfits, hdrops⟩ := h.work hw
  exact hfits.requeue (hdrops.toList.imp id Or.inl)

omit h in
/-- What is taken from the queue is still pending. -/
theorem pending_takeFor {c : Client} {s : Sender} (h : L.Fits queue s.job?) :
    (L.takeFor s c).pending = L.pending := by
  unfold Ledger.takeFor
  split
  · rename_i hr
    have hjob : s.job? = none := by
      cases s with
      | delivering job t => simp [Sender.isReady] at hr
      | _ => rfl
    have hnone : L.inFlight = none := by simpa [hjob] using h.job
    unfold Ledger.take
    split
    · rename_i t rest hq
      simp [pending, hnone, hq]
    · rfl
  · rfl

omit h in
/-- **A turn of the sender** keeps the ledger well. -/
theorem send {c : Client} {s : Sender} (h : L.Fits c.queue.toList s.job?) :
    (L.note ⟨.send s, c, (s.poll c).2⟩).Fits (s.poll c).2.queue.toList (s.poll c).1.job? := by
  simp only [note]
  cases hw : s.work? c with
  | none =>
    obtain ⟨hc, hjob', hjob, -⟩ := Sender.poll_of_work?_eq_none hw
    rw [hc, hjob', h.takeFor_of_work?_eq_none hw]
    rw [hjob] at h
    exact (h.requeue (Or.inl rfl)).emit _
  | some r =>
    obtain ⟨job, p⟩ := r
    have hfits := (h.takeFor hw).emit ⟨.send s, c, (Sender.follow job p).2⟩
    rw [Sender.poll_of_work? hw, Sender.queue_follow, Sender.job?_follow]
    obtain ⟨result | t, c'⟩ := p
    · exact hfits.conclude rfl result
    · exact hfits

omit h in
/-- **A turn** keeps the ledger well. -/
theorem turn {S S' : Stage} {m : Moment} (t : Turn S m S')
    (h : L.Fits S.client.queue.toList (S.sender.bind Sender.job?)) :
    (L.note m).Fits S'.client.queue.toList (S'.sender.bind Sender.job?) := by
  have hdrops {c c' : Client} (hd : c.Drops c') : c'.queue.toList = c.queue.toList ∨
      c'.queue.toList = [] ∨ ∃ j, c'.queue.toList = c.queue.toList ++ [j] :=
    hd.toList.imp id Or.inl
  cases t with
  | receive c s ks d socket =>
    have hb : c.Drops { c with socket := socket } := .none rfl rfl
    rw [note_receive]
    exact (h.receive c d).requeue (hdrops (hb.trans (Client.drops_onDatagram _ _)))
  | send c s ks => exact send h
  | stop s ks hb =>
    rename_i c b
    rw [note_stop]
    simp only [Sender.queue_cancel, hb.queue]
    cases hjob : s.job? with
    | none => simpa [hjob] using h
    | some job => exact h.conclude (by simp [hjob]) _
  | start c ks =>
    rw [note_other]
    exact h.requeue (Or.inl rfl)
  | begin c s ks k hn hk =>
    rw [note_other]
    exact h.requeue (Or.inl rfl)
  | call c s pre k post =>
    rw [note_call]
    exact ((h.tell c k).forget k).requeue (k.call.queue_poll c)
  | cancel c s pre k post =>
    rw [note_cancel]
    simpa [Call.queue_cancel] using h
  | move s ks hm =>
    rw [note_other]
    exact h.requeue (hdrops hm.drops)

omit h in
/-- At a stage of a host, what is pending are the requests of the host. -/
theorem of_stage {host : Host}
    (h : L.Fits host.stage.client.queue.toList (host.stage.sender.bind Sender.job?)) :
    L.Fits host.client.queue.toList (host.driver.bind fun d => d.sender.job?) := by
  simpa [Host.stage, Option.bind_map, Function.comp_def] using h

end Fits

/-- **What every turn preserves holds after every run**: of the ledger, and of the stage that
the host is at. -/
theorem run_induction {P : Ledger → Stage → Prop} (config : Config)
    (init : P empty (Host.fresh config).stage)
    (turn : ∀ {L S S' m}, Turn S m S' → P L S → P (L.note m) S') (actions : List Action) :
    P (of ((Host.fresh config).history actions)) ((Host.fresh config).run actions).stage :=
  Host.fold_induction config init turn actions

end Ledger

end KnxIp
