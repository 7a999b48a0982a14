import Mathlib.Data.List.Nodup
import KnxIp.Proofs.Host.Interludes
import KnxIp.Proofs.Host.Verdicts

/-!
# How a delivery ends

The delivery of one request takes many turns of the sender, with everybody else between them.
This module gathers from a history what happens to each delivery (`KnxIp.Delivery`): when copies
of the request were sent, which acknowledgement came for it, and whether the session broke off.
From this alone it can be told in which turn of the sender the delivery fails for want of an
answer, and in which because it was refused:

* no answer came if all copies were sent, the time for an answer has passed after each of them,
  no acknowledgement was for this request, and the session did not break off
  (`KnxIp.Delivery.IsOverdue`);
* it was refused if the first acknowledgement that was for this request tells of a fault, and the
  session did not break off before the sender took note of it (`KnxIp.Delivery.IsRefused`).

However a delivery ends, it leaves no request outstanding, so that the next one can begin.

## Main statements

* `KnxIp.Deliveries.deliveries_run`: after every run, each turn of the sender with a delivery had
  the outcome that it had to have, and each acknowledgement that was not for the request that was
  being delivered was ignored.
-/

namespace KnxIp

/-- **A delivery**, as a history tells of it. -/
structure Delivery where
  /-- Which request is delivered. -/
  ticket : Option Nat
  job : Job
  /-- The client when the sender began with it. -/
  start : Client
  /-- When copies of the request were sent. -/
  copies : List Nat
  /-- The first acknowledgement that was for this request, and how many copies had been sent. -/
  answer : Option (TunnelingAck × Nat)
  /-- The confirmations that came, and how many copies had been sent. -/
  confirmations : List (Cemi × Nat)
  /-- Whether the session has broken off. -/
  broken : Bool

/-- **What comes of a delivery** when the sender has its turn with it, or is stopped. -/
inductive Outcome
  | waits
  | returns (result : Except Fault Unit)
  | dropped
  deriving DecidableEq

/-- **A turn of the sender with a delivery**, and the delivery as it stood before. -/
structure Juncture where
  delivery : Delivery
  outcome : Outcome
  moment : Host.Moment

/-- **An acknowledgement that was not for the request** that was being delivered. -/
structure Stray where
  delivery : Delivery
  moment : Host.Moment

/-- **What a history tells of deliveries.** -/
structure Deliveries where
  ledger : Ledger
  /-- The delivery that goes on. -/
  current : Option Delivery
  junctures : List Juncture
  strays : List Stray

namespace Host.Moment

/-- The tunnelling requests that were sent in a moment. -/
def requests (m : Moment) : List Datagram :=
  KnxIp.requests (m.after.outbox.drop m.before.outbox.length)

/-- The frame that was received in a moment. -/
def frame? (m : Moment) : Option Frame :=
  match m.deed with
  | .receive d => m.before.frame? d
  | _ => none

theorem frame?_eq_none {m : Moment} (h : ∀ d, m.deed ≠ .receive d) : m.frame? = none := by
  unfold frame?
  split
  · rename_i d hd
    exact absurd hd (h d)
  · rfl

/-- The acknowledgement that was received. -/
def ack? (m : Moment) : Option TunnelingAck := m.frame?.bind Frame.ack?

/-- The confirmation that was received. -/
def confirmation? (m : Moment) : Option Cemi := m.frame?.bind m.before.confirmationIn?

theorem requests_eq_nil {m : Moment}
    (h : ∃ quiet, m.after.outbox = m.before.outbox ++ quiet ∧ KnxIp.requests quiet = []) :
    m.requests = [] := by
  obtain ⟨quiet, ho, hr⟩ := h
  rw [requests, ho, List.drop_left, hr]

end Host.Moment

open Host

/-! ### One delivery -/

namespace Delivery

/-- A delivery that begins. -/
def begun (ticket : Option Nat) (job : Job) (c : Client) : Delivery :=
  ⟨ticket, job, c, [], none, [], false⟩

/-- The number of the request. -/
def number (d : Delivery) : UInt8 := d.start.session.sendSequence

/-- Whether an acknowledgement is for the request: it has its channel and its number. -/
def isFor (d : Delivery) (b : TunnelingAck) : Bool :=
  b.channel = d.start.session.channel && b.sequence = d.number

/-- **The delivery after another moment.** -/
def note (d : Delivery) (m : Moment) : Delivery :=
  { d with
    copies := d.copies ++ m.requests.map fun _ => m.before.now
    answer := d.answer.or ((m.ack?.filter d.isFor).map fun b => (b, d.copies.length))
    confirmations :=
      d.confirmations ++ m.confirmation?.toList.map fun said => (said, d.copies.length)
    broken := d.broken || !m.after.isConnected }

/-- The time for an answer has passed after each copy. -/
def HasWaited (config : Config) (d : Delivery) (now : Nat) : Prop :=
  (d.copies ++ [now]).IsChain fun sent next => sent + config.ackTimeout ≤ next

/-- **No answer came**, though all copies were sent. -/
structure IsOverdue (config : Config) (d : Delivery) (now : Nat) : Prop where
  copies : d.copies.length = 1 + config.ackRetries.toNat
  waited : d.HasWaited config now
  answer : d.answer = none
  unbroken : d.broken = false

/-- **The request was refused** with a status. -/
structure IsRefused (d : Delivery) (status : UInt8) : Prop where
  answer : ∃ b n, d.answer = some (b, n) ∧ b.status = status
  status : status ≠ 0
  unbroken : d.broken = false

end Delivery

/-- What comes of a delivery in a turn of the sender. -/
def Outcome.of : Progress (Except Fault Unit) Transfer → Outcome
  | .waiting _ => .waits
  | .done result => .returns result

/-- **A turn of the sender was fair**: its outcome is that which the delivery had to have. -/
structure Juncture.IsFair (config : Config) (v : Juncture) : Prop where
  /-- A delivery that has ended leaves no request outstanding. -/
  released : v.outcome ≠ .waits → v.moment.after.session.outstanding = none
  /-- It does not fail because one was outstanding when it began. -/
  valid : v.outcome ≠ .returns (.error (.connection .invalidState))
  overdue : v.outcome ≠ .dropped →
    (v.outcome = .returns (.error (.timeout .ack)) ↔
      v.delivery.IsOverdue config v.moment.before.now)
  refused : v.outcome ≠ .dropped → ∀ status,
    (v.outcome = .returns (.error (.tunneling (.ackStatus status))) ↔ v.delivery.IsRefused status)
  /-- A request that was not accepted leaves its number to the next one. -/
  number : (v.outcome = .returns (.error (.timeout .ack)) ∨
      ∃ status, v.outcome = .returns (.error (.tunneling (.ackStatus status)))) →
    v.moment.after.session.sendSequence = v.delivery.number
  /-- Once there is an answer no copy is sent. -/
  silent : ∀ b n, v.delivery.answer = some (b, n) → v.delivery.broken = false →
    v.delivery.copies.length = n ∧ v.moment.requests = []
  /-- What is delivered was accepted, and the last confirmation was good if one is awaited. -/
  delivered : v.outcome = .returns (.ok ()) →
    (∃ b n, v.delivery.answer = some (b, n) ∧ b.status = 0) ∧
      (config.awaitConfirmation = true →
        ∃ said, v.delivery.confirmations.getLast? = some said ∧ said.1.verdict = .ok ())

/-- **A stray acknowledgement is ignored**: it is published as a fault, and the sender does in its
next turn what it would have done without it. -/
structure Stray.IsIgnored (x : Stray) : Prop where
  published : ∃ cause t,
    (t = x.moment.before.session ∨
      t = x.moment.before.session.recordActivity x.moment.before.now) ∧
    x.moment.after =
      { x.moment.before with session := t, socket := x.moment.after.socket }.publishFault
        (.protocol cause)
  unnoticed : ∀ job transfer,
    let s := Sender.delivering job transfer
    let c := { x.moment.before with socket := x.moment.after.socket }
    (s.poll x.moment.after).1 = (s.poll c).1 ∧
      requests (s.poll x.moment.after).2.outbox = requests (s.poll c).2.outbox

/-! ### Gathering -/

namespace Deliveries

/-- Nothing has happened. -/
def empty : Deliveries := ⟨.empty, none, [], []⟩

/-- The sender has its turn with a delivery, which it may just begin with, or is stopped. -/
def juncture? (D : Deliveries) (m : Moment) : Option Juncture :=
  match m.deed with
  | .send s =>
    (s.work? m.before).map fun (job, p, _) =>
      let ticket := (D.ledger.takeFor s m.before).inFlight
      ⟨D.current.getD (.begun ticket job m.before), .of p, m⟩
  | .stop _ => D.current.map fun d => ⟨d, .dropped, m⟩
  | _ => none

/-- An acknowledgement comes that is not for the request that is being delivered. -/
def stray? (D : Deliveries) (m : Moment) : Option Stray :=
  match D.current, m.ack? with
  | some d, some b => if d.isFor b then none else some ⟨d, m⟩
  | _, _ => none

/-- **What is known after another moment.** -/
def note (D : Deliveries) (m : Moment) : Deliveries where
  ledger := D.ledger.note m
  current :=
    match D.juncture? m with
    | some v => if v.outcome = .waits then some (v.delivery.note m) else none
    | none => D.current.map fun d => d.note m
  junctures := D.junctures ++ (D.juncture? m).toList
  strays := D.strays ++ (D.stray? m).toList

/-- **What is known after a history.** -/
def of (ms : List Moment) : Deliveries := ms.foldl note empty

end Deliveries

/-! ### How a delivery stands -/

/-- A fault with which a delivery fails for a reason of its own. -/
def Fault.isOfDelivery : Fault → Bool
  | .timeout .ack => true
  | .tunneling (.ackStatus _) => true
  | .connection .invalidState => true
  | _ => false

/-- A socket that does not send has a fault of its own. -/
theorem Socket.exists_of_sendFault? {s : Socket} {f : Fault} (h : s.sendFault? = some f) :
    ∃ cause, f = .transport cause := by
  unfold sendFault? at h
  split_ifs at h <;> obtain rfl := Option.some.inj h <;> exact ⟨_, rfl⟩

namespace Delivery

/-- **The request is pending**: nothing has come of it so far. -/
structure Pending (d : Delivery) (c : Client) : Prop where
  unbroken : d.broken = false
  unanswered : d.answer = none
  connected : c.isConnected
  channel : c.session.channel = d.start.session.channel
  outstanding : c.session.outstanding = some d.number
  ackDone : c.ackDone = none

/-- **What the session and the mailbox say** while the acknowledgement is awaited. -/
inductive Posted (d : Delivery) (c : Client) : Prop
  | pending (h : d.Pending c)
  | answered (b : TunnelingAck) (hb : d.broken = false) (ha : d.answer = some (b, d.copies.length))
      (hc : c.isConnected) (hd : c.ackDone = some b.verdict)
      (hs : c.session.sendSequence = if b.status = 0 then d.number + 1 else d.number)
  | calledOff (hb : d.broken = true) (h : c.IsCalledOff)

/-- The mailbox for confirmations says what the last one said, or that the session was lost. -/
def Heard (d : Delivery) (c : Client) : Prop :=
  (c.confirmation = d.confirmations.getLast?.map fun said => said.1.verdict) ∨
    c.confirmation = some (.error Client.lost)

/-- **Copies were sent** as often as the sender has counted, and it waits as long as it has to. -/
structure Paced (config : Config) (d : Delivery) (copy : Datagram) (attempt deadline : Nat) :
    Prop where
  isRequest : copy.isRequest = true
  length : d.copies.length = attempt + 1
  attempt_le : attempt ≤ config.ackRetries.toNat
  waited : ∀ now, d.HasWaited config now ↔ deadline ≤ now

/-- **How a delivery stands** between two turns of the sender. -/
inductive Stands (config : Config) (d : Delivery) (c : Client) : Transfer → Prop
  | unacked {copy : Datagram} {attempt deadline : Nat} (hp : d.Posted c)
      (hw : d.Paced config copy attempt deadline) :
      Stands config d c (.awaitingAck copy attempt deadline)
  | unconfirmed {deadline : Nat} (b : TunnelingAck) (ha : d.answer = some (b, d.copies.length))
      (hz : b.status = 0) (hn : d.copies ≠ []) : Stands config d c (.awaitingConfirmation deadline)

variable {config : Config} {d : Delivery} {c c' : Client} {m : Moment} {t : Transfer}
  {b : TunnelingAck} {word : Option (Except Fault Unit)}

theorem Paced.copies_ne_nil {copy : Datagram} {attempt deadline : Nat}
    (h : d.Paced config copy attempt deadline) : d.copies ≠ [] :=
  List.ne_nil_of_length_eq_add_one h.length

/-- What is being delivered was sent. -/
theorem Stands.copies_ne_nil (h : d.Stands config c t) : d.copies ≠ [] := by
  cases h with
  | unacked hp hw => exact hw.copies_ne_nil
  | unconfirmed b ha hz hn => exact hn

/-- Once there is an answer it is known how many copies there are. -/
theorem Stands.length_eq {n : Nat} (h : d.Stands config c t) (ha : d.answer = some (b, n))
    (hb : d.broken = false) : d.copies.length = n := by
  cases h with
  | unacked hp hw =>
    cases hp with
    | pending hp => cases hp.unanswered.symm.trans ha
    | answered b' hb' ha' => exact (Prod.mk.inj (Option.some.inj (ha'.symm.trans ha))).2
    | calledOff hb' => cases hb'.symm.trans hb
  | unconfirmed b' ha' => exact (Prod.mk.inj (Option.some.inj (ha'.symm.trans ha))).2

/-! ### What others do -/

/-- **An acknowledgement that fits** the session is for the request that is pending. -/
theorem Stands.pending_of_fits (h : d.Stands config c t) (ha : c.Awaits t.isUnacked)
    (hb : c.session.Fits b) : d.Pending c ∧ d.isFor b = true := by
  obtain ⟨-, hnone, hunacked⟩ := ha _ hb.outstanding
  cases h with
  | unacked hp hw =>
    cases hp with
    | pending hp =>
      have hnumber : b.sequence = d.number :=
        Option.some.inj (hb.outstanding.symm.trans hp.outstanding)
      exact ⟨hp, by simp [isFor, hb.channel, hp.channel, hnumber]⟩
    | answered b' hbroken hanswer hc hd hs => cases hnone.symm.trans hd
    | calledOff hbroken hoff => rcases hoff with hoff | hoff <;> cases hnone.symm.trans hoff
  | unconfirmed b' hanswer hz => cases hunacked

theorem copies_note (d : Delivery) (h : m.requests = []) : (d.note m).copies = d.copies := by
  simp [note, h]

/-- The first answer is kept. -/
theorem answer_note {a : TunnelingAck × Nat} (h : d.answer = some a) :
    (d.note m).answer = some a := by
  simp [note, h]

/-- **Others spare the delivery**, or call it off. -/
theorem Posted.others (h : d.Posted m.before) (hs : m.before.Spares word m.after)
    (hr : m.requests = []) (hack : ∀ b, m.ack? = some b → ¬ m.before.session.Fits b) :
    (d.note m).Posted m.after := by
  have hconn (hg : m.before.GoesOn m.after) (hc : m.before.isConnected) : m.after.isConnected := by
    simpa [Client.isConnected, hg.session.isConnected_eq] using hc
  cases h with
  | pending hp =>
    rcases hs.goesOn hp.connected with hg | ⟨hc, hoff⟩
    · -- An acknowledgement that is for the request would fit.
      have hnone : m.ack?.filter d.isFor = none := by
        rw [Option.filter_eq_none_iff]
        intro b hb hfor
        simp only [isFor, Bool.and_eq_true, decide_eq_true_eq] at hfor
        exact hack b hb ⟨hp.connected, by rw [hfor.1, hp.channel], by rw [hp.outstanding, hfor.2]⟩
      refine .pending ⟨?_, ?_, hconn hg hp.connected, hg.session.channel.trans hp.channel,
        hg.outstanding.trans hp.outstanding, hg.ackDone.trans hp.ackDone⟩
      · simp [note, hp.unbroken, hconn hg hp.connected]
      · simp [note, hp.unanswered, hnone]
    · exact .calledOff (by simp [note, hc]) hoff
  | answered b hb ha hc hd hseq =>
    rcases hs.goesOn hc with hg | ⟨hc', hoff⟩
    · refine .answered b ?_ ?_ (hconn hg hc) (hg.ackDone.trans hd)
        (hg.session.sendSequence.trans hseq)
      · simp [note, hb, hconn hg hc]
      · rw [answer_note ha, d.copies_note hr]
    · exact .calledOff (by simp [note, hc']) hoff
  | calledOff hb hoff => exact .calledOff (by simp [note, hb]) (hs.calledOff hoff)

/-- **The request is answered.** -/
theorem Pending.answered (h : d.Pending m.before) (hack : m.ack? = some b) (hfor : d.isFor b = true)
    (hseq : m.before.session.sendSequence = d.number) (hr : m.requests = [])
    (hc : m.after.isConnected) (hd : m.after.ackDone = some b.verdict)
    (hs : m.after.session.sendSequence =
      if b.status = 0 then m.before.session.sendSequence + 1
      else m.before.session.sendSequence) : (d.note m).Posted m.after := by
  refine .answered b ?_ ?_ hc hd (by rw [hs, hseq]; rfl)
  · simp [note, h.unbroken, hc]
  · rw [d.copies_note hr]
    simp [note, h.unanswered, hack, hfor]

/-- A confirmation is heard. -/
theorem Heard.others (h : d.Heard m.before)
    (hf : m.after.confirmation = (m.confirmation?.map Cemi.verdict).or m.before.confirmation ∨
      m.after.confirmation = some (.error Client.lost)) : (d.note m).Heard m.after := by
  rcases hf with hf | hf
  · cases hm : m.confirmation? with
    | none =>
      rw [hm, Option.map_none, Option.none_or] at hf
      have hnote : (d.note m).confirmations = d.confirmations := by simp [note, hm]
      rwa [Heard, hnote, hf]
    | some said =>
      rw [hm, Option.map_some, Option.some_or] at hf
      exact Or.inl (by simp [note, hm, hf])
  · exact Or.inr hf

theorem Stands.others (h : d.Stands config m.before t) (hr : m.requests = [])
    (hp : d.Posted m.before → (d.note m).Posted m.after) : (d.note m).Stands config m.after t := by
  cases h with
  | unacked hposted hw =>
    refine .unacked (hp hposted) ⟨hw.isRequest, by rw [d.copies_note hr, hw.length],
      hw.attempt_le, fun now => ?_⟩
    rw [HasWaited, d.copies_note hr]
    exact hw.waited now
  | unconfirmed b ha hz hn =>
    exact .unconfirmed b (by rw [answer_note ha, d.copies_note hr]) hz (by rwa [d.copies_note hr])

/-! ### What the sender does -/

/-- Nothing decides yet that the delivery fails. -/
structure Undecided (config : Config) (d : Delivery) (now : Nat) : Prop where
  overdue : ¬ d.IsOverdue config now
  refused : ∀ status, ¬ d.IsRefused status

/-- **What a turn of the sender makes of a delivery.** -/
inductive Turned (config : Config) (d : Delivery) (c : Client) :
    Progress (Except Fault Unit) Transfer → Client → Prop
  | overdue (h : d.IsOverdue config c.now) (hn : c.session.sendSequence = d.number) :
      Turned config d c (.done (.error (.timeout .ack)))
        { c with session := c.session.abandonRequest }
  | refused (status : UInt8) (h : d.IsRefused status) (hn : c.session.sendSequence = d.number) :
      Turned config d c (.done (.error (.tunneling (.ackStatus status)))) { c with ackDone := none }
  | ended (result : Except Fault Unit) {c' : Client} (hu : d.Undecided config c.now)
      (hf : ∀ f, result = .error f → f.isOfDelivery = false)
      (hok : result = .ok () → (∃ b n, d.answer = some (b, n) ∧ b.status = 0) ∧
        (config.awaitConfirmation = true →
          ∃ said, d.confirmations.getLast? = some said ∧ said.1.verdict = .ok ()))
      (hs : c.Hush c') : Turned config d c (.done result) c'
  | waits (t : Transfer) {c' : Client} (hu : d.Undecided config c.now)
      (hst : ∀ s, (d.note ⟨.send s, c, c'⟩).Stands config c' t)
      (hh : ∀ s, (d.note ⟨.send s, c, c'⟩).Heard c')
      (hs : d.answer ≠ none → c.Hush c') : Turned config d c (.waiting t) c'

theorem undecided_of_broken (h : d.broken = true) (now : Nat) : d.Undecided config now :=
  ⟨fun ho => Bool.noConfusion (h.symm.trans ho.unbroken),
    fun _ hr => Bool.noConfusion (h.symm.trans hr.unbroken)⟩

/-- An answer that accepts the request decides nothing. -/
theorem undecided_of_accepted {n : Nat} (ha : d.answer = some (b, n)) (hz : b.status = 0)
    (now : Nat) : d.Undecided config now := by
  refine ⟨fun ho => ?_, fun status hr => ?_⟩
  · cases ha.symm.trans ho.answer
  · obtain ⟨b', n', ha', hb'⟩ := hr.answer
    cases ha.symm.trans ha'
    exact hr.status (hb'.symm.trans hz)

/-- A turn in which nothing is sent is noted as one in which the session goes on or not. -/
theorem note_send (d : Delivery) {s : Sender} (h : c.Hush c') :
    d.note ⟨.send s, c, c'⟩ = { d with broken := d.broken || !c'.isConnected } := by
  have hr : Moment.requests ⟨.send s, c, c'⟩ = [] := Moment.requests_eq_nil h.outbox
  simp [note, hr, Moment.ack?, Moment.confirmation?, Moment.frame?]

/-- What the mailbox for confirmations can say. -/
theorem Heard.cases {result : Except Fault Unit} (h : d.Heard c)
    (hr : c.confirmation = some result) :
    (∀ f, result = .error f → f.isOfDelivery = false) ∧
      (result = .ok () →
        ∃ said, d.confirmations.getLast? = some said ∧ said.1.verdict = .ok ()) := by
  rcases h with h | h
  · obtain ⟨m, hm, rfl⟩ := Option.map_eq_some_iff.mp (h.symm.trans hr)
    refine ⟨fun f hf => ?_, fun hok => ⟨m, hm, hok⟩⟩
    unfold Cemi.verdict at hf
    split at hf
    · obtain rfl := Except.error.inj hf
      rfl
    · cases hf
  · obtain rfl := Option.some.inj (hr.symm.trans h)
    refine ⟨fun f hf => ?_, by rintro ⟨⟩⟩
    obtain rfl := Except.error.inj hf
    rfl

/-- A socket that does not send fails for a reason of its own. -/
theorem isOfDelivery_of_sendFault? {f : Fault} (h : c.socket.sendFault? = some f) :
    f.isOfDelivery = false := by
  obtain ⟨cause, rfl⟩ := Socket.exists_of_sendFault? h
  rfl

/-- While the session goes on there is nothing to note. -/
theorem note_wait (d : Delivery) {s : Sender} (h : c.Hush c') (hc : c'.isConnected) :
    d.note ⟨.send s, c, c'⟩ = d := by
  rw [d.note_send h, hc, Bool.not_true, Bool.or_false]

/-- The time for an answer begins anew with each copy. -/
theorem hasWaited_concat {now next : Nat} {copies : List Nat}
    (hd : (copies ++ [now]).IsChain fun sent next => sent + config.ackTimeout ≤ next) :
    ((copies ++ [now] ++ [next]).IsChain fun sent next => sent + config.ackTimeout ≤ next) ↔
      now + config.ackTimeout ≤ next := by
  rw [List.isChain_append]
  simp [hd]

/-- **To send a copy** keeps the pace. -/
theorem note_copy (d : Delivery) {s : Sender} {copy : Datagram} (hcopy : copy.isRequest = true)
    (ho : c'.outbox = c.outbox ++ [.datagram copy]) (hc : c'.isConnected) :
    d.note ⟨.send s, c, c'⟩ = { d with copies := d.copies ++ [c.now] } := by
  have hr : Moment.requests ⟨.send s, c, c'⟩ = [copy] := by
    simp [Moment.requests, ho, requests, Output.request?, hcopy]
  simp [note, hr, Moment.ack?, Moment.confirmation?, Moment.frame?, hc]

/-- **A turn while the request is pending.** -/
theorem Pending.turned {copy : Datagram} {attempt deadline : Nat} (hp : d.Pending c)
    (hw : d.Paced c.config copy attempt deadline) (hh : d.Heard c)
    (hseq : c.session.sendSequence = d.number) :
    d.Turned c.config c ((Transfer.awaitingAck copy attempt deadline).poll c).1
      ((Transfer.awaitingAck copy attempt deadline).poll c).2 := by
  have hrefused : ∀ status, ¬ d.IsRefused status := fun status hr => by
    obtain ⟨b, n, ha, -⟩ := hr.answer
    cases hp.unanswered.symm.trans ha
  have hlength := hw.length
  simp only [Transfer.poll, hp.ackDone]
  by_cases ht : deadline ≤ c.now
  · rw [if_pos ht]
    have hwaited := (hw.waited c.now).mpr ht
    unfold Transfer.ackExpired
    by_cases hr : attempt < c.config.ackRetries.toNat
    · -- Not all copies were sent, so that another one follows.
      have hu : d.Undecided c.config c.now := by
        refine ⟨fun hov => ?_, hrefused⟩
        have := hov.copies
        omega
      rw [if_pos hr]
      unfold Transfer.sendCopy Client.transmit
      cases hs : c.socket.sendFault? with
      | some f =>
        refine .ended _ hu (fun f' hf' => ?_) (by rintro ⟨⟩) (c.moves_transportFailed f).calm.toHush
        obtain rfl := Except.error.inj hf'
        exact isOfDelivery_of_sendFault? hs
      | none =>
        have hnote (s : Sender) :
            d.note ⟨.send s, c, { c with outbox := c.outbox ++ [.datagram copy] }⟩ =
              { d with copies := d.copies ++ [c.now] } :=
          d.note_copy hw.isRequest rfl hp.connected
        refine .waits _ hu (fun s => ?_) (fun s => ?_) fun ha => absurd hp.unanswered ha
        · rw [hnote]
          refine .unacked (.pending ⟨hp.unbroken, hp.unanswered, hp.connected, hp.channel,
            hp.outstanding, hp.ackDone⟩) ⟨hw.isRequest, by simp [hlength], by omega, fun now => ?_⟩
          exact hasWaited_concat hwaited
        · rw [hnote]
          exact hh
    · rw [if_neg hr]
      exact .overdue ⟨by have := hw.attempt_le; omega, hwaited, hp.unanswered, hp.unbroken⟩ hseq
  · rw [if_neg ht]
    have hu : d.Undecided c.config c.now :=
      ⟨fun hov => ht ((hw.waited c.now).mp hov.waited), hrefused⟩
    have hnote (s : Sender) : d.note ⟨.send s, c, c⟩ = d := d.note_wait (.refl c) hp.connected
    refine .waits _ hu (fun s => ?_) (fun s => ?_) fun _ => .refl c
    · rw [hnote]
      exact .unacked (.pending hp) hw
    · rw [hnote]
      exact hh

/-- A turn in which the confirmation of an accepted request is found. -/
theorem Heard.turned_done {result : Except Fault Unit} (hh : d.Heard c)
    (ha : d.answer = some (b, d.copies.length)) (hz : b.status = 0)
    (hr : c.confirmation = some result) (hs : c.Silent c') :
    d.Turned c.config c (.done result) c' := by
  obtain ⟨hf, hok⟩ := hh.cases hr
  exact .ended _ (undecided_of_accepted ha hz c.now) hf
    (fun h => ⟨⟨b, _, ha, hz⟩, fun _ => hok h⟩) hs.hush

/-- A turn in which it is not there yet. -/
theorem Heard.turned_waiting (hh : d.Heard c) (ha : d.answer = some (b, d.copies.length))
    (hz : b.status = 0) (hn : d.copies ≠ []) (deadline : Nat) (hs : c.Silent c')
    (hf : c'.confirmation = c.confirmation) :
    d.Turned c.config c (.waiting (.awaitingConfirmation deadline)) c' := by
  refine .waits _ (undecided_of_accepted ha hz c.now) (fun s => ?_) (fun s => ?_) fun _ => hs.hush
  · rw [d.note_send hs.hush]
    exact .unconfirmed b ha hz hn
  · rw [d.note_send hs.hush, Heard, hf]
    exact hh

/-- **A turn while the acknowledgement is awaited.** -/
theorem Posted.turned {copy : Datagram} {attempt deadline : Nat} (hp : d.Posted c)
    (hw : d.Paced c.config copy attempt deadline) (hh : d.Heard c) (ha : c.Awaits true) :
    d.Turned c.config c ((Transfer.awaitingAck copy attempt deadline).poll c).1
      ((Transfer.awaitingAck copy attempt deadline).poll c).2 := by
  have hclear : c.Silent { c with ackDone := none } := ⟨rfl, .refl _, rfl, rfl, rfl, rfl⟩
  cases hp with
  | pending hp => exact hp.turned hw hh (ha _ hp.outstanding).1.symm
  | answered b hb hanswer hc hd hseq =>
    by_cases hz : b.status = 0
    · have hverdict : b.verdict = .ok () := if_pos hz
      simp only [Transfer.poll, hd, hverdict, Transfer.acknowledged]
      by_cases hconfig : c.config.awaitConfirmation
      · rw [if_pos hconfig]
        split
        · rename_i result hr
          exact hh.turned_done hanswer hz hr ⟨rfl, .refl _, rfl, rfl, rfl, rfl⟩
        · exact hh.turned_waiting hanswer hz hw.copies_ne_nil _ hclear rfl
      · rw [if_neg hconfig]
        exact .ended _ (undecided_of_accepted hanswer hz c.now) (by rintro f ⟨⟩)
          (fun _ => ⟨⟨b, _, hanswer, hz⟩, fun h => absurd h hconfig⟩) hclear.hush
    · have hverdict : b.verdict = .error (.tunneling (.ackStatus b.status)) := if_neg hz
      simp only [Transfer.poll, hd, hverdict]
      exact .refused b.status ⟨⟨b, _, hanswer, rfl⟩, hz, hb⟩ (by rw [hseq, if_neg hz])
  | calledOff hb hoff =>
    have hu : d.Undecided c.config c.now := undecided_of_broken hb c.now
    rcases hoff with hoff | hoff
    · simp only [Transfer.poll, hoff]
      exact .ended _ hu (by rintro f ⟨⟩; rfl) (by rintro ⟨⟩) hclear.hush
    · simp only [Transfer.poll, hoff]
      exact .ended _ hu (by rintro f ⟨⟩; rfl) (by rintro ⟨⟩) hclear.hush

/-- **A turn of the sender with a delivery.** -/
theorem Stands.turned (h : d.Stands c.config c t) (hh : d.Heard c) (ha : c.Awaits t.isUnacked) :
    d.Turned c.config c (t.poll c).1 (t.poll c).2 := by
  cases h with
  | unacked hp hw => exact hp.turned hw hh ha
  | unconfirmed b hanswer hz hn =>
    simp only [Transfer.poll]
    split
    · rename_i result hr
      exact hh.turned_done hanswer hz hr ⟨rfl, .refl _, rfl, rfl, rfl, rfl⟩
    · split
      · exact .ended _ (undecided_of_accepted hanswer hz c.now) (by rintro f ⟨⟩; rfl)
          (by rintro ⟨⟩) (.refl c)
      · exact hh.turned_waiting hanswer hz hn _ (.refl c) rfl

/-- A delivery that cannot begin fails for a reason of its own, if nothing was outstanding. -/
theorem isOfDelivery_of_begin {message : Cemi} {f : Fault} (ho : c.session.outstanding = none)
    (h : (Transfer.begin message c).1 = .done (.error f)) : f.isOfDelivery = false := by
  unfold Transfer.begin Transfer.sendCopy Client.transmit at h
  by_cases hc : c.session.status.isConnected
  · simp only [Session.tunnelingRequest, hc, ho] at h
    cases hs : c.socket.sendFault? with
    | some f' =>
      obtain rfl : f' = f := by simpa [hs] using h
      exact isOfDelivery_of_sendFault? hs
    | none => simp [hs] at h
  · obtain rfl : Fault.connection .notConnected = f := by
      simpa [Session.tunnelingRequest, hc] using h
    rfl

/-- **A turn in which a delivery begins.** -/
theorem turned_begin (ticket : Option Nat) (job : Job) (q : Queue Job sendQueueDepth)
    (ho : c.session.outstanding = none) :
    (begun ticket job c).Turned c.config c (Transfer.begin job.message { c with queue := q }).1
      (Transfer.begin job.message { c with queue := q }).2 := by
  have hu : (begun ticket job c).Undecided c.config c.now := by
    refine ⟨fun hov => ?_, fun status hr => ?_⟩
    · have := hov.copies
      simp only [begun, List.length_nil] at this
      omega
    · obtain ⟨b, n, ha, -⟩ := hr.answer
      cases ha
  have hpop : c.Hush { c with queue := q } := .of_keeps rfl (.refl _) rfl ⟨[], by simp, rfl⟩
  have hfault (f : Fault) (h : (Transfer.begin job.message { c with queue := q }).1 =
      .done (.error f)) : f.isOfDelivery = false :=
    isOfDelivery_of_begin (c := { c with queue := q }) ho h
  have hopening := Transfer.opening_begin job.message { c with queue := q }
  generalize Transfer.begin job.message { c with queue := q } = p at hfault hopening ⊢
  obtain ⟨progress, c'⟩ := p
  cases hopening with
  | sent hc =>
    have hrequest := Client.isRequest_request { c with queue := q } job.message
    have hnote (s : Sender) : (begun ticket job c).note
        ⟨.send s, c, ({ c with queue := q } : Client).opened job.message⟩ =
          { begun ticket job c with copies := [c.now] } :=
      note_copy _ hrequest rfl hc
    refine .waits _ hu (fun s => (hnote s).symm ▸ ?_) (fun s => (hnote s).symm ▸ Or.inl rfl)
      fun ha => absurd rfl ha
    refine .unacked (.pending ⟨rfl, rfl, hc, rfl, rfl, rfl⟩)
      ⟨hrequest, rfl, Nat.zero_le _, fun now => ?_⟩
    simp [HasWaited]
  | ended f hb hc =>
    refine .ended _ hu (fun f' hf' => ?_) (by rintro ⟨⟩) ((hpop.trans hb.hush).trans hc.calm.toHush)
    obtain rfl := Except.error.inj hf'
    exact hfault _ rfl

end Delivery

/-! ### Every turn -/

namespace Host

variable {S S' : Stage} {m : Moment}

/-- **What a turn of others than the sender does** to a delivery: it spares it, or brings the
acknowledgement of its request. -/
inductive Turn.Interlude (m : Moment) (c c' : Client) : Prop
  | spares (h : c.Spares (m.confirmation?.map Cemi.verdict) c')
      (hack : ∀ b, m.ack? = some b → ¬ c.session.Fits b)
  | answers (b : TunnelingAck) (socket : Socket) (hack : m.ack? = some b) (hb : c.session.Fits b)
      (hc : m.confirmation? = none)
      (h : c' =
        { c with
          session := (c.session.onTunnelingAck b c.now).2
          ackDone := some b.verdict
          socket := socket })

/-- What the dispatcher does in its turn. -/
theorem Turn.interlude_receive (c : Client) (d : Datagram) (socket : Socket) :
    Turn.Interlude ⟨.receive d, c, { c with socket := socket }.onDatagram d⟩ c
      ({ c with socket := socket }.onDatagram d) := by
  cases hf : c.frame? d with
  | none =>
    have hb : ({ c with socket := socket } : Client).frame? d = none := hf
    refine .spares ?_ (by simp [Moment.ack?, Moment.frame?, hf])
    simpa [Moment.confirmation?, Moment.frame?, hf] using
      (Client.spares_onDatagram_of_frame?_eq_none hb).of_socket
  | some frame =>
    have hb : ({ c with socket := socket } : Client).frame? d = some frame := hf
    have hack : Moment.ack? ⟨.receive d, c, { c with socket := socket }.onDatagram d⟩ =
        frame.ack? := by
      simp [Moment.ack?, Moment.frame?, hf]
    have hconfirmation :
        Moment.confirmation? ⟨.receive d, c, { c with socket := socket }.onDatagram d⟩ =
          c.confirmationIn? frame := by
      simp [Moment.confirmation?, Moment.frame?, hf]
    rw [Client.onDatagram_of_frame? hb] at hack hconfirmation ⊢
    by_cases hfits : ∃ b, frame.ack? = some b ∧ c.session.Fits b
    · obtain ⟨b, hframe, hfits⟩ := hfits
      obtain rfl : frame = .tunnelingAck b := by
        cases frame <;> simp_all [Frame.ack?]
      refine .answers b socket (hack.trans hframe) hfits hconfirmation ?_
      have honAck := Client.onTunnelingAck_of_fits (c := { c with socket := socket }) hfits
      simpa [Client.onFrame] using honAck
    · have hnot : ∀ b, frame.ack? = some b → ¬ c.session.Fits b :=
        fun b hb hfit => hfits ⟨b, hb, hfit⟩
      refine .spares ?_ (by rwa [hack])
      rw [hconfirmation]
      exact (Client.spares_onFrame (c := { c with socket := socket }) hnot).of_socket

/-- **Every turn of others than the sender** is an interlude. -/
theorem Turn.interlude (t : Turn S m S') (hm : m.deed.isOfSender = false) :
    m.before = S.client ∧ m.after = S'.client ∧ m.requests = [] ∧
      Turn.Interlude m S.client S'.client := by
  have hspares {m : Moment} {c c' : Client} (hd : ∀ d, m.deed ≠ .receive d)
      (h : c.Spares none c') : Turn.Interlude m c c' := by
    have hframe := Moment.frame?_eq_none hd
    refine .spares ?_ (by simp [Moment.ack?, hframe])
    simpa [Moment.confirmation?, hframe] using h
  cases t with
  | receive c s ks d socket =>
    refine ⟨rfl, rfl, Moment.requests_eq_nil ?_, Turn.interlude_receive c d socket⟩
    exact Client.outbox_onDatagram { c with socket := socket } d
  | send c s ks => cases hm
  | stop s ks hb hq hu => cases hm
  | start c ks =>
    exact ⟨rfl, rfl, Moment.requests_eq_nil (Client.Hush.refl c).outbox,
      hspares (by simp) (.refl c)⟩
  | begin c s ks k hn hk hq =>
    exact ⟨rfl, rfl, Moment.requests_eq_nil (Client.Hush.refl c).outbox,
      hspares (by simp) (.refl c)⟩
  | call c s pre k post =>
    exact ⟨rfl, rfl, Moment.requests_eq_nil (k.call.calm_poll c).outbox,
      hspares (by simp) (k.call.spares_poll c)⟩
  | cancel c s pre k post =>
    exact ⟨rfl, rfl, Moment.requests_eq_nil (k.call.apart_cancel c).calm.outbox,
      hspares (by simp) (k.call.still_cancel c).spares⟩
  | move s ks hmoves hq he =>
    exact ⟨rfl, rfl, Moment.requests_eq_nil hmoves.calm.outbox, hspares (by simp) he.spares⟩

/-- **Whatever is outstanding is awaited**, after every turn. -/
theorem Turn.awaits (t : Turn S m S') (h : S.client.Awaits (S.sender.any Sender.isUnacked)) :
    S'.client.Awaits (S'.sender.any Sender.isUnacked) := by
  cases t with
  | receive c s ks d socket =>
    have hb : c.NoRequest false false { c with socket := socket } := .of_eq rfl rfl rfl rfl
    exact (Client.quiet_onDatagram { c with socket := socket } d).toNoRequest.awaits (hb.awaits h)
  | send c s ks => exact s.awaits_poll h
  | stop s ks hb hq hu => exact s.awaits_cancel (hq.toNoRequest.awaits h) false
  | start c ks => exact h
  | begin c s ks k hn hk hq => exact h
  | call c s pre k post => exact (k.call.noRequest_poll c).awaits h
  | cancel c s pre k post => exact (k.call.still_cancel c).quiet.toNoRequest.awaits h
  | move s ks hmoves hq he => exact hq.toNoRequest.awaits h

end Host

namespace Deliveries

variable {config : Config} {D : Deliveries} {c c' : Client} {s : Sender} {S S' : Stage} {m : Moment}

/-- **What goes on is known** as it stands. -/
inductive Minds (config : Config) (D : Deliveries) (c : Client) : Option Sender → Prop
  | idle {s : Option Sender} (hs : s.bind Sender.job? = none) (hd : D.current = none) :
      Minds config D c s
  | delivering (d : Delivery) (t : Transfer) (hd : D.current = some d)
      (ht : d.ticket = D.ledger.inFlight) (hst : d.Stands config c t) (hh : d.Heard c) :
      Minds config D c (some (.delivering d.job t))

/-- **The invariant of deliveries.** -/
structure Kept (config : Config) (D : Deliveries) (S : Stage) : Prop where
  settled : D.ledger.Settled S
  wired : D.ledger.Wired config S.client S.sender
  awaits : S.client.Awaits (S.sender.any Sender.isUnacked)
  minds : D.Minds config S.client S.sender
  junctures : ∀ v ∈ D.junctures, v.IsFair config
  strays : ∀ x ∈ D.strays, x.IsIgnored

theorem Minds.map_job {s : Option Sender} (h : D.Minds config c s) :
    D.current.map Delivery.job = s.bind Sender.job? := by
  cases h with
  | idle hs hd => rw [hd, hs, Option.map_none]
  | delivering d t hd ht hst hh =>
    rw [hd]
    rfl

/-! ### What others do -/

/-- Others than the sender have no part in a delivery. -/
theorem juncture?_eq_none (D : Deliveries) (hm : m.deed.isOfSender = false) :
    D.juncture? m = none := by
  obtain ⟨deed, c, c'⟩ := m
  cases deed <;> first | rfl | cases hm

theorem Minds.interlude {s : Option Sender} (h : D.Minds config m.before s)
    (ha : m.before.Awaits (s.any Sender.isUnacked)) (hm : m.deed.isOfSender = false)
    (hr : m.requests = []) (hi : Turn.Interlude m m.before m.after) :
    (D.note m).Minds config m.after s := by
  have hjuncture := D.juncture?_eq_none hm
  cases h with
  | idle hs hd => exact .idle hs (by simp [note, hjuncture, hd])
  | delivering d t hd ht hst hh =>
    have hcurrent : (D.note m).current = some (d.note m) := by simp [note, hjuncture, hd]
    have hflight : d.ticket = (D.note m).ledger.inFlight :=
      ht.trans (D.ledger.note_of_others hm).1.symm
    cases hi with
    | spares h hack =>
      exact .delivering (d.note m) t hcurrent hflight (hst.others hr fun hp => hp.others h hr hack)
        (hh.others h.confirmation)
    | answers b socket hack hb hc h =>
      obtain ⟨hp, hfor⟩ := hst.pending_of_fits ha hb
      have hseq := (ha _ hp.outstanding).1.symm
      refine .delivering (d.note m) t hcurrent hflight (hst.others hr fun _ => ?_) (hh.others ?_)
      · refine hp.answered hack hfor hseq hr ?_ (by rw [h]) ?_
        · rw [h, Session.onTunnelingAck_of_fits hb]
          exact hb.connected
        · rw [h, Session.onTunnelingAck_of_fits hb]
      · exact Or.inl (by rw [h, hc]; rfl)

/-- Only the dispatcher receives acknowledgements. -/
theorem exists_of_stray? {x : Stray} (h : D.stray? m = some x) :
    ∃ d b dg, D.current = some d ∧ m.deed = .receive dg ∧
      m.before.frame? dg = some (.tunnelingAck b) ∧ d.isFor b = false ∧ x = ⟨d, m⟩ := by
  unfold stray? at h
  split at h
  · rename_i d b hd hack
    split at h
    · cases h
    · rename_i hfor
      unfold Moment.ack? Moment.frame? at hack
      split at hack
      · rename_i dg hdeed
        obtain ⟨frame, hframe, hb⟩ := Option.bind_eq_some_iff.mp hack
        obtain rfl : frame = .tunnelingAck b := by cases frame <;> simp_all [Frame.ack?]
        exact ⟨d, b, dg, hd, hdeed, hframe, by simpa using hfor, (Option.some.inj h).symm⟩
      · cases hack
  · cases h

/-- **A stray acknowledgement is ignored.** -/
theorem Minds.isIgnored (h : D.Minds config S.client S.sender)
    (ha : S.client.Awaits (S.sender.any Sender.isUnacked)) (turn : Turn S m S') {x : Stray}
    (hx : D.stray? m = some x) : x.IsIgnored := by
  obtain ⟨d, b, dg, hd, hdeed, hframe, hfor, rfl⟩ := exists_of_stray? hx
  cases turn with
  | receive c s ks dg' socket =>
    obtain rfl := Deed.receive.inj hdeed
    have hnot : ¬ c.session.Fits b := by
      intro hb
      cases h with
      | idle hs hnone => cases hnone.symm.trans hd
      | delivering d' t hd' ht hst hh =>
        obtain rfl := Option.some.inj (hd'.symm.trans hd)
        cases hfor.symm.trans (hst.pending_of_fits ha hb).2
    have hb : ({ c with socket := socket } : Client).frame? dg' = some (.tunnelingAck b) := hframe
    obtain ⟨cause, t, ht, heq⟩ :=
      Client.onTunnelingAck_of_not_fits (c := { c with socket := socket }) hnot
    rw [Client.onDatagram_of_frame? hb, Client.onFrame, heq]
    exact ⟨⟨cause, t, ht, rfl⟩, fun job transfer =>
      Sender.poll_publishFault job transfer { c with socket := socket } _ t⟩
  | _ => cases hdeed

/-! ### What the sender does -/

/-- **The sender's turn**, if it works on something. -/
theorem Minds.work {job : Job} {p : Progress (Except Fault Unit) Transfer × Client}
    (h : D.Minds c.config c (some s)) (ha : c.Awaits s.isUnacked)
    (hw : s.work? c = some (job, p)) :
    ∃ d, D.current.getD (.begun (D.ledger.takeFor s c).inFlight job c) = d ∧ d.job = job ∧
      d.ticket = (D.ledger.takeFor s c).inFlight ∧ d.Turned c.config c p.1 p.2 ∧
        ∀ b n, d.answer = some (b, n) → d.broken = false → d.copies.length = n := by
  cases h with
  | idle hs hd =>
    have ho : c.session.outstanding = none := by
      refine Client.Awaits.eq_none ?_
      rwa [← Sender.any_isUnacked_eq_false hs]
    obtain ⟨q, -, -, rfl⟩ := Sender.begin_of_work? hs hw
    rw [hd]
    exact ⟨_, rfl, rfl, rfl, Delivery.turned_begin _ job q ho, by rintro b n ⟨⟩⟩
  | delivering d t hd ht hst hh =>
    cases hw
    rw [hd]
    exact ⟨d, rfl, rfl, ht, hst.turned hh ha, fun b n => hst.length_eq⟩

/-- What the sender finishes with leaves the session as it was, and nothing is sent. -/
theorem hush_follow (job : Job) (progress : Progress (Except Fault Unit) Transfer) (c : Client) :
    c.Hush (Sender.follow job (progress, c)).2 ∧
      (Sender.follow job (progress, c)).2.session = c.session := by
  cases progress with
  | waiting t => exact ⟨.refl c, rfl⟩
  | done result => exact ⟨Sender.hush_finish job result c, Sender.session_finish job result c⟩

end Deliveries

/-- **A turn of the sender with a delivery is fair**, if none is outstanding after it has ended. -/
theorem Delivery.Turned.isFair {d : Delivery} {c c' : Client}
    {progress : Progress (Except Fault Unit) Transfer} (h : d.Turned c.config c progress c')
    (hlength : ∀ b n, d.answer = some (b, n) → d.broken = false → d.copies.length = n)
    (job : Job) (deed : Deed)
    (hout : Outcome.of progress ≠ .waits →
      (Sender.follow job (progress, c')).2.session.outstanding = none) :
    Juncture.IsFair c.config
      ⟨d, .of progress, ⟨deed, c, (Sender.follow job (progress, c')).2⟩⟩ := by
  obtain ⟨hhush, hsession⟩ := Deliveries.hush_follow job progress c'
  have hsilent (hc : c.Hush c') :
      Moment.requests ⟨deed, c, (Sender.follow job (progress, c')).2⟩ = [] :=
    Moment.requests_eq_nil (hc.trans hhush).outbox
  cases h with
  | overdue h hn =>
    refine ⟨hout, by rintro ⟨⟩, fun _ => iff_of_true rfl h, fun _ status => ?_, fun _ => ?_, ?_,
      by rintro ⟨⟩⟩
    · refine iff_of_false (by rintro ⟨⟩) fun hr => ?_
      obtain ⟨b, n, ha, -⟩ := hr.answer
      cases h.answer.symm.trans ha
    · exact (congrArg Session.sendSequence hsession).trans hn
    · exact fun b n ha => by cases h.answer.symm.trans ha
  | refused status h hn =>
    refine ⟨hout, by rintro ⟨⟩, fun _ => ?_, fun _ status' => ?_, fun _ => ?_, fun b n ha hb => ?_,
      by rintro ⟨⟩⟩
    · refine iff_of_false (by rintro ⟨⟩) fun ho => ?_
      obtain ⟨b, n, ha, -⟩ := h.answer
      cases ho.answer.symm.trans ha
    · refine ⟨?_, fun h' => ?_⟩
      · rintro ⟨⟩
        exact h
      · obtain ⟨b, n, ha, rfl⟩ := h.answer
        obtain ⟨b', n', ha', rfl⟩ := h'.answer
        cases ha.symm.trans ha'
        rfl
    · exact (congrArg Session.sendSequence hsession).trans hn
    · exact ⟨hlength b n ha hb, hsilent (.of_keeps rfl (.refl _) rfl ⟨[], by simp, rfl⟩)⟩
  | ended result hu hf hok hs =>
    refine ⟨hout, fun heq => ?_, fun _ => ?_, fun _ status => ?_, fun h => ?_,
      fun b n ha hb => ⟨hlength b n ha hb, hsilent hs⟩, fun heq => ?_⟩
    · cases hf _ (Outcome.returns.inj heq)
    · refine iff_of_false (fun heq => ?_) hu.overdue
      cases hf _ (Outcome.returns.inj heq)
    · refine iff_of_false (fun heq => ?_) (hu.refused status)
      cases hf _ (Outcome.returns.inj heq)
    · rcases h with heq | ⟨status, heq⟩ <;> cases hf _ (Outcome.returns.inj heq)
    · exact hok (Outcome.returns.inj heq)
  | waits t hu hst hh hs =>
    refine ⟨fun h => absurd rfl h, by rintro ⟨⟩, fun _ => iff_of_false (by rintro ⟨⟩) hu.overdue,
      fun _ status => iff_of_false (by rintro ⟨⟩) (hu.refused status), fun h => ?_,
      fun b n ha hb => ⟨hlength b n ha hb, hsilent (hs fun hnone => by cases hnone.symm.trans ha)⟩,
      by rintro ⟨⟩⟩
    rcases h with ⟨⟨⟩⟩ | ⟨status, ⟨⟩⟩

namespace Deliveries

variable {config : Config} {D : Deliveries} {c : Client} {s : Sender} {S S' : Stage} {m : Moment}
  {ks : List PendingCall}

/-- **A turn of the sender** is fair, and what goes on stays known. -/
theorem Kept.send (h : Kept config D ⟨c, some s, ks⟩) :
    (D.note ⟨.send s, c, (s.poll c).2⟩).Minds config (s.poll c).2 (some (s.poll c).1) ∧
      ∀ v ∈ (D.juncture? ⟨.send s, c, (s.poll c).2⟩).toList, v.IsFair config := by
  have hconfig : c.config = config := h.wired.disciplined.config_eq
  subst hconfig
  have hout := s.awaits_poll h.awaits
  cases hw : s.work? c with
  | none =>
    obtain ⟨hc, hjob', hjob, -⟩ := Sender.poll_of_work?_eq_none hw
    have hjuncture : D.juncture? ⟨.send s, c, (s.poll c).2⟩ = none := by simp [juncture?, hw]
    rw [hjuncture]
    refine ⟨.idle hjob' ?_, by simp⟩
    cases h.minds with
    | idle hs hd => simp [note, hjuncture, hd]
    | delivering d t => cases hjob
  | some r =>
    obtain ⟨job, progress, c'⟩ := r
    obtain ⟨d, hd, rfl, hticket, hturned, hlength⟩ := h.minds.work h.awaits hw
    have hjuncture : D.juncture? ⟨.send s, c, (s.poll c).2⟩ =
        some ⟨d, .of progress, ⟨.send s, c, (s.poll c).2⟩⟩ := by
      simp [juncture?, hw, hd]
    rw [Sender.poll_of_work? hw] at hjuncture hout ⊢
    have hfair := hturned.isFair hlength d.job (.send s) fun hwaits => by
      -- Where the sender does not wait, the delivery has ended.
      cases progress with
      | waiting t => exact absurd rfl hwaits
      | done result => exact Client.Awaits.eq_none hout
    refine ⟨?_, by simpa [hjuncture] using hfair⟩
    cases progress with
    | waiting t =>
      cases hturned with
      | waits t hu hst hh hs =>
        refine .delivering (d.note ⟨.send s, c, c'⟩) t ?_ ?_ (hst s) (hh s)
        · simp only [note, hjuncture, Outcome.of, if_true]
          rfl
        · refine hticket.trans ?_
          rcases D.ledger.note_send_cases s c with ⟨job, result, b, hw', -⟩ | ⟨-, hL⟩
          · cases hw.symm.trans hw'
          · rw [Sender.poll_of_work? hw] at hL
            simp only [note]
            rw [hL]
            rfl
    | done result => exact .idle rfl (by simp [note, hjuncture, Outcome.of])

/-- **The sender is stopped**, and leaves no request outstanding. -/
theorem Kept.stop {b : Client} (h : Kept config D ⟨c, some s, ks⟩) (hu : c.Untouched b) :
    (D.note ⟨.stop s, c, s.cancel b⟩).Minds config (s.cancel b) none ∧
      ∀ v ∈ (D.juncture? ⟨.stop s, c, s.cancel b⟩).toList, v.IsFair config := by
  have hquiet : c.Quiet false false b :=
    .of_eq hu.session hu.connectDone hu.ackDone hu.confirmation
  have hout : (s.cancel b).session.outstanding = none :=
    Client.Awaits.eq_none (s.awaits_cancel (hquiet.toNoRequest.awaits h.awaits) false)
  cases h.minds with
  | idle hs hd => exact ⟨.idle rfl (by simp [note, juncture?, hd]), by simp [juncture?, hd]⟩
  | delivering d t hd ht hst hh =>
    refine ⟨.idle rfl (by simp [note, juncture?, hd]), ?_⟩
    simp only [juncture?, hd, Option.map_some, Option.toList_some, List.forall_mem_singleton]
    refine ⟨fun _ => hout, by rintro ⟨⟩, fun hno => absurd rfl hno, fun hno => absurd rfl hno,
      by rintro (⟨⟨⟩⟩ | ⟨status, ⟨⟩⟩), fun b' n ha hb => ⟨hst.length_eq ha hb, ?_⟩, by rintro ⟨⟩⟩
    exact Moment.requests_eq_nil (hu.toAside.apart.calm.trans (Sender.calm_cancel _ b)).outbox

/-! ### Every turn -/

/-- **A turn** keeps deliveries as they should be. -/
theorem Kept.turn (t : Turn S m S') (h : Kept config D S) : Kept config (D.note m) S' := by
  have hminds : (D.note m).Minds config S'.client S'.sender ∧
      ∀ v ∈ (D.juncture? m).toList, v.IsFair config := by
    have hothers (hm : m.deed.isOfSender = false) (hs : S'.sender = S.sender) :
        (D.note m).Minds config S'.client S'.sender ∧
          ∀ v ∈ (D.juncture? m).toList, v.IsFair config := by
      obtain ⟨hb, ha, hr, hi⟩ := t.interlude hm
      rw [← hb, ← ha] at hi
      rw [hs, ← ha, D.juncture?_eq_none hm]
      refine ⟨Minds.interlude ?_ ?_ hm hr hi, by simp⟩ <;> rw [hb]
      · exact h.minds
      · exact h.awaits
    cases t with
    | send c s ks => exact h.send
    | stop s ks hb hq hu => exact h.stop hu
    | start c ks =>
      refine ⟨.idle rfl ?_, by simp [juncture?]⟩
      cases h.minds with
      | idle hs hd => simp [note, juncture?, hd]
    | _ => exact hothers rfl rfl
  refine ⟨h.settled.turn t, h.wired.turn t h.settled.fits, t.awaits h.awaits, hminds.1, ?_, ?_⟩
  · intro v hv
    rcases List.mem_append.mp hv with hv | hv
    · exact h.junctures v hv
    · exact hminds.2 v hv
  · intro x hx
    rcases List.mem_append.mp hx with hx | hx
    · exact h.strays x hx
    · exact h.minds.isIgnored h.awaits t (Option.mem_toList.mp hx)

theorem kept_fresh (config : Config) : Kept config empty (Host.fresh config).stage where
  settled := Ledger.settled_fresh config
  wired := Ledger.wired_fresh config
  awaits := Client.awaits_of_eq_none rfl _
  minds := .idle rfl rfl
  junctures := by rintro v ⟨⟩
  strays := by rintro x ⟨⟩

theorem kept_run (config : Config) (actions : List Action) :
    Kept config (of ((Host.fresh config).history actions))
      ((Host.fresh config).run actions).stage :=
  fold_induction config (kept_fresh config) (fun t h => h.turn t) actions

/-! ### Every run -/

/-- **Deliveries end as they have to.** -/
structure IsFair (config : Config) (D : Deliveries) (h : Host) : Prop where
  /-- What is known to go on is what the sender delivers. -/
  current : D.current.map Delivery.job = h.driver.bind fun d => d.sender.job?
  /-- While nothing is delivered, no request is outstanding. -/
  outstanding : D.current = none → h.client.session.outstanding = none
  junctures : ∀ v ∈ D.junctures, v.IsFair config
  strays : ∀ x ∈ D.strays, x.IsIgnored

/-- **After every run deliveries have ended as they had to.** -/
theorem deliveries_run (config : Config) (actions : List Action) :
    (of ((Host.fresh config).history actions)).IsFair config ((Host.fresh config).run actions) := by
  have hkept := kept_run config actions
  generalize of ((Host.fresh config).history actions) = D at hkept ⊢
  generalize (Host.fresh config).run actions = h at hkept ⊢
  have hcurrent := hkept.minds.map_job
  refine ⟨?_, fun hnone => ?_, hkept.junctures, hkept.strays⟩
  · rw [hcurrent]
    cases hd : h.driver <;> simp [stage, hd]
  · have hs : h.stage.sender.bind Sender.job? = none := by rw [← hcurrent, hnone, Option.map_none]
    refine Client.Awaits.eq_none ?_
    rw [← Sender.any_isUnacked_eq_false hs]
    exact hkept.awaits

end Deliveries

end KnxIp
