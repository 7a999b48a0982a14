import KnxIp.Proofs.Host.Deliveries
import KnxIp.Proofs.Host.Lifecycle

/-!
# What happens while a session is being opened

A call that opens a session asks the gateway, and then waits until the dispatcher has left word for
it, or its time is up. Between its turns everybody else has theirs. What they may do to a session
that is being opened is one of four things only (`KnxIp.Host.Moment.Meanwhile`): nothing at all, or
the socket fails, or the gateway grants the session, or refuses it. In the last three the status of
the session changes, word is left for the call, and a session is announced if it was granted, all
in the same moment. Once the session is no longer being opened they do none of this, whatever
becomes of the session, and whatever the gateway answers then.

## Main statements

* `KnxIp.Host.Turn.meanwhile`: every turn but those of calls that open or close sessions is of one
  of the four kinds.
* `KnxIp.Host.Moment.Meanwhile.of_not_connecting`: what is left of this while no session is being
  opened.
* `KnxIp.Host.Turn.after_eq_of_connectResponse?`: a connect response that comes then changes
  nothing.
-/

namespace KnxIp

/-- The channel of the session that an output announces, if it does. -/
def Output.connected? : Output → Option UInt8
  | .event (.connected channel) => some channel
  | _ => none

namespace Host.Moment

/-- The channels of the sessions that are announced in a moment. -/
def announced (m : Moment) : List UInt8 :=
  (m.after.outbox.drop m.before.outbox.length).filterMap Output.connected?

/-- The connect response that was received. -/
def connectResponse? (m : Moment) : Option ConnectResponse :=
  match m.frame? with
  | some (.connectResponse b) => some b
  | _ => none

/-- The answer that came while a session was being opened. -/
def answer? (m : Moment) : Option ConnectResponse :=
  m.connectResponse?.filter fun _ => m.before.session.status = .connecting

end Host.Moment

/-! ### What is announced -/

namespace Client

/-- **No session is announced** between one state of a client and another. -/
def Unheralded (c c' : Client) : Prop :=
  ∃ os, c'.outbox = c.outbox ++ os ∧ os.filterMap Output.connected? = []

variable {c c' c'' : Client}

theorem Unheralded.of_outbox_eq (h : c'.outbox = c.outbox) : Unheralded c c' :=
  ⟨[], by simp [h], rfl⟩

theorem Unheralded.refl (c : Client) : Unheralded c c := .of_outbox_eq rfl

theorem Unheralded.trans (h : Unheralded c c') (h' : Unheralded c' c'') : Unheralded c c'' := by
  obtain ⟨os, ho, hn⟩ := h
  obtain ⟨os', ho', hn'⟩ := h'
  exact ⟨os ++ os', by rw [ho', ho, List.append_assoc], by rw [List.filterMap_append, hn, hn']; rfl⟩

/-- To move a client announces nothing. -/
theorem Moves.unheralded (h : Moves c c') : Unheralded c c' := by
  induction h with
  | refl => exact .refl c
  | tail _ h ih =>
    refine ih.trans ?_
    cases h with
    | aside h => exact .of_outbox_eq h.outbox
    | publish e h =>
      refine ⟨[.event e], rfl, ?_⟩
      cases e with
      | connected channel => cases h
      | _ => rfl
    | send d h => exact ⟨[.datagram d], rfl, rfl⟩
    | lose t reason hs ht =>
      rw [sessionLost_eq]
      exact ⟨[.event (.disconnected reason)], rfl, rfl⟩
    | _ => exact .of_outbox_eq rfl

/-- A frame that is no connect response announces no session. -/
theorem unheralded_onFrame {frame : Frame} (hframe : ∀ b, frame ≠ .connectResponse b) :
    Unheralded c (c.onFrame frame) := by
  rcases c.onFrame_cases frame with ⟨response, hg, -, -⟩ | ⟨-, -, ha⟩ | ⟨-, -, hm⟩
  · cases frame with
    | connectResponse b => exact absurd rfl (hframe b)
    | _ => cases hg
  · exact .of_outbox_eq ha.outbox
  · exact hm.unheralded

/-- What neither opens nor closes a session announces none. -/
theorem unheralded_poll {k : Call} (h : k.isLifecycle = false) (c : Client) :
    Unheralded c (k.poll c).2 := by
  rcases k.poll_apart_or_moves c with ⟨-, ha | hm⟩ | ⟨ho, -⟩
  · exact .of_outbox_eq ha.outbox
  · exact hm.unheralded
  · cases k with
    | disconnect stage => cases h
    | close stage => cases h
    | _ => cases ho

end Client

namespace Sender

open Client

theorem unheralded_follow (job : Job) (p : Progress (Except Fault Unit) Transfer × Client) :
    Unheralded p.2 (follow job p).2 := by
  obtain ⟨result | t, c⟩ := p
  · obtain ⟨m, _ | id⟩ := job
    · cases result with
      | ok u => exact .refl c
      | error f => exact ⟨[.event (.fault f)], rfl, rfl⟩
    · simp only [follow, finish]
      rw [c.completeSlot_eq]
      exact .of_outbox_eq rfl
  · exact .refl c

/-- **The sender** announces no session. -/
theorem unheralded_poll (s : Sender) (c : Client) : Unheralded c (s.poll c).2 := by
  cases h : s.work? c with
  | none =>
    rw [(poll_of_work?_eq_none h).1]
    exact .refl c
  | some r =>
    obtain ⟨job, p⟩ := r
    rw [poll_of_work? h]
    refine .trans ?_ (unheralded_follow job p)
    obtain ⟨progress, c'⟩ := p
    rcases work?_cases h with ⟨t, -, ht⟩ | ⟨q, -, -, -, ho⟩
    · cases ht with
      | wait => exact .refl _
      | again copy attempt deadline ha hr => exact ⟨[.datagram copy], rfl, rfl⟩
      | confirm _ deadline hc => exact .of_outbox_eq hc.outbox
      | ended _ result hb hc => exact .trans (.of_outbox_eq hb.outbox) hc.unheralded
    · have hq : Unheralded c { c with queue := q } := .of_outbox_eq rfl
      cases ho with
      | sent hc => exact hq.trans ⟨[.datagram _], rfl, rfl⟩
      | ended f hb hc => exact hq.trans (.trans (.of_outbox_eq hb.outbox) hc.unheralded)

theorem unheralded_cancel (s : Sender) (c : Client) : Unheralded c (s.cancel c) := by
  unfold cancel
  cases s.job? with
  | none => exact .refl c
  | some job =>
    simp only [Client.dropJob_eq]
    exact .of_outbox_eq rfl

end Sender

/-! ### The sender while no session goes on -/

theorem Transfer.session_begin {c : Client} (hc : c.isConnected = false) (m : Cemi) :
    (begin m c).2.session = c.session := by
  have hn : ¬ c.session.status.isConnected := by simpa [Client.isConnected] using hc
  rcases c.session.tunnelingRequest_cases m with ⟨f, h⟩ | ⟨hconn, -⟩
  · simp [begin, h]
  · exact absurd hconn hn

/-- Without a session a delivery was called off, and its end changes nothing of the session. -/
theorem Delivery.Stands.session_poll {config : Config} {d : Delivery} {c : Client} {t : Transfer}
    (h : d.Stands config c t) (hc : c.isConnected = false) : (t.poll c).2.session = c.session := by
  cases h with
  | unacked hp hw =>
    cases hp with
    | pending hp => cases hp.connected.symm.trans hc
    | answered b hb ha hconn => cases hconn.symm.trans hc
    | calledOff hb hoff => rcases hoff with hoff | hoff <;> simp [Transfer.poll, hoff]
  | unconfirmed b ha hz hn =>
    simp only [Transfer.poll]
    split
    · rfl
    · split <;> rfl

namespace Deliveries

variable {config : Config} {D : Deliveries} {c : Client} {s : Sender}

/-- **Without a session** the sender leaves everything of it as it is. -/
theorem Minds.session_poll (h : D.Minds config c (some s)) (hc : c.isConnected = false) :
    (s.poll c).2.session = c.session := by
  cases hw : s.work? c with
  | none => rw [(Sender.poll_of_work?_eq_none hw).1]
  | some r =>
    obtain ⟨job, p⟩ := r
    rw [Sender.poll_of_work? hw, (hush_follow job p.1 p.2).2]
    cases h with
    | idle hs hd =>
      obtain ⟨q, -, -, rfl⟩ := Sender.begin_of_work? hs hw
      exact Transfer.session_begin (c := { c with queue := q }) hc _
    | delivering d t hd ht hst hh =>
      cases hw
      exact hst.session_poll hc

end Deliveries

/-! ### What the answer does -/

namespace Client

variable {c : Client}

/-- **A connect response** that comes when no session is being opened changes nothing. -/
theorem onConnectResponse_of_not_connecting (h : c.session.status ≠ .connecting)
    (response : ConnectResponse) : c.onConnectResponse response = c := by
  unfold onConnectResponse
  rw [Session.onConnectResponse_of_not_connecting h]
  rfl

/-- One that grants the session that is being opened announces it, and leaves word for the call. -/
theorem onConnectResponse_of_granted (h : c.session.status = .connecting)
    {response : ConnectResponse} (hz : response.status = 0) :
    (c.onConnectResponse response).session.status = .connected ∧
      (c.onConnectResponse response).connectDone = some (.ok response.channel) ∧
        (c.onConnectResponse response).outbox =
          c.outbox ++ [.event (.connected response.channel)] := by
  unfold onConnectResponse
  rw [Session.onConnectResponse_of_connecting h, if_pos hz]
  exact ⟨rfl, rfl, rfl⟩

/-- One that refuses it leaves word, too. -/
theorem onConnectResponse_of_refused (h : c.session.status = .connecting)
    {response : ConnectResponse} (hz : response.status ≠ 0) :
    (c.onConnectResponse response).session.status = .disconnected ∧
      (c.onConnectResponse response).connectDone =
          some (.error (.connection (.rejected response.status))) ∧
        (c.onConnectResponse response).outbox = c.outbox := by
  unfold onConnectResponse
  rw [Session.onConnectResponse_of_connecting h, if_neg hz]
  exact ⟨rfl, rfl, rfl⟩

end Client

/-! ### What others do -/

namespace Host

open Client

/-- **What a turn of others does** to an attempt to open a session. -/
inductive Moment.Meanwhile (m : Moment) : Prop
  /-- It has nothing to do with it. -/
  | aside (h : m.before.StandsBy m.after) (hn : m.announced = [])
      (hs : m.before.session.status = .connecting →
        m.after.session.status = .connecting ∧ m.answer? = none ∧ m.failure? = none)
  /-- The socket fails. -/
  | fails (f : Fault) (hb : m.before.session.status = .connecting) (hf : m.failure? = some f)
      (ha : m.answer? = none) (hn : m.announced = [])
      (hs : m.after.session.status = .disconnected)
      (hc : m.after.connectDone = some (.error Client.lost))
  /-- The gateway grants the session. -/
  | grants (b : ConnectResponse) (hz : b.status = 0) (ha : m.answer? = some b)
      (hn : m.announced = [b.channel]) (hs : m.after.session.status = .connected)
      (hc : m.after.connectDone = some (.ok b.channel))
  /-- The gateway refuses it. -/
  | refuses (b : ConnectResponse) (hz : b.status ≠ 0) (ha : m.answer? = some b)
      (hn : m.announced = []) (hs : m.after.session.status = .disconnected)
      (hc : m.after.connectDone = some (.error (.connection (.rejected b.status))))

variable {S S' : Stage} {m : Moment} {config : Config}

theorem Moment.announced_eq_nil (h : m.before.Unheralded m.after) : m.announced = [] := by
  obtain ⟨os, ho, hn⟩ := h
  rw [announced, ho, List.drop_left, hn]

theorem Moment.answer?_eq_none (hd : ∀ d, m.deed ≠ .receive d) : m.answer? = none := by
  simp [answer?, connectResponse?, frame?_eq_none hd]

theorem Moment.failure?_eq_none (hd : m.deed ≠ .other) : m.failure? = none := by
  unfold failure?
  split
  · rename_i hd' _
    exact absurd hd' hd
  · rfl

/-- Only while a session is being opened is there an answer. -/
theorem Moment.answer?_eq_some {b : ConnectResponse} (h : m.answer? = some b) :
    m.connectResponse? = some b ∧ m.before.session.status = .connecting := by
  simpa [answer?, Option.filter_eq_some_iff] using h

/-- While none is being opened, others have nothing to do with it. -/
theorem Moment.Meanwhile.of_not_connecting (h : m.Meanwhile)
    (hs : m.before.session.status ≠ .connecting) :
    m.before.StandsBy m.after ∧ m.announced = [] ∧ m.answer? = none := by
  cases h with
  | aside h hn =>
    refine ⟨h, hn, Option.eq_none_iff_forall_ne_some.mpr fun b hb => ?_⟩
    exact hs (answer?_eq_some hb).2
  | fails f hb => exact absurd hb hs
  | grants b hz ha => exact absurd (answer?_eq_some ha).2 hs
  | refuses b hz ha => exact absurd (answer?_eq_some ha).2 hs

/-- What the socket fails with is what it failed to receive with. -/
theorem Moment.eq_transportFailed {f : Fault} (h : m.failure? = some f) :
    ∃ socket, m.after = { m.before with socket := socket }.transportFailed f := by
  unfold failure? at h
  split at h
  · rename_i f' socket _ _
    split at h
    · rename_i hf
      obtain rfl := Option.some.inj h
      exact ⟨socket, hf.2⟩
    · cases h
  · cases h

/-- What has nothing to do with the session that is being opened, if nothing was received and the
socket has not failed. -/
theorem Moment.Meanwhile.of_standsBy (h : m.before.StandsBy m.after)
    (hn : m.before.Unheralded m.after) (hr : ∀ d, m.deed ≠ .receive d) (hf : m.deed ≠ .other)
    (hs : m.before.session.status = .connecting → m.after.session.status = .connecting) :
    m.Meanwhile :=
  .aside h (announced_eq_nil hn) fun hc => ⟨hs hc, answer?_eq_none hr, failure?_eq_none hf⟩

/-- What the dispatcher does in its turn. -/
theorem Turn.meanwhile_receive (c : Client) (d : Datagram) (socket : Socket) :
    Moment.Meanwhile ⟨.receive d, c, { c with socket := socket }.onDatagram d⟩ := by
  have hquiet {c' : Client} (hd : c.StandsBy c') (hn : c.Unheralded c')
      (hs : c.session.status = .connecting → c'.session.status = .connecting)
      (hr : Moment.connectResponse? ⟨.receive d, c, c'⟩ = none) :
      Moment.Meanwhile ⟨.receive d, c, c'⟩ :=
    .aside hd (Moment.announced_eq_nil hn) fun hc =>
      ⟨hs hc, by simp [Moment.answer?, hr], Moment.failure?_eq_none (by simp)⟩
  have hb : c.StandsBy { c with socket := socket } := .of_eq rfl rfl
  cases hf : c.frame? d with
  | none =>
    have hr (c' : Client) : Moment.connectResponse? ⟨.receive d, c, c'⟩ = none := by
      simp [Moment.connectResponse?, Moment.frame?, hf]
    rcases onDatagram_of_frame?_eq_none (c := { c with socket := socket }) hf with h | ⟨f, h⟩
    · rw [h]
      exact hquiet hb (.of_outbox_eq rfl) id (hr _)
    · rw [h]
      exact hquiet (.of_eq rfl rfl) ⟨[.event (.fault f)], rfl, rfl⟩ id (hr _)
  | some frame =>
    rw [onDatagram_of_frame? (c := { c with socket := socket }) hf]
    by_cases hframe : ∃ b, frame = .connectResponse b
    · obtain ⟨b, rfl⟩ := hframe
      by_cases hs : c.session.status = .connecting
      · have ha (c' : Client) : Moment.answer? ⟨.receive d, c, c'⟩ = some b := by
          simp [Moment.answer?, Moment.connectResponse?, Moment.frame?, hf, hs]
        rw [onFrame]
        by_cases hz : b.status = 0
        · obtain ⟨hstatus, hdone, hout⟩ :=
            onConnectResponse_of_granted (c := { c with socket := socket }) hs hz
          refine .grants b hz (ha _) ?_ hstatus hdone
          simp [Moment.announced, hout, Output.connected?]
        · obtain ⟨hstatus, hdone, hout⟩ :=
            onConnectResponse_of_refused (c := { c with socket := socket }) hs hz
          exact .refuses b hz (ha _) (Moment.announced_eq_nil (.of_outbox_eq hout)) hstatus hdone
      · rw [onFrame, onConnectResponse_of_not_connecting (c := { c with socket := socket }) hs]
        exact .aside hb (Moment.announced_eq_nil (.of_outbox_eq rfl)) fun hc => absurd hc hs
    · have hnot : ∀ b, frame ≠ .connectResponse b := fun b hb => hframe ⟨b, hb⟩
      refine hquiet (hb.trans (standsBy_onFrame _ hnot))
        (.trans (.of_outbox_eq rfl) (unheralded_onFrame hnot))
        (fun hs => status_onFrame (c := { c with socket := socket }) hs hnot) ?_
      unfold Moment.connectResponse?
      split
      · rename_i b hb'
        simp only [Moment.frame?, hf, Option.some.injEq] at hb'
        exact absurd hb' (hnot b)
      · rfl

/-- What may happen to a client by itself, to a session that is being opened. -/
theorem Turn.meanwhile_move {c c' : Client} (h : c.Effects c')
    (hs : Moment.failure? ⟨.other, c, c'⟩ = none → c.session.status = .connecting →
      c'.session.status = .connecting) : Moment.Meanwhile ⟨.other, c, c'⟩ := by
  have hn := Moment.announced_eq_nil (m := ⟨.other, c, c'⟩) h.moves.unheralded
  have ha := Moment.answer?_eq_none (m := ⟨.other, c, c'⟩) (by simp)
  by_cases hc : c.session.status = .connecting
  · cases hf : Moment.failure? ⟨.other, c, c'⟩ with
    | none => exact .aside h.standsBy hn fun _ => ⟨hs hf hc, ha, hf⟩
    | some f =>
      obtain ⟨socket, heq⟩ := Moment.eq_transportFailed hf
      refine .fails f hc hf ha hn ?_ ?_ <;> rw [heq] <;>
        simp [transportFailed, hc, Session.closed]
  · exact .aside h.standsBy hn fun hc' => absurd hc' hc

/-- **Every turn but those of calls that open or close sessions** is of this kind. -/
theorem Turn.meanwhile (t : Turn S m S') (hS : ∃ E, Deliveries.Kept config E S)
    (hm : ∀ k, m.deed = .call k → k.call.isLifecycle = false) :
    m.before = S.client ∧ m.after = S'.client ∧ m.Meanwhile := by
  have hsame (c : Client) : Moment.Meanwhile ⟨.other, c, c⟩ := Turn.meanwhile_move .refl fun _ => id
  cases t with
  | receive c s ks d socket => exact ⟨rfl, rfl, Turn.meanwhile_receive c d socket⟩
  | send c s ks =>
    obtain ⟨E, hE⟩ := hS
    refine ⟨rfl, rfl, .of_standsBy (s.standsBy_poll c) (s.unheralded_poll c) (by simp) (by simp) ?_⟩
    intro hs
    rw [hE.minds.session_poll (by rw [isConnected, hs]; rfl)]
    exact hs
  | stop s ks h hq hu =>
    refine ⟨rfl, rfl, .of_standsBy ?_ ?_ (by simp) (by simp) fun hs => ?_⟩
    · exact hu.effects.standsBy.trans (s.standsBy_cancel _)
    · exact .trans (.of_outbox_eq h.outbox) (s.unheralded_cancel _)
    · rw [s.status_cancel, hu.session, hs]
  | start c ks => exact ⟨rfl, rfl, hsame c⟩
  | begin c s ks k hn hk hq hf => exact ⟨rfl, rfl, hsame c⟩
  | call c s pre k post =>
    have hk := hm k rfl
    have hstill := Call.still_poll hk c
    exact ⟨rfl, rfl, .of_standsBy hstill.standsBy (unheralded_poll hk c) (by simp) (by simp)
      fun hs => by rw [hstill.session, hs]⟩
  | cancel c s pre k post =>
    have hstill := k.call.still_cancel c
    exact ⟨rfl, rfl, .of_standsBy hstill.standsBy (.of_outbox_eq (k.call.apart_cancel c).outbox)
      (by simp) (by simp) fun hs => by rw [hstill.session, hs]⟩
  | move s ks h hq he hf => exact ⟨rfl, rfl, Turn.meanwhile_move he hf⟩

/-- **A connect response that comes when no session is being opened** changes nothing. -/
theorem Turn.after_eq_of_connectResponse? (t : Turn S m S') {b : ConnectResponse}
    (hb : m.connectResponse? = some b) (hs : m.before.session.status ≠ .connecting) :
    m.after = { m.before with socket := m.after.socket } := by
  unfold Moment.connectResponse? Moment.frame? at hb
  cases t with
  | receive c s ks d socket =>
    cases hf : c.frame? d with
    | none => simp [hf] at hb
    | some frame =>
      obtain rfl : frame = .connectResponse b := by
        cases frame <;> simp_all
      rw [onDatagram_of_frame? (c := { c with socket := socket }) hf, onFrame,
        onConnectResponse_of_not_connecting (c := { c with socket := socket }) hs]
  | _ => cases hb

end Host

end KnxIp
