import KnxIp.Proofs.Client.Calls
import KnxIp.Proofs.Client.Sender

/-!
# What an activity does not begin

The moves of `KnxIp.Client.Move` say what may become of the session and of the requests. They do
not say who begins what: to begin to open a session is a move like any other. This module
tells apart the activities that begin something from those that only go on or end something.

Two things can be begun. An *attempt* to open or to close a session is begun by a call alone, and
`KnxIp.Client.NoAttempt` says that a client has seen no beginning of one: it is connecting or
disconnecting only if it was, and no answer to its connect request was taken away. A *request* is
begun by the sender alone, and `KnxIp.Client.NoRequest` says that none was begun: a request that
is outstanding was so, under the same number, and the mailbox for its acknowledgement is as it
was. Good news about a request – that it is acknowledged, that it is confirmed – comes from the
gateway only, which is what the two flags of `KnxIp.Client.NoRequest` are for.

An activity that begins nothing is *quiet* (`KnxIp.Client.Quiet`). Who has nothing to do with
opening a session also leaves alone the answer to a connect request
(`KnxIp.Client.StandsBy`).

## Main statements

* `KnxIp.Client.quiet_onDatagram`: whatever arrives begins nothing.
* `KnxIp.Client.Effects.quiet`, `KnxIp.Client.Effects.standsBy`: what happens by itself begins
  nothing, and has nothing to do with opening a session.
* `KnxIp.Client.standsBy_onFrame`, `KnxIp.Sender.standsBy_poll`: nor has a frame, unless it is a
  connect response, and nor has the sender.
-/

namespace KnxIp

namespace Client

/-- **No attempt** to open or to close a session begins. -/
structure NoAttempt (c c' : Client) : Prop where
  connecting : c'.session.status = .connecting →
    c.session.status = .connecting ∧ c'.connectDone = c.connectDone
  disconnecting : c'.session.status = .disconnecting → c.session.status = .disconnecting

/-- **No request begins.** An acknowledgement may come if `acks`, and a confirmation if
`confirms`. -/
structure NoRequest (acks confirms : Bool) (c c' : Client) : Prop where
  outstanding : ∀ n, c'.session.outstanding = some n → c.session.outstanding = some n ∧
    c'.session.sendSequence = c.session.sendSequence ∧ c'.ackDone = c.ackDone
  ackDone : c'.ackDone = some (.ok ()) → c.ackDone = some (.ok ()) ∨ acks = true
  confirmation : c'.confirmation = some (.ok ()) →
    c.confirmation = some (.ok ()) ∨ confirms = true

/-- **Nothing begins.** -/
structure Quiet (acks confirms : Bool) (c c' : Client) : Prop
    extends NoAttempt c c', NoRequest acks confirms c c'

variable {c c' c'' : Client} {acks confirms : Bool}

/-- What goes on with the attempt that is under way begins none. -/
theorem NoAttempt.of_eq (hs : c'.session.status = c.session.status)
    (hd : c'.connectDone = c.connectDone) : NoAttempt c c' :=
  ⟨fun h => ⟨hs.symm.trans h, hd⟩, fun h => hs.symm.trans h⟩

theorem NoAttempt.refl (c : Client) : NoAttempt c c := ⟨fun h => ⟨h, rfl⟩, id⟩

theorem NoAttempt.trans (h : NoAttempt c c') (h' : NoAttempt c' c'') : NoAttempt c c'' := by
  refine ⟨fun hs => ?_, fun hs => h.disconnecting (h'.disconnecting hs)⟩
  obtain ⟨hs', hd'⟩ := h'.connecting hs
  obtain ⟨hs'', hd⟩ := h.connecting hs'
  exact ⟨hs'', hd'.trans hd⟩

/-- **Nobody has to do with opening a session**: none is being opened where there was none, and
an answer that waits for a call is left alone. -/
structure StandsBy (c c' : Client) : Prop extends NoAttempt c c' where
  disconnected : c.session.status = .disconnected → c'.session.status = .disconnected
  answered : c.session.status ≠ .connecting → c'.connectDone = c.connectDone

theorem StandsBy.of_eq (hs : c'.session.status = c.session.status)
    (hd : c'.connectDone = c.connectDone) : StandsBy c c' :=
  ⟨.of_eq hs hd, fun h => hs.trans h, fun _ => hd⟩

theorem StandsBy.refl (c : Client) : StandsBy c c := .of_eq rfl rfl

theorem StandsBy.trans (h : StandsBy c c') (h' : StandsBy c' c'') : StandsBy c c'' := by
  refine ⟨h.toNoAttempt.trans h'.toNoAttempt, fun hs => h'.disconnected (h.disconnected hs),
    fun hs => ?_⟩
  have hs' : c'.session.status ≠ .connecting := fun hs' => hs (h.connecting hs').1
  exact (h'.answered hs').trans (h.answered hs)

/-- The answer is left alone also while the session is still being opened. -/
theorem StandsBy.connectDone_eq (h : StandsBy c c')
    (hs : c.session.status = .connecting → c'.session.status = .connecting) :
    c'.connectDone = c.connectDone := by
  by_cases hc : c.session.status = .connecting
  · exact (h.connecting (hs hc)).2
  · exact h.answered hc

theorem NoRequest.trans (h : NoRequest acks confirms c c') (h' : NoRequest acks confirms c' c'') :
    NoRequest acks confirms c c'' := by
  refine ⟨fun n hn => ?_, fun ha => ?_, fun hf => ?_⟩
  · obtain ⟨hn', hs', ha'⟩ := h'.outstanding n hn
    obtain ⟨hn'', hs, ha⟩ := h.outstanding n hn'
    exact ⟨hn'', hs'.trans hs, ha'.trans ha⟩
  · rcases h'.ackDone ha with ha' | hacks
    · exact h.ackDone ha'
    · exact Or.inr hacks
  · rcases h'.confirmation hf with hf' | hconfirms
    · exact h.confirmation hf'
    · exact Or.inr hconfirms

theorem NoRequest.of_eq (ho : c'.session.outstanding = c.session.outstanding)
    (hs : c'.session.sendSequence = c.session.sendSequence) (ha : c'.ackDone = c.ackDone)
    (hf : c'.confirmation = c.confirmation) : NoRequest false false c c' := by
  refine ⟨fun n hn => ⟨ho.symm.trans hn, hs, ha⟩, fun h => Or.inl ?_, fun h => Or.inl ?_⟩
  · exact ha.symm.trans h
  · exact hf.symm.trans h

theorem NoRequest.refl (c : Client) : NoRequest false false c c := .of_eq rfl rfl rfl rfl

/-- What comes may also be announced. -/
theorem NoRequest.mono (h : NoRequest false false c c') : NoRequest acks confirms c c' :=
  ⟨h.outstanding, fun ha => Or.inl (by simpa using h.ackDone ha),
    fun hf => Or.inl (by simpa using h.confirmation hf)⟩

theorem Quiet.trans (h : Quiet acks confirms c c') (h' : Quiet acks confirms c' c'') :
    Quiet acks confirms c c'' :=
  ⟨h.toNoAttempt.trans h'.toNoAttempt, h.toNoRequest.trans h'.toNoRequest⟩

theorem Quiet.mono (h : Quiet false false c c') : Quiet acks confirms c c' :=
  ⟨h.toNoAttempt, h.toNoRequest.mono⟩

/-- What leaves the session and the mailboxes alone is quiet. -/
theorem Quiet.of_eq (hs : c'.session = c.session) (hd : c'.connectDone = c.connectDone)
    (ha : c'.ackDone = c.ackDone) (hf : c'.confirmation = c.confirmation) :
    Quiet false false c c' :=
  ⟨.of_eq (by rw [hs]) hd, .of_eq (by rw [hs]) (by rw [hs]) ha hf⟩

theorem Quiet.refl (c : Client) : Quiet false false c c := .of_eq rfl rfl rfl rfl

/-- **The session and the mailboxes stay as they are.** -/
structure Still (c c' : Client) : Prop where
  config : c'.config = c.config
  session : c'.session = c.session
  connectDone : c'.connectDone = c.connectDone
  ackDone : c'.ackDone = c.ackDone
  confirmation : c'.confirmation = c.confirmation

theorem Still.refl (c : Client) : Still c c := ⟨rfl, rfl, rfl, rfl, rfl⟩

theorem Still.trans (h : Still c c') (h' : Still c' c'') : Still c c'' :=
  ⟨h'.config.trans h.config, h'.session.trans h.session, h'.connectDone.trans h.connectDone,
    h'.ackDone.trans h.ackDone, h'.confirmation.trans h.confirmation⟩

theorem Still.quiet (h : Still c c') : Quiet false false c c' :=
  .of_eq h.session h.connectDone h.ackDone h.confirmation

/-- A session may go on with its outstanding request, or give it up. -/
theorem Quiet.of_session (t : Session)
    (hs : t.status = c.session.status ∨ t.status = .disconnected ∨ t.status.isConnected)
    (ho : t.outstanding = none ∨
      t.outstanding = c.session.outstanding ∧ t.sendSequence = c.session.sendSequence) :
    Quiet false false c { c with session := t } := by
  have hstatus : ∀ u : Status, u = .connecting ∨ u = .disconnecting → t.status = u →
      c.session.status = u := by
    rintro u hu rfl
    rcases hs with hs | hs | hs
    · exact hs.symm
    · simp [hs] at hu
    · rcases hu with hu | hu <;> simp [hu, Status.isConnected] at hs
  refine ⟨⟨fun h => ⟨hstatus _ (Or.inl rfl) h, rfl⟩, hstatus _ (Or.inr rfl)⟩,
    ⟨fun n hn => ?_, Or.inl, Or.inl⟩⟩
  rcases ho with ho | ⟨ho, hseq⟩
  · exact absurd (ho.symm.trans hn) (by simp)
  · exact ⟨ho.symm.trans hn, hseq, rfl⟩

/-- A session that has ended leaves nothing that could have begun. -/
theorem Quiet.of_closed (hs : c'.session.status = .disconnected)
    (ho : c'.session.outstanding = none)
    (ha : c'.ackDone = some (.ok ()) → c.ackDone = some (.ok ()))
    (hf : c'.confirmation = some (.ok ()) → c.confirmation = some (.ok ())) :
    Quiet false false c c' := by
  refine ⟨⟨fun h => ?_, fun h => ?_⟩,
    ⟨fun n hn => ?_, fun h => Or.inl (ha h), fun h => Or.inl (hf h)⟩⟩
  · simp [hs] at h
  · simp [hs] at h
  · simp [ho] at hn

/-- Where nothing begins, what was not outstanding is not. -/
theorem NoRequest.outstanding_eq_none (h : NoRequest acks confirms c c')
    (ho : c.session.outstanding = none) : c'.session.outstanding = none := by
  rw [Option.eq_none_iff_forall_ne_some]
  intro n hn
  rw [(h.outstanding n hn).1] at ho
  cases ho

/-! ### The end of a session -/

theorem quiet_publish (c : Client) (e : Event) : Quiet false false c (c.publish e) :=
  .of_eq rfl rfl rfl rfl

/-- A session whose request has been given up ends. -/
theorem quiet_sessionLost (ho : c.session.outstanding = none) (reason : EndReason) :
    Quiet false false c (c.sessionLost reason) := by
  rw [sessionLost_eq]
  refine ⟨⟨fun h => ⟨h, rfl⟩, id⟩, ⟨fun n hn => ?_, by rintro ⟨⟩, by rintro ⟨⟩⟩⟩
  exact absurd (ho.symm.trans hn) (by simp)

/-- A socket that fails ends the session, whatever its status. -/
theorem quiet_transportFailed (c : Client) (f : Fault) :
    Quiet false false c (c.transportFailed f) := by
  unfold transportFailed
  cases c.session.status with
  | disconnected => exact .of_closed rfl rfl id id
  | connecting => exact .of_closed rfl rfl id id
  | _ =>
    have hclosed : Quiet false false c { c.publishFault f with session := c.session.closed } :=
      .of_closed rfl rfl id id
    exact hclosed.trans (quiet_sessionLost rfl _)

/-- A socket that fails takes away the session that was being opened, and no other answer. -/
theorem standsBy_transportFailed (c : Client) (f : Fault) : StandsBy c (c.transportFailed f) := by
  refine ⟨(c.quiet_transportFailed f).toNoAttempt, fun hs => ?_, fun hs => ?_⟩
  · simp [transportFailed, hs, Session.closed]
  · unfold transportFailed
    cases hc : c.session.status with
    | connecting => exact absurd hc hs
    | disconnected => rfl
    | _ =>
      simp only
      rw [sessionLost_eq]
      rfl

theorem standsBy_transmit (c : Client) (d : Datagram) : StandsBy c (c.transmit d).2 := by
  rcases c.transmit_cases d with ⟨f, h⟩ | h
  · rw [h]
    exact c.standsBy_transportFailed f
  · rw [h]
    exact .of_eq rfl rfl

theorem quiet_transmit (c : Client) (d : Datagram) : Quiet false false c (c.transmit d).2 := by
  rcases c.transmit_cases d with ⟨f, h⟩ | h
  · rw [h]
    exact c.quiet_transportFailed f
  · rw [h]
    exact .of_eq rfl rfl rfl rfl

theorem quiet_transmitFrame (c : Client) (f : Frame) (peer : Endpoint) :
    Quiet false false c (c.transmitFrame f peer).2 :=
  c.quiet_transmit _

theorem Effect.quiet (h : Effect c c') : Quiet false false c c' := by
  cases h with
  | untouched h => exact .of_eq h.session h.connectDone h.ackDone h.confirmation
  | publish e h => exact c.quiet_publish e
  | send d h => exact .of_eq rfl rfl rfl rfl
  | keep t h ho =>
    refine .of_session t ?_ (Or.inr ⟨ho, h.sendSequence⟩)
    exact h.status.imp_right fun hs => Or.inr hs.2
  | lose t reason hs ht ho =>
    exact (Quiet.of_session t (Or.inr (Or.inl ht)) (Or.inl ho)).trans (quiet_sessionLost ho reason)
  | fail f => exact c.quiet_transportFailed f

/-- **Effects begin nothing.** -/
theorem Effects.quiet (h : Effects c c') : Quiet false false c c' := by
  induction h with
  | refl => exact .refl c
  | tail _ h ih => exact ih.trans h.quiet

theorem Effect.standsBy (h : Effect c c') : StandsBy c c' := by
  refine ⟨h.quiet.toNoAttempt, fun hs => ?_, fun hs => ?_⟩
  · cases h with
    | untouched h => rw [h.session, hs]
    | publish e h => exact hs
    | send d h => exact hs
    | keep t h ho =>
      rcases h.status with ht | ⟨hconn, -⟩
      · exact ht.trans hs
      · simp [hs, Status.isConnected] at hconn
    | lose t reason ha ht ho => simp [hs, Status.isAnnounced] at ha
    | fail f => exact (c.standsBy_transportFailed f).disconnected hs
  · cases h with
    | untouched h => exact h.connectDone
    | lose t reason ha ht ho => rw [sessionLost_eq]
    | fail f => exact (c.standsBy_transportFailed f).answered hs
    | _ => rfl

/-- **What happens by itself** has nothing to do with opening a session. -/
theorem Effects.standsBy (h : Effects c c') : StandsBy c c' := by
  induction h with
  | refl => exact .refl c
  | tail _ h ih => exact ih.trans h.standsBy

theorem Still.standsBy (h : Still c c') : StandsBy c c' :=
  .of_eq (by rw [h.session]) h.connectDone

/-! ### Receiving -/

/-- Whether a message confirms the request that is delivered. -/
def isConfirmation : Except Fault Cemi → Bool
  | .ok m => m.code = .confirmation && !m.telegram.control1.hasError
  | .error _ => false

/-- Whether a frame confirms the request that is delivered. -/
def isConfirmedBy (c : Client) : Frame → Bool
  | .tunnelingRequest b =>
    (c.session.onTunnelingRequest b c.now).1.isOk && isConfirmation b.cemi
  | _ => false

/-- Only a confirmation that tells of no error confirms. -/
theorem isConfirmation_of_verdict {request : TunnelingRequest} {m : Cemi}
    (h : request.confirmation? = some m) (hm : m.verdict = .ok ()) :
    isConfirmation request.cemi = true := by
  have herror : m.telegram.control1.hasError = false := by
    cases he : m.telegram.control1.hasError with
    | false => rfl
    | true => simp [Cemi.verdict, he] at hm
  obtain ⟨hcemi, hcode⟩ := Option.filter_eq_some_iff.mp h
  cases hr : request.cemi with
  | error f => simp [hr, Except.toOption] at hcemi
  | ok m' =>
    obtain rfl : m' = m := by simpa [hr, Except.toOption] using hcemi
    simpa [isConfirmation, herror] using hcode

/-- A request of the gateway is quiet, except that it may confirm a request. -/
theorem quiet_onTunnelingRequest (c : Client) (request : TunnelingRequest) :
    Quiet false (c.isConfirmedBy (.tunnelingRequest request)) c (c.onTunnelingRequest request) := by
  rcases c.onTunnelingRequest_cases request with ⟨-, h⟩ | ⟨hok, b, hb, h⟩
  · exact h.quiet.mono
  · rw [h, isConfirmedBy, hok, Bool.true_and]
    refine .trans hb.quiet.mono ?_
    rcases b.onMessage_cases request with ⟨-, h⟩ | ⟨m, hm, h⟩
    · exact h.quiet.mono
    · rw [h]
      refine ⟨⟨fun h => ⟨h, rfl⟩, id⟩, ⟨fun n hn => ⟨hn, rfl, rfl⟩, Or.inl, fun h => Or.inr ?_⟩⟩
      exact isConfirmation_of_verdict hm (Option.some.inj h)

theorem quiet_onConnectResponse (c : Client) (response : ConnectResponse) :
    Quiet false false c (c.onConnectResponse response) := by
  unfold onConnectResponse
  rcases c.session.onConnectResponse_cases response c.now with h | ⟨-, h⟩ | ⟨-, h⟩
  · simp only [h, Fault.isProtocol, if_true]
    exact .of_session _ (Or.inl rfl) (Or.inr ⟨rfl, rfl⟩)
  · simp only [h, Fault.isProtocol]
    -- The answer is left for the call only when the client has ceased to connect.
    exact ⟨⟨by rintro ⟨⟩, by rintro ⟨⟩⟩, ⟨fun n hn => ⟨hn, rfl, rfl⟩, Or.inl, Or.inl⟩⟩
  · simp only [h]
    exact ⟨⟨by rintro ⟨⟩, by rintro ⟨⟩⟩, ⟨by rintro n ⟨⟩, Or.inl, Or.inl⟩⟩

/-- An acknowledgement is quiet, except that it may accept a request. -/
theorem quiet_onTunnelingAck (c : Client) (ack : TunnelingAck) :
    Quiet (c.isAcceptedBy (.tunnelingAck ack)) false c (c.onTunnelingAck ack) := by
  unfold onTunnelingAck isAcceptedBy
  rcases c.session.onTunnelingAck_cases ack c.now with ⟨cause, t, ht, h⟩ | ⟨-, h⟩ | ⟨-, -, h⟩
  · simp only [h, Fault.isTunneling]
    refine Quiet.mono ((Quiet.of_session (c := c) t ?_ ?_).trans (quiet_publish _ _))
    · rcases ht with rfl | rfl <;> exact Or.inl rfl
    · rcases ht with rfl | rfl <;> exact Or.inr ⟨rfl, rfl⟩
  · simp only [h, Fault.isTunneling, if_true]
    exact ⟨⟨fun h => ⟨h, rfl⟩, id⟩, ⟨by rintro n ⟨⟩, by rintro ⟨⟩, Or.inl⟩⟩
  · simp only [h]
    exact ⟨⟨fun h => ⟨h, rfl⟩, id⟩, ⟨by rintro n ⟨⟩, fun _ => Or.inr rfl, Or.inl⟩⟩

/-- **A frame is quiet**, but for the good news that it may bring. -/
theorem quiet_onFrame (c : Client) (frame : Frame) :
    Quiet (c.isAcceptedBy frame) (c.isConfirmedBy frame) c (c.onFrame frame) := by
  cases frame with
  | connectResponse b => exact c.quiet_onConnectResponse b
  | connectionStateResponse b => exact (c.effects_onHeartbeatResponse b).quiet
  | disconnectRequest b => exact (c.effects_onDisconnectRequest b).quiet
  | disconnectResponse b => exact (c.effects_onDisconnectResponse b).quiet
  | tunnelingRequest b => exact c.quiet_onTunnelingRequest b
  | tunnelingAck b => exact c.quiet_onTunnelingAck b
  | connectRequest b => exact .refl c
  | connectionStateRequest b => exact .refl c

/-- The acknowledgement by which a datagram accepts the outstanding request, if it does. -/
def acceptedBy? (c : Client) (d : Datagram) : Option TunnelingAck :=
  match c.frame? d with
  | some (.tunnelingAck b) => if c.isAcceptedBy (.tunnelingAck b) then some b else none
  | _ => none

theorem ok_of_acceptedBy? {d : Datagram} {b : TunnelingAck} (h : c.acceptedBy? d = some b) :
    (c.session.onTunnelingAck b c.now).1 = .ok () := by
  unfold acceptedBy? at h
  split at h
  · split at h
    · rename_i ack _ hack
      obtain rfl := Option.some.inj h
      unfold isAcceptedBy at hack
      cases hr : (c.session.onTunnelingAck ack c.now).1 with
      | ok u => rfl
      | error f => simp [hr, Except.isOk, Except.toBool] at hack
    · cases h
  · cases h

/-- Whether a datagram confirms the request that is delivered. -/
def confirmedBy (c : Client) (d : Datagram) : Bool := (c.frame? d).any c.isConfirmedBy

/-- A datagram accepts what its frame accepts. -/
theorem isSome_acceptedBy? {d : Datagram} {frame : Frame} (h : c.frame? d = some frame) :
    (c.acceptedBy? d).isSome = c.isAcceptedBy frame := by
  unfold acceptedBy?
  rw [h]
  cases frame with
  | tunnelingAck b => by_cases hb : c.isAcceptedBy (.tunnelingAck b) <;> simp [hb]
  | _ => rfl

/-- **A datagram is quiet**, but for the good news that it may bring. -/
theorem quiet_onDatagram (c : Client) (d : Datagram) :
    Quiet (c.acceptedBy? d).isSome (c.confirmedBy d) c (c.onDatagram d) := by
  unfold onDatagram
  by_cases hp : c.isGateway d.peer
  · cases hf : Frame.decode d.octets.toList with
    | ok frame =>
      have hframe : c.frame? d = some frame := by simp [frame?, hp, hf, Except.toOption]
      rw [isSome_acceptedBy? hframe, confirmedBy, hframe]
      simpa [hp] using c.quiet_onFrame frame
    | error f =>
      have hframe : c.frame? d = none := by simp [frame?, hp, hf, Except.toOption]
      simpa [acceptedBy?, confirmedBy, hframe, hp, publishFault] using c.quiet_publish (.fault f)
  · have hframe : c.frame? d = none := by simp [frame?, hp]
    simpa [acceptedBy?, confirmedBy, hframe, hp] using Quiet.refl c

/-! ### While a session is being opened -/

/-- **While a session is being opened** no frame does anything to that but the answer. -/
theorem status_onFrame {c : Client} (hs : c.session.status = .connecting) {frame : Frame}
    (hframe : ∀ b, frame ≠ .connectResponse b) :
    (c.onFrame frame).session.status = .connecting := by
  have hconn : ¬ c.session.status.isConnected := by simp [hs, Status.isConnected]
  cases frame with
  | connectResponse b => exact absurd rfl (hframe b)
  | connectionStateResponse b =>
    unfold onFrame onHeartbeatResponse
    rcases c.session.onHeartbeatResponse_cases b c.now with ⟨cause, h⟩ | ⟨h, -⟩ | ⟨h, -⟩
    · simpa [h, Fault.isProtocol] using hs
    · simp [hs] at h
    · simp [hs] at h
  | disconnectRequest b =>
    unfold onFrame onDisconnectRequest
    rcases c.session.onDisconnectRequest_cases b with ⟨f, h⟩ | ⟨h, -⟩
    · simpa [h] using hs
    · simp [hs, Status.isConnected] at h
  | disconnectResponse b =>
    unfold onFrame onDisconnectResponse
    rcases c.session.onDisconnectResponse_cases b with ⟨f, h⟩ | ⟨h, -⟩
    · simpa [h] using hs
    · simp [hs] at h
  | tunnelingRequest b =>
    unfold onFrame onTunnelingRequest
    rcases c.session.onTunnelingRequest_cases b c.now with ⟨f, h⟩ | ⟨h, -⟩
    · simpa [h] using hs
    · exact absurd h hconn
  | tunnelingAck b =>
    have hfits : ¬ c.session.Fits b := fun h => hconn h.connected
    obtain ⟨cause, t, ht, h⟩ := Session.onTunnelingAck_of_not_fits hfits c.now
    unfold onFrame onTunnelingAck
    rcases ht with rfl | rfl <;>
      simpa [h, Fault.isTunneling, publishFault, publish, Session.recordActivity] using hs
  | connectRequest b => exact hs
  | connectionStateRequest b => exact hs

/-- **A frame** has nothing to do with opening a session, unless it is a connect response. -/
theorem standsBy_onFrame (c : Client) {frame : Frame} (hframe : ∀ b, frame ≠ .connectResponse b) :
    StandsBy c (c.onFrame frame) := by
  cases frame with
  | connectResponse b => exact absurd rfl (hframe b)
  | connectionStateResponse b => exact (c.effects_onHeartbeatResponse b).standsBy
  | disconnectRequest b => exact (c.effects_onDisconnectRequest b).standsBy
  | disconnectResponse b => exact (c.effects_onDisconnectResponse b).standsBy
  | tunnelingRequest b =>
    rcases c.onTunnelingRequest_cases b with ⟨-, h⟩ | ⟨-, b', hb, h⟩
    · exact h.standsBy
    · rw [onFrame, h]
      refine hb.standsBy.trans ?_
      rcases b'.onMessage_cases b with ⟨-, h⟩ | ⟨m, -, h⟩
      · exact h.standsBy
      · rw [h]
        exact .of_eq rfl rfl
  | tunnelingAck b =>
    unfold onFrame onTunnelingAck
    rcases c.session.onTunnelingAck_cases b c.now with ⟨cause, t, rfl | rfl, h⟩ | ⟨-, h⟩ | ⟨-, -, h⟩
    · simp only [h, Fault.isTunneling]
      exact .of_eq rfl rfl
    · simp only [h, Fault.isTunneling]
      exact .of_eq rfl rfl
    · simp only [h, Fault.isTunneling, if_true]
      exact .of_eq rfl rfl
    · simp only [h]
      exact .of_eq rfl rfl
  | connectRequest b => exact .refl c
  | connectionStateRequest b => exact .refl c

end Client

namespace Heartbeat

theorem session_begin (c : Client) : (begin c).2.session = c.session := by
  unfold begin
  split <;> rfl

/-- Without a session that goes on, the heartbeat leaves everything of it as it is. -/
theorem session_poll {c : Client} (hc : c.session.status.isConnected = false) (h : Heartbeat) :
    (h.poll c).2.session = c.session := by
  have hpending : c.session.status ≠ .heartbeatPending := by
    intro hs
    rw [hs] at hc
    cases hc
  cases h with
  | starting => exact session_begin c
  | awaitingSession =>
    unfold poll
    simp only
    split
    · exact session_begin _
    · rfl
  | resting deadline =>
    unfold poll ask
    simp only
    split
    · rcases c.session.heartbeatRequest_cases with h | ⟨hs, -⟩
      · simp only [h]
        exact session_begin _
      · simp [hc] at hs
    · rfl
  | awaitingAnswer deadline =>
    unfold poll expired
    simp only
    split
    · exact session_begin _
    · split
      · rcases c.session.heartbeatMissed_cases with h | ⟨hs, -⟩ | ⟨hs, -⟩
        · simp only [h]
          exact session_begin _
        · exact absurd hs hpending
        · exact absurd hs hpending
      · rfl

end Heartbeat

/-! ### Requests -/

namespace Transfer

open Client

/-- To send a copy does to the client what to send any datagram does. -/
theorem sendCopy_snd (copy : Datagram) (attempt : Nat) (c : Client) :
    (sendCopy copy attempt c).2 = (c.transmit copy).2 := by
  unfold sendCopy
  rcases c.transmit_cases copy with ⟨f, h⟩ | h <;> simp only [h]

theorem standsBy_begin (m : Cemi) (c : Client) : StandsBy c (begin m c).2 := by
  unfold begin
  rcases c.session.tunnelingRequest_cases m with ⟨f, h⟩ | ⟨-, h⟩
  · simp only [h]
    exact .refl c
  · simp only [h, sendCopy_snd]
    refine .trans ?_ (standsBy_transmit _ _)
    exact .of_eq rfl rfl

theorem standsBy_poll (t : Transfer) (c : Client) : StandsBy c (t.poll c).2 := by
  cases t with
  | awaitingAck copy attempt deadline =>
    unfold poll acknowledged ackExpired
    simp only
    split
    · split
      · split <;> exact .of_eq rfl rfl
      · exact .of_eq rfl rfl
    · exact .of_eq rfl rfl
    · split
      · split
        · rw [sendCopy_snd]
          exact standsBy_transmit _ _
        · exact .of_eq rfl rfl
      · exact .refl c
  | awaitingConfirmation deadline =>
    unfold poll
    simp only
    split
    · exact .of_eq rfl rfl
    · split <;> exact .refl c

end Transfer

namespace Sender

open Client

theorem standsBy_follow (job : Job) (p : Progress (Except Fault Unit) Transfer × Client) :
    StandsBy p.2 (follow job p).2 := by
  obtain ⟨result | t, c⟩ := p
  · obtain ⟨m, _ | id⟩ := job
    · cases result <;> exact .of_eq rfl rfl
    · simp only [follow, finish]
      rw [c.completeSlot_eq]
      exact .of_eq rfl rfl
  · exact .refl c

theorem standsBy_takeJob (c : Client) : StandsBy c (takeJob c).2 := by
  unfold takeJob
  cases c.queue.pop? with
  | none => exact .refl c
  | some r =>
    obtain ⟨job, queue⟩ := r
    have hq : StandsBy c { c with queue := queue } := .of_eq rfl rfl
    exact (hq.trans (Transfer.standsBy_begin _ _)).trans (standsBy_follow _ _)

/-- **The sender** has nothing to do with opening a session. -/
theorem standsBy_poll (s : Sender) (c : Client) : StandsBy c (s.poll c).2 := by
  cases s with
  | idle => exact standsBy_takeJob c
  | delivering job t => exact (t.standsBy_poll c).trans (standsBy_follow _ _)
  | resting deadline =>
    unfold poll
    simp only
    split
    · exact standsBy_takeJob c
    · exact .refl c

theorem status_cancel (s : Sender) (c : Client) :
    (s.cancel c).session.status = c.session.status := by
  unfold cancel
  cases s.job? with
  | none => rfl
  | some job =>
    simp only [Client.dropJob_eq]
    rfl

/-- To stop the sender has nothing to do with opening a session either. -/
theorem standsBy_cancel (s : Sender) (c : Client) : StandsBy c (s.cancel c) := by
  refine .of_eq (s.status_cancel c) ?_
  unfold cancel
  cases s.job? with
  | none => rfl
  | some job => simp only [Client.dropJob_eq]

/-- To stop the sender begins nothing. -/
theorem quiet_cancel (s : Sender) (c : Client) : Quiet false false c (s.cancel c) := by
  unfold cancel
  cases s.job? with
  | none => exact .refl c
  | some job =>
    simp only [Client.dropJob_eq]
    refine (Quiet.of_session c.session.abandonRequest (Or.inl rfl) (Or.inl rfl)).trans ?_
    exact .of_eq rfl rfl rfl rfl

end Sender

/-! ### Calls -/

open Client

theorem Sending.still_poll (k : Sending) (c : Client) : Still c (k.poll c).2 := by
  have h := k.turn_poll c
  generalize k.poll c = r at h ⊢
  obtain ⟨p, c'⟩ := r
  cases h <;> exact ⟨rfl, rfl, rfl, rfl, rfl⟩

theorem Sending.still_cancel (k : Sending) (c : Client) : Still c (k.cancel c) := by
  cases k with
  | start m => exact .refl c
  | queueing m id => exact ⟨rfl, rfl, rfl, rfl, rfl⟩
  | awaiting id =>
    simp only [cancel, releaseSlot]
    split <;> exact ⟨rfl, rfl, rfl, rfl, rfl⟩

theorem Queueing.still_poll (k : Queueing) (c : Client) : Still c (k.poll c).2 := by
  rcases k.poll_cases c with h | h
  · rw [h]
    exact .refl c
  · generalize (k.poll c).2 = c' at h ⊢
    obtain ⟨m, q, hq⟩ := h
    exact ⟨rfl, rfl, rfl, rfl, rfl⟩

namespace Reading

theorem still_delivered (read : ReadId) (p : Progress (Except Fault Unit) Sending × Client) :
    Still p.2 (delivered read p).2 := by
  obtain ⟨(f | u) | question, c⟩ := p
  · exact ⟨rfl, rfl, rfl, rfl, rfl⟩
  · simp only [delivered, await]
    cases c.registry.answer? read with
    | none => exact .refl c
    | some data => exact ⟨rfl, rfl, rfl, rfl, rfl⟩
  · exact .refl c

theorem still_poll (k : Reading) (c : Client) : Still c (k.poll c).2 := by
  cases k with
  | start address =>
    unfold poll
    simp only
    cases c.registry.beginRead address with
    | error f => exact .refl c
    | ok r =>
      have hr : Still c { c with registry := r.2 } := ⟨rfl, rfl, rfl, rfl, rfl⟩
      exact (hr.trans (Sending.still_poll _ _)).trans (still_delivered _ _)
  | sending read question => exact (question.still_poll c).trans (still_delivered _ _)
  | awaiting read deadline =>
    simp only [poll, await]
    cases c.registry.answer? read with
    | some data => exact ⟨rfl, rfl, rfl, rfl, rfl⟩
    | none =>
      simp only [Option.map_none, Option.getD_none]
      split <;> exact ⟨rfl, rfl, rfl, rfl, rfl⟩

theorem still_cancel (k : Reading) (c : Client) : Still c (k.cancel c) := by
  cases k with
  | start address => exact .refl c
  | sending read question => exact (question.still_cancel c).trans (⟨rfl, rfl, rfl, rfl, rfl⟩)
  | awaiting read deadline => exact ⟨rfl, rfl, rfl, rfl, rfl⟩

end Reading

namespace Writing

theorem still_queued (p : Point) (v : Value) (r : Progress (Except Fault Unit) Queueing × Client) :
    Still r.2 (queued p v r).2 := by
  obtain ⟨(_ | _) | _, c⟩ := r
  · exact .refl c
  · exact ⟨rfl, rfl, rfl, rfl, rfl⟩
  · exact .refl c

theorem still_poll (p : Point) (k : Writing) (c : Client) : Still c (k.poll p c).2 := by
  cases k with
  | start setting =>
    unfold poll
    simp only
    cases p.dpt.encode (valueOf p setting c) with
    | error f => exact .refl c
    | ok data => exact (Queueing.still_poll _ c).trans (still_queued _ _ _)
  | queueing v request => exact (request.still_poll c).trans (still_queued _ _ _)

end Writing

/-- A call that opens a session begins no request. -/
theorem Connecting.noRequest_poll (k : Connecting) (c : Client) :
    NoRequest false false c (k.poll c).2 := by
  cases k with
  | start =>
    unfold poll begin
    rcases c.session.connectRequest_cases with h | ⟨hs, h⟩
    · simp only [h]
      exact .refl c
    · simp only [h]
      generalize hb : ({ c with session := _, connectDone := _, dataEndpoint := _ } : Client) = b
      have hdial : NoRequest false false c b := by
        subst hb
        exact .of_eq rfl rfl rfl rfl
      have hsend := ((b.quiet_publish (.connecting c.config.gateway)).trans (quiet_transmitFrame _
        (.connectRequest ⟨c.session.control, c.session.control, .tunnel⟩) c.config.gateway))
      split <;> rename_i heq <;> rw [heq] at hsend <;> exact hdial.trans hsend.toNoRequest
  | awaiting deadline =>
    unfold poll
    simp only
    split
    · exact .of_eq rfl rfl rfl rfl
    · split
      · unfold expired
        rcases c.session.connectExpired_cases with h | ⟨-, h⟩ <;>
          simp only [h] <;> split <;> exact .of_eq rfl rfl rfl rfl
      · exact .refl c

namespace Disconnecting

/-- Whoever closes a session ends it, whatever has become of it. -/
theorem quiet_conclude (c : Client) : Quiet false false c (conclude c) := by
  have hclosed : Quiet false false c { c with session := c.session.closed } :=
    .of_closed rfl rfl id id
  unfold conclude Session.forceDisconnected
  simp only
  split
  · exact hclosed.trans (quiet_sessionLost rfl _)
  · exact hclosed

/-- A call that closes a session begins no request. -/
theorem noRequest_poll (k : Disconnecting) (c : Client) : NoRequest false false c (k.poll c).2 := by
  cases k with
  | start =>
    unfold poll begin
    rcases c.session.disconnectRequest_cases with h | ⟨-, h⟩
    · simp only [h]
      exact .refl c
    · simp only [h]
      generalize hb : ({ c with session := _, disconnectDone := _, ackDone := _ } : Client) = b
      have hleave : NoRequest false false c b := by
        subst hb
        exact ⟨by rintro n ⟨⟩, by rintro ⟨⟩, Or.inl⟩
      have hsend := quiet_transmitFrame b
        (.disconnectRequest ⟨c.session.channel, c.session.control⟩) c.config.gateway
      split <;> rename_i heq <;> rw [heq] at hsend <;> exact hleave.trans hsend.toNoRequest
  | awaiting deadline =>
    have hdone : NoRequest false false c { c with disconnectDone := false } :=
      .of_eq rfl rfl rfl rfl
    unfold poll
    simp only
    split
    · exact hdone.trans (quiet_conclude _).toNoRequest
    · split
      · exact (quiet_conclude c).toNoRequest
      · exact .refl c

end Disconnecting

/-- A call that stops a client begins no request. -/
theorem Closing.noRequest_poll (k : Closing) (c : Client) :
    NoRequest false false c (k.poll c).2 := by
  have hconclude : ∀ p, NoRequest false false c p.2 → NoRequest false false c (conclude p).2 := by
    rintro ⟨_ | stage, b⟩ hb
    · exact hb.trans (.of_eq rfl rfl rfl rfl)
    · exact hb
  cases k with
  | start =>
    unfold poll
    simp only
    split
    · exact hconclude _ (Disconnecting.noRequest_poll _ c)
    · exact .of_eq rfl rfl rfl rfl
  | disconnecting stage => exact hconclude _ (stage.noRequest_poll c)

namespace Call

/-- Whether a call opens or closes a session. -/
def isLifecycle : Call → Bool
  | .connect _ => true
  | .disconnect _ => true
  | .close _ => true
  | _ => false

/-- **A call that neither opens nor closes a session** leaves everything as it is. -/
theorem still_poll {k : Call} (h : k.isLifecycle = false) (c : Client) :
    Still c (k.poll c).2 := by
  cases k with
  | connect stage => cases h
  | disconnect stage => cases h
  | close stage => cases h
  | send stage => exact stage.still_poll c
  | enqueue stage => exact stage.still_poll c
  | refused f => exact .refl c
  | read form stage => exact stage.still_poll c
  | write p stage => exact stage.still_poll p c
  | update p asNumber stage =>
    cases stage with
    | start => exact ⟨rfl, rfl, rfl, rfl, rfl⟩
    | awaiting =>
      simp only [poll, Updating.poll]
      cases c.registry.takeUpdate? p.binding <;> exact ⟨rfl, rfl, rfl, rfl, rfl⟩

/-- **No call begins a request** by itself: requests are begun by the sender. -/
theorem noRequest_poll (k : Call) (c : Client) : NoRequest false false c (k.poll c).2 := by
  cases k with
  | connect stage => exact stage.noRequest_poll c
  | disconnect stage => exact stage.noRequest_poll c
  | close stage => exact stage.noRequest_poll c
  | _ => exact (still_poll rfl c).quiet.toNoRequest

/-- To stop a call leaves everything as it is. -/
theorem still_cancel (k : Call) (c : Client) : Still c (k.cancel c) := by
  cases k with
  | send stage => exact stage.still_cancel c
  | read form stage => exact stage.still_cancel c
  | _ => exact .refl c

end Call

end KnxIp
