import KnxIp.Proofs.Session.Steps
import KnxIp.Session.Operation

/-!
# What a failure leaves of a session

An operation tests several things before it changes anything, so that one that fails should
leave the session as it was. Nearly always it does. The exceptions are the failures that *tell*
something: an acknowledgement on the channel of an open session shows that the gateway is there,
even if it fits no request; a gateway that refuses a session, or a request, has answered it; and
a gateway that does not know the channel has ended the session.

`KnxIp.Session.Failure` lists the ways to fail, with the session that each of them leaves. The
main statement, `KnxIp.Session.intact_perform`, reads from the list what is left after each kind
of fault. And it draws the conclusion: a frame that names another channel – of a session that has
ended, or of somebody else's – changes nothing, so that a session is the same whether or not such
frames come in between.
-/

namespace KnxIp.Session

variable {s : Session} {op : Operation} {f : Fault} {frame : Frame} {now : Nat}

/-! ### The ways to fail -/

/-- The operation does not fit the session, or its frame does not. -/
def IsMisfit (f : Fault) : Prop :=
  f.isProtocol ∨ f = .connection .notConnected ∨ f = .connection .invalidState

/-- The session after an operation that does not fit. An acknowledgement on the channel of an
open session still shows that the gateway is there. -/
def afterMisfit (s : Session) : Operation → Session
  | .tunnelingAck ack now =>
    if s.status.isConnected ∧ ack.channel = s.channel then s.recordActivity now else s
  | _ => s

/-- **An operation has failed** with a fault, and has left this session. -/
inductive Failure (s : Session) : Operation → Fault → Session → Prop
  | misfit {op : Operation} {f : Fault} (h : IsMisfit f) : Failure s op f (s.afterMisfit op)
  /-- The acknowledgement refuses the outstanding request. -/
  | refused {ack : TunnelingAck} {now : Nat} (h : s.Fits ack) :
      Failure s (.tunnelingAck ack now) (.tunneling (.ackStatus ack.status))
        { s with outstanding := none, lastActivity := some now }
  /-- The gateway refuses the session. -/
  | rejected {response : ConnectResponse} {now : Nat} (h : s.status = .connecting) :
      Failure s (.connectResponse response now) (.connection (.rejected response.status))
        { s with status := .disconnected }
  /-- The gateway does not know the channel. -/
  | lost {response : ChannelResponse} {now : Nat} (hs : s.status = .heartbeatPending)
      (hc : response.channel = s.channel) :
      Failure s (.heartbeatResponse response now) (.connection .lost)
        (s.recordActivity now).forceDisconnected.2

theorem isMisfit_protocol (cause : ProtocolFault) : IsMisfit (.protocol cause) := .inl rfl

theorem isMisfit_notConnected : IsMisfit (.connection .notConnected) := .inr (.inl rfl)

theorem isMisfit_invalidState : IsMisfit (.connection .invalidState) := .inr (.inr rfl)

/-- An acknowledgement that fails: it comes at the wrong time or for another channel, or fits no
request, or refuses the one that is outstanding. -/
theorem failure_tunnelingAck {ack : TunnelingAck}
    (h : (s.perform (.tunnelingAck ack now)).1 = .failed f) :
    s.Failure (.tunnelingAck ack now) f (s.perform (.tunnelingAck ack now)).2 := by
  have hmisfit : ∀ cause, s.onTunnelingAck ack now =
      (.error (.protocol cause), s.afterMisfit (.tunnelingAck ack now)) →
        s.Failure (.tunnelingAck ack now) f (s.perform (.tunnelingAck ack now)).2 := by
    intro cause heq
    simp only [perform, heq, Prod.map] at h ⊢
    cases h
    exact .misfit (isMisfit_protocol cause)
  by_cases hopen : s.status.isConnected ∧ ack.channel = s.channel
  · by_cases hfits : s.Fits ack
    · have heq := onTunnelingAck_of_fits hfits now
      by_cases hz : ack.status = 0
      · simp [perform, heq, TunnelingAck.verdict, hz, Outcome.ofResult] at h
      · simp only [perform, heq, TunnelingAck.verdict, if_neg hz, Prod.map] at h ⊢
        cases h
        exact .refused hfits
    · obtain ⟨cause, heq⟩ := onTunnelingAck_of_idle hopen.1 hopen.2 hfits now
      exact hmisfit cause (by rw [heq, afterMisfit, if_pos hopen])
  · obtain ⟨cause, heq⟩ := onTunnelingAck_of_stray hopen now
    exact hmisfit cause (by rw [heq, afterMisfit, if_neg hopen])

/-- **Every failure is one of the list.** One case for each operation; those without a case
cannot fail. -/
theorem failure_of_perform (h : (s.perform op).1 = .failed f) :
    s.Failure op f (s.perform op).2 := by
  cases op with
  | connectRequest =>
    simp only [perform, connectRequest] at h ⊢
    split_ifs at h ⊢ <;> cases h
    exact .misfit isMisfit_invalidState
  | connectResponse response now =>
    simp only [perform, onConnectResponse] at h ⊢
    split_ifs at h ⊢ with hs hz <;> cases h
    · exact .misfit (isMisfit_protocol _)
    · exact .rejected (Decidable.of_not_not hs)
  | tunnelingRequest message =>
    simp only [perform, tunnelingRequest] at h ⊢
    split_ifs at h ⊢ <;> cases h
    · exact .misfit isMisfit_invalidState
    · exact .misfit isMisfit_notConnected
  | tunnelingAck ack now => exact failure_tunnelingAck h
  | inbound request now =>
    simp only [perform, onTunnelingRequest] at h ⊢
    split_ifs at h ⊢ <;> cases h
    · exact .misfit (isMisfit_protocol _)
    · exact .misfit isMisfit_notConnected
  | heartbeatRequest =>
    simp only [perform, heartbeatRequest] at h ⊢
    split_ifs at h ⊢ <;> cases h
    exact .misfit isMisfit_notConnected
  | heartbeatResponse response now =>
    simp only [perform, onHeartbeatResponse] at h ⊢
    split_ifs at h ⊢ with hs hc <;> cases h
    · exact .misfit (isMisfit_protocol _)
    · exact .misfit (isMisfit_protocol _)
    · exact .lost (Decidable.of_not_not hs) (Decidable.of_not_not hc)
  | disconnectRequest =>
    simp only [perform, disconnectRequest] at h ⊢
    split_ifs at h ⊢ <;> cases h
    exact .misfit isMisfit_notConnected
  | disconnectResponse response =>
    simp only [perform, onDisconnectResponse] at h ⊢
    split_ifs at h ⊢ <;> cases h <;> exact .misfit (isMisfit_protocol _)
  | gatewayDisconnect request =>
    simp only [perform, onDisconnectRequest] at h ⊢
    split_ifs at h ⊢ <;> cases h <;> exact .misfit (isMisfit_protocol _)
  | _ => cases h

/-! ### Frames of other channels -/

/-- The channel of the frame that an operation is for, if it is for one and the session already
has to have this channel. A connect response is the frame that brings a new one. -/
def Operation.channel? : Operation → Option UInt8
  | .tunnelingAck ack _ => some ack.channel
  | .inbound request _ => some request.channel
  | .heartbeatResponse response _ => some response.channel
  | .disconnectResponse response => some response.channel
  | .gatewayDisconnect request => some request.channel
  | _ => none

/-- The operation of a frame, which is no connect response, has the channel of the frame. -/
theorem exists_channel_of_ofFrame? (h : Operation.ofFrame? frame now = some op)
    (hresponse : ∀ b, frame ≠ .connectResponse b) :
    ∃ c, op.channel? = some c ∧ frame.channel? = some c := by
  cases frame with
  | connectResponse b => exact absurd rfl (hresponse b)
  | connectRequest | connectionStateRequest => cases h
  | _ =>
    cases h
    exact ⟨_, rfl, rfl⟩

/-- An operation is for a frame of another channel than the session has. -/
def IsForeign (s : Session) (op : Operation) : Bool := op.channel?.any fun c => c ≠ s.channel

/-- **A frame of another channel** does not fit, and changes nothing. -/
theorem perform_of_isForeign (h : s.IsForeign op) :
    ∃ f, IsMisfit f ∧ s.perform op = (.failed f, s) := by
  cases op with
  | tunnelingAck ack now =>
    have hc : ack.channel ≠ s.channel := of_decide_eq_true h
    obtain ⟨cause, heq⟩ := onTunnelingAck_of_stray (fun hopen => hc hopen.2) now
    exact ⟨_, isMisfit_protocol cause, by rw [perform, heq]; rfl⟩
  | inbound request now =>
    have hc : request.channel ≠ s.channel := of_decide_eq_true h
    simp only [perform, onTunnelingRequest, if_pos hc]
    split
    · exact ⟨_, isMisfit_notConnected, rfl⟩
    · exact ⟨_, isMisfit_protocol _, rfl⟩
  | heartbeatResponse response now =>
    have hc : response.channel ≠ s.channel := of_decide_eq_true h
    simp only [perform, onHeartbeatResponse, if_pos hc]
    split <;> exact ⟨_, isMisfit_protocol _, rfl⟩
  | disconnectResponse response =>
    have hc : response.channel ≠ s.channel := of_decide_eq_true h
    simp only [perform, onDisconnectResponse, if_pos hc]
    split <;> exact ⟨_, isMisfit_protocol _, rfl⟩
  | gatewayDisconnect request =>
    have hc : request.channel ≠ s.channel := of_decide_eq_true h
    simp only [perform, onDisconnectRequest, if_pos hc]
    split <;> exact ⟨_, isMisfit_protocol _, rfl⟩
  | _ => cases h

/-- **The operations that a session takes notice of**: those that are not for a frame of another
channel than it has by then. -/
def noticed (s : Session) : List Operation → List Operation
  | [] => []
  | op :: ops => if s.IsForeign op then noticed s ops else op :: noticed (s.perform op).2 ops

/-- **Frames of other channels do not matter**, wherever they come in between. -/
theorem run_noticed (s : Session) (ops : List Operation) : s.run (s.noticed ops) = s.run ops := by
  induction ops generalizing s with
  | nil => rfl
  | cons op ops ih =>
    have hrun : s.run (op :: ops) = (s.perform op).2.run ops := rfl
    rw [noticed, hrun]
    split
    · obtain ⟨f, -, heq⟩ := perform_of_isForeign ‹_›
      rw [ih, heq]
    · exact ih _

/-! ### What is left -/

/-- **A failure leaves the session intact**, but for what it tells. -/
structure Intact (s : Session) (op : Operation) : Prop where
  /-- There are these faults, and no others. -/
  fault : ∀ f, (s.perform op).1 = .failed f → IsMisfit f ∨
    (∃ status, f = .connection (.rejected status)) ∨
      (∃ status, f = .tunneling (.ackStatus status)) ∨ f = .connection .lost
  /-- An operation that does not fit does nothing, though it may show that the gateway is there. -/
  misfit : ∀ f, (s.perform op).1 = .failed f → IsMisfit f → (s.perform op).2 = s.afterMisfit op
  /-- A gateway that refuses the session ends the attempt to open one, and nothing else. -/
  rejected : ∀ status, (s.perform op).1 = .failed (.connection (.rejected status)) →
    s.status = .connecting ∧ (s.perform op).2 = { s with status := .disconnected }
  /-- A gateway that refuses a request settles the one that is outstanding, and is there. -/
  refused : ∀ status, (s.perform op).1 = .failed (.tunneling (.ackStatus status)) →
    ∃ ack now, op = .tunnelingAck ack now ∧ ack.status = status ∧
      (s.perform op).2 = { s with outstanding := none, lastActivity := some now }
  /-- A gateway that does not know the channel was there, and the session ends. -/
  lost : (s.perform op).1 = .failed (.connection .lost) →
    ∃ response now, op = .heartbeatResponse response now ∧
      (s.perform op).2 = (s.recordActivity now).forceDisconnected.2
  /-- A frame of another channel changes nothing, unless it is what brings a new one. -/
  foreign : ∀ frame now, Operation.ofFrame? frame now = some op →
    (∀ b, frame ≠ .connectResponse b) → frame.channel? ≠ some s.channel → (s.perform op).2 = s

namespace Failure

variable {t : Session} {status : UInt8}

theorem fault (h : s.Failure op f t) : IsMisfit f ∨
    (∃ status, f = .connection (.rejected status)) ∨
      (∃ status, f = .tunneling (.ackStatus status)) ∨ f = .connection .lost := by
  cases h with
  | misfit h => exact .inl h
  | rejected => exact .inr (.inl ⟨_, rfl⟩)
  | refused => exact .inr (.inr (.inl ⟨_, rfl⟩))
  | lost => exact .inr (.inr (.inr rfl))

theorem eq_afterMisfit (h : s.Failure op f t) (hf : IsMisfit f) : t = s.afterMisfit op := by
  cases h with
  | misfit => rfl
  | refused | rejected | lost => simp [IsMisfit, Fault.isProtocol] at hf

theorem of_rejected (h : s.Failure op (.connection (.rejected status)) t) :
    s.status = .connecting ∧ t = { s with status := .disconnected } := by
  cases h with
  | misfit h => simp [IsMisfit, Fault.isProtocol] at h
  | rejected hs => exact ⟨hs, rfl⟩

theorem of_refused (h : s.Failure op (.tunneling (.ackStatus status)) t) :
    ∃ ack now, op = .tunnelingAck ack now ∧ ack.status = status ∧
      t = { s with outstanding := none, lastActivity := some now } := by
  cases h with
  | misfit h => simp [IsMisfit, Fault.isProtocol] at h
  | refused => exact ⟨_, _, rfl, rfl, rfl⟩

theorem of_lost (h : s.Failure op (.connection .lost) t) :
    ∃ response now, op = .heartbeatResponse response now ∧
      t = (s.recordActivity now).forceDisconnected.2 := by
  cases h with
  | misfit h => simp [IsMisfit, Fault.isProtocol] at h
  | lost => exact ⟨_, _, rfl, rfl⟩

end Failure

/-- What is left is read off the list. -/
theorem intact (s : Session) (op : Operation) : s.Intact op where
  fault _ h := (failure_of_perform h).fault
  misfit _ h hf := (failure_of_perform h).eq_afterMisfit hf
  rejected _ h := (failure_of_perform h).of_rejected
  refused _ h := (failure_of_perform h).of_refused
  lost h := (failure_of_perform h).of_lost
  foreign frame now hop hresponse hc := by
    obtain ⟨c, hchannel, hframe⟩ := exists_channel_of_ofFrame? hop hresponse
    have hforeign : s.IsForeign op := by
      simpa [IsForeign, hchannel, hframe] using hc
    obtain ⟨f, -, heq⟩ := perform_of_isForeign hforeign
    rw [heq]

/-- **What fails leaves the session intact.** Whatever the session is and whatever is done with it,
a failure leaves it as it was, except that the gateway may have been heard, that a refusal ends what
it refuses, and that a channel which the gateway does not know ends the session. So it makes no
difference to a session whether frames of other channels come in between. -/
theorem intact_perform (s : Session) :
    (∀ op, s.Intact op) ∧ ∀ ops, s.run (s.noticed ops) = s.run ops :=
  ⟨s.intact, s.run_noticed⟩

end KnxIp.Session
