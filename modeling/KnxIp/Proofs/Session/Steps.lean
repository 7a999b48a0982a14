import KnxIp.Session
import Mathlib.Tactic.SplitIfs

/-!
# What an operation of a session can do

Each operation of `KnxIp.Session` tests the status, then the channel, then whatever else
it depends on, and either fails and leaves the session alone or does one thing. The
lemmas below list, for each operation that can have several outcomes, all of them: what
has to hold for an outcome, and the session that it leaves. Later proofs go through these
lists and never through the tests.

Most outcomes leave alone what the requests of the client depend on. That is
`KnxIp.Session.Keeps`: the session neither ends nor begins, its channel stays, and so does
the number of its next request.
-/

namespace KnxIp

/-- What an acknowledgement says of the request that it fits. -/
def TunnelingAck.verdict (ack : TunnelingAck) : Except Fault Unit :=
  if ack.status = 0 then .ok () else .error (.tunneling (.ackStatus ack.status))

namespace Session

/-! ### Keeping the session -/

/-- **The session goes on**, as far as the requests of the client are concerned. Whether
a heartbeat is pending does not matter to them. -/
structure Keeps (s t : Session) : Prop where
  status : t.status = s.status ∨ (s.status.isConnected ∧ t.status.isConnected)
  channel : t.channel = s.channel
  sendSequence : t.sendSequence = s.sendSequence

variable {s t : Session}

theorem Keeps.refl (s : Session) : Keeps s s := ⟨Or.inl rfl, rfl, rfl⟩

/-- What has the same status, channel and number goes on. -/
theorem Keeps.of_eq (hs : t.status = s.status) (hc : t.channel = s.channel)
    (hn : t.sendSequence = s.sendSequence) : Keeps s t :=
  ⟨Or.inl hs, hc, hn⟩

/-- A session that goes on is connected as long as it was. -/
theorem Keeps.isConnected_eq (h : Keeps s t) : t.status.isConnected = s.status.isConnected := by
  rcases h.status with hs | ⟨hs, ht⟩
  · rw [hs]
  · rw [hs, ht]

/-! ### Opening -/

theorem connectRequest_cases (s : Session) :
    s.connectRequest = (.error (.connection .invalidState), s) ∨
      s.status = .disconnected ∧ s.connectRequest =
        (.ok ⟨s.control, s.control, .tunnel⟩, { s with status := .connecting }) := by
  unfold connectRequest
  split_ifs with h
  · exact Or.inr ⟨h, rfl⟩
  · exact Or.inl rfl

/-- The session that the gateway has granted with a response. -/
def granted (s : Session) (response : ConnectResponse) (now : Nat) : Session :=
  { s with
    status := .connected
    channel := response.channel
    sendSequence := 0
    recvSequence := 0
    lastActivity := some now
    outstanding := none
    misses := 0
    assigned := response.assigned? }

/-- A connect response that comes in time grants the session, or refuses it. -/
theorem onConnectResponse_of_connecting (h : s.status = .connecting) (response : ConnectResponse)
    (now : Nat) :
    s.onConnectResponse response now =
      if response.status = 0 then (.ok response.channel, s.granted response now)
      else
        (.error (.connection (.rejected response.status)), { s with status := .disconnected }) := by
  by_cases hz : response.status = 0 <;> simp [onConnectResponse, h, hz, granted]

/-- One that comes at another time changes nothing. -/
theorem onConnectResponse_of_not_connecting (h : s.status ≠ .connecting)
    (response : ConnectResponse) (now : Nat) :
    s.onConnectResponse response now = (.error (.protocol .unexpectedFrame), s) := if_pos h

/-- **A connect response** comes at the wrong time, refuses the session, or grants it. -/
theorem onConnectResponse_cases (s : Session) (response : ConnectResponse) (now : Nat) :
    s.onConnectResponse response now = (.error (.protocol .unexpectedFrame), s) ∨
      s.status = .connecting ∧ s.onConnectResponse response now =
        (.error (.connection (.rejected response.status)), { s with status := .disconnected }) ∨
      s.status = .connecting ∧ s.onConnectResponse response now =
        (.ok response.channel, s.granted response now) := by
  by_cases h : s.status = .connecting
  · rw [onConnectResponse_of_connecting h]
    by_cases hz : response.status = 0
    · exact Or.inr (Or.inr ⟨h, if_pos hz⟩)
    · exact Or.inr (Or.inl ⟨h, if_neg hz⟩)
  · exact Or.inl (onConnectResponse_of_not_connecting h response now)

theorem connectExpired_cases (s : Session) :
    s.connectExpired = s ∨
      s.status = .connecting ∧ s.connectExpired = { s with status := .disconnected } := by
  unfold connectExpired
  split_ifs with h
  · exact Or.inr ⟨h, rfl⟩
  · exact Or.inl rfl

/-! ### Tunnelling -/

/-- **A request** is refused, or it gets the channel and the next number of a session
that is connected. -/
theorem tunnelingRequest_cases (s : Session) (message : Cemi) :
    (∃ f, s.tunnelingRequest message = (.error (.connection f), s)) ∨
      s.status.isConnected ∧ s.tunnelingRequest message =
        (.ok (.ofCemi s.channel s.sendSequence message),
          { s with outstanding := some s.sendSequence }) := by
  unfold tunnelingRequest
  split_ifs with h h'
  · exact Or.inl ⟨_, rfl⟩
  · exact Or.inr ⟨h, rfl⟩
  · exact Or.inl ⟨_, rfl⟩

/-- **An acknowledgement fits** the request that is outstanding. -/
structure Fits (s : Session) (ack : TunnelingAck) : Prop where
  connected : s.status.isConnected
  channel : ack.channel = s.channel
  outstanding : s.outstanding = some ack.sequence

/-- **What fits** settles the outstanding request, whose number is used up if it is accepted. -/
theorem onTunnelingAck_of_fits {ack : TunnelingAck} (h : s.Fits ack) (now : Nat) :
    s.onTunnelingAck ack now =
      (ack.verdict,
        { s.recordActivity now with
          outstanding := none
          sendSequence := if ack.status = 0 then s.sendSequence + 1 else s.sendSequence }) := by
  obtain ⟨hs, hc, hout⟩ := h
  by_cases hz : ack.status = 0 <;>
    simp [onTunnelingAck, TunnelingAck.verdict, hs, hc, hout, hz, recordActivity]

/-- What does not come on the channel of an open session is a fault. -/
theorem onTunnelingAck_of_stray {ack : TunnelingAck}
    (h : ¬ (s.status.isConnected ∧ ack.channel = s.channel)) (now : Nat) :
    ∃ cause, s.onTunnelingAck ack now = (.error (.protocol cause), s) := by
  by_cases hs : s.status.isConnected
  · have hc : ack.channel ≠ s.channel := fun hc => h ⟨hs, hc⟩
    exact ⟨.channelMismatch, by simp [onTunnelingAck, hs, hc]⟩
  · exact ⟨.unexpectedFrame, by simp [onTunnelingAck, hs]⟩

/-- What does, and fits no request, is a fault too, and its time is kept. -/
theorem onTunnelingAck_of_idle {ack : TunnelingAck} (hs : s.status.isConnected)
    (hc : ack.channel = s.channel) (h : ¬ s.Fits ack) (now : Nat) :
    ∃ cause, s.onTunnelingAck ack now = (.error (.protocol cause), s.recordActivity now) := by
  cases hout : s.outstanding with
  | none =>
    exact ⟨.unexpectedFrame, by simp [onTunnelingAck, hs, hc, hout, recordActivity]⟩
  | some expected =>
    have hn : ack.sequence ≠ expected := fun hn => h ⟨hs, hc, by rw [hout, hn]⟩
    exact ⟨.sequenceMismatch, by simp [onTunnelingAck, hs, hc, hout, hn, recordActivity]⟩

/-- What does not fit is a fault, and at most its time is kept. -/
theorem onTunnelingAck_of_not_fits {ack : TunnelingAck} (h : ¬ s.Fits ack) (now : Nat) :
    ∃ cause t, (t = s ∨ t = s.recordActivity now) ∧
      s.onTunnelingAck ack now = (.error (.protocol cause), t) := by
  by_cases hopen : s.status.isConnected ∧ ack.channel = s.channel
  · obtain ⟨cause, heq⟩ := onTunnelingAck_of_idle hopen.1 hopen.2 h now
    exact ⟨cause, _, .inr rfl, heq⟩
  · obtain ⟨cause, heq⟩ := onTunnelingAck_of_stray hopen now
    exact ⟨cause, _, .inl rfl, heq⟩

/-- **An acknowledgement** fits nothing, and then at most its time is kept; or it refuses
the outstanding request; or it accepts that request, whose number it has. -/
theorem onTunnelingAck_cases (s : Session) (ack : TunnelingAck) (now : Nat) :
    (∃ cause t, (t = s ∨ t = s.recordActivity now) ∧
        s.onTunnelingAck ack now = (.error (.protocol cause), t)) ∨
      s.status.isConnected ∧ s.onTunnelingAck ack now =
        (.error (.tunneling (.ackStatus ack.status)),
          { s.recordActivity now with outstanding := none }) ∨
      s.status.isConnected ∧ s.outstanding = some ack.sequence ∧ s.onTunnelingAck ack now =
        (.ok (),
          { s.recordActivity now with
            outstanding := none
            sendSequence := s.sendSequence + 1 }) := by
  by_cases h : s.Fits ack
  · have heq := onTunnelingAck_of_fits h now
    by_cases hz : ack.status = 0
    · exact Or.inr (Or.inr ⟨h.connected, h.outstanding, by
        rw [heq, TunnelingAck.verdict, if_pos hz, if_pos hz]⟩)
    · refine Or.inr (Or.inl ⟨h.connected, ?_⟩)
      rw [heq, TunnelingAck.verdict, if_neg hz, if_neg hz]
      rfl
  · exact Or.inl (onTunnelingAck_of_not_fits h now)

/-- Only a request that is outstanding can be refused. -/
theorem outstanding_ne_none_of_onTunnelingAck {s : Session} {ack : TunnelingAck} {now : Nat}
    {cause : TunnelingFault} (h : (s.onTunnelingAck ack now).1 = .error (.tunneling cause)) :
    s.outstanding ≠ none := by
  intro hnone
  simp only [onTunnelingAck, recordActivity, hnone] at h
  split_ifs at h <;> simp at h

theorem onTunnelingRequest_cases (s : Session) (request : TunnelingRequest) (now : Nat) :
    (∃ f, s.onTunnelingRequest request now = (.error f, s)) ∨
      s.status.isConnected ∧ s.onTunnelingRequest request now =
        (.ok (request.ack 0),
          { s.recordActivity now with recvSequence := request.sequence + 1 }) := by
  unfold onTunnelingRequest
  split_ifs with h h'
  · exact Or.inl ⟨_, rfl⟩
  · exact Or.inr ⟨h, rfl⟩
  · exact Or.inl ⟨_, rfl⟩

/-! ### Heartbeats -/

theorem heartbeatRequest_cases (s : Session) :
    s.heartbeatRequest = (.error (.connection .notConnected), s) ∨
      s.status.isConnected ∧
        s.heartbeatRequest = (.ok s.stateRequest, { s with status := .heartbeatPending }) := by
  unfold heartbeatRequest
  split_ifs with h
  · exact Or.inr ⟨h, rfl⟩
  · exact Or.inl rfl

/-- **The answer to a heartbeat** fits nothing, keeps the session, or ends it. -/
theorem onHeartbeatResponse_cases (s : Session) (response : ChannelResponse) (now : Nat) :
    (∃ cause, s.onHeartbeatResponse response now = (.error (.protocol cause), s)) ∨
      s.status = .heartbeatPending ∧ s.onHeartbeatResponse response now =
        (.ok (), { s.recordActivity now with misses := 0, status := .connected }) ∨
      s.status = .heartbeatPending ∧ s.onHeartbeatResponse response now =
        (.error (.connection .lost), (s.recordActivity now).closed) := by
  unfold onHeartbeatResponse
  split_ifs with h h' h''
  · exact Or.inl ⟨_, rfl⟩
  · exact Or.inl ⟨_, rfl⟩
  · exact Or.inr (Or.inr ⟨Decidable.of_not_not h, rfl⟩)
  · exact Or.inr (Or.inl ⟨Decidable.of_not_not h, rfl⟩)

theorem heartbeatMissed_cases (s : Session) :
    s.heartbeatMissed = (.stale, s) ∨
      s.status = .heartbeatPending ∧ s.heartbeatMissed = (.lost, s.closed) ∨
      s.status = .heartbeatPending ∧
        s.heartbeatMissed = (.retry s.stateRequest, { s with misses := s.misses + 1 }) := by
  unfold heartbeatMissed
  split_ifs with h h'
  · exact Or.inl rfl
  · exact Or.inr (Or.inl ⟨Decidable.of_not_not h, rfl⟩)
  · exact Or.inr (Or.inr ⟨Decidable.of_not_not h, rfl⟩)

/-! ### Closing -/

theorem disconnectRequest_cases (s : Session) :
    s.disconnectRequest = (.error (.connection .notConnected), s) ∨
      s.status.isConnected ∧ s.disconnectRequest =
        (.ok ⟨s.channel, s.control⟩,
          { s with status := .disconnecting, outstanding := none }) := by
  unfold disconnectRequest
  split_ifs with h
  · exact Or.inr ⟨h, rfl⟩
  · exact Or.inl rfl

theorem onDisconnectResponse_cases (s : Session) (response : ChannelResponse) :
    (∃ f, s.onDisconnectResponse response = (.error f, s)) ∨
      s.status = .disconnecting ∧ s.onDisconnectResponse response = (.ok (), s.closed) := by
  unfold onDisconnectResponse
  split_ifs with h h'
  · exact Or.inl ⟨_, rfl⟩
  · exact Or.inl ⟨_, rfl⟩
  · exact Or.inr ⟨Decidable.of_not_not h, rfl⟩

theorem onDisconnectRequest_cases (s : Session) (request : ChannelRequest) :
    (∃ f, s.onDisconnectRequest request = (.error f, s)) ∨
      (s.status.isConnected ∨ s.status = .disconnecting) ∧
        s.onDisconnectRequest request = (.ok ⟨request.channel, 0⟩, s.closed) := by
  unfold onDisconnectRequest
  split_ifs with h h'
  · exact Or.inl ⟨_, rfl⟩
  · exact Or.inl ⟨_, rfl⟩
  · refine Or.inr ⟨?_, rfl⟩
    by_cases hs : s.status.isConnected
    · exact Or.inl hs
    · exact Or.inr (Decidable.of_not_not fun hd => h ⟨hs, hd⟩)

end Session

end KnxIp
