import KnxIp.Proofs.Session.Heartbeats

/-!
# When a session was last active

A session remembers when the last frame of its channel came, so that one can tell for how long the
gateway has been silent. No single place sees to that: each operation that takes such a frame
notes the time itself, before or behind the tests that it makes, and two of them do not.

What is noted can be read off a history of the session (`KnxIp.Session.steps`), step by step
(`KnxIp.Session.Step.noted?`), and what a session remembers is the last of it. So it depends on the
kind of a frame, and not on what else it says, whether a session that is open notes it
(`KnxIp.Session.notes`). A message and an acknowledgement are always noted, also one that fits no
request. The answer to a heartbeat is noted if a heartbeat is pending, and one that comes late or
twice is not. Neither are the two frames that end a session.

## Main statements

* `KnxIp.Session.lastActivity_perform`: what one operation notes.
* `KnxIp.Session.activity_run`: a session remembers what was noted last, and a frame of its own
  makes it remember the time of its coming if and only if it is one that is noted.
* `KnxIp.Session.exists_unnoted`: three frames of its own that an open session does not note.
-/

namespace KnxIp.Session

/-! ### What is noted -/

/-- **The time that a step notes.** A grant is noted, and so are an acknowledgement and a message
on the channel of a session that is open, and an answer on its channel while a heartbeat is
pending. What else they say does not matter. -/
def Step.noted? (e : Step) : Option Nat :=
  match e.operation with
  | .connectResponse _ now => if e.isGrant then some now else none
  | .tunnelingAck ack now =>
    if e.before.status.isConnected ∧ ack.channel = e.before.channel then some now else none
  | .inbound request now =>
    if e.before.status.isConnected ∧ request.channel = e.before.channel then some now else none
  | .heartbeatResponse response now =>
    if e.before.status = .heartbeatPending ∧ response.channel = e.before.channel then some now
    else none
  | .recordActivity now => some now
  | _ => none

/-- What a history has noted last. -/
def lastNoted (l : List Step) : Option Nat := (l.filterMap Step.noted?).getLast?

theorem lastNoted_concat (l : List Step) (e : Step) :
    lastNoted (l ++ [e]) = e.noted?.or (lastNoted l) := by
  cases h : e.noted? <;> simp [lastNoted, h]

/-! ### One operation -/

/-- **An acknowledgement** on the channel of an open session is noted before anything else of it is
looked at. -/
theorem lastActivity_onTunnelingAck (s : Session) (ack : TunnelingAck) (now : Nat) :
    (s.onTunnelingAck ack now).2.lastActivity =
      if s.status.isConnected ∧ ack.channel = s.channel then some now else s.lastActivity := by
  by_cases hopen : s.status.isConnected ∧ ack.channel = s.channel
  · rw [if_pos hopen]
    by_cases hfits : s.Fits ack
    · rw [onTunnelingAck_of_fits hfits]
      rfl
    · obtain ⟨cause, heq⟩ := onTunnelingAck_of_idle hopen.1 hopen.2 hfits now
      rw [heq]
      rfl
  · obtain ⟨cause, heq⟩ := onTunnelingAck_of_stray hopen now
    rw [heq, if_neg hopen]

/-- **A message** on the channel of an open session is noted. -/
theorem lastActivity_onTunnelingRequest (s : Session) (request : TunnelingRequest) (now : Nat) :
    (s.onTunnelingRequest request now).2.lastActivity =
      if s.status.isConnected ∧ request.channel = s.channel then some now else s.lastActivity := by
  unfold onTunnelingRequest
  by_cases hs : s.status.isConnected
  · by_cases hc : request.channel = s.channel <;> simp [hs, hc, recordActivity]
  · simp [hs]

/-- **The answer to a heartbeat** is noted only while one is pending. -/
theorem lastActivity_onHeartbeatResponse (s : Session) (response : ChannelResponse) (now : Nat) :
    (s.onHeartbeatResponse response now).2.lastActivity =
      if s.status = .heartbeatPending ∧ response.channel = s.channel then some now
      else s.lastActivity := by
  unfold onHeartbeatResponse
  by_cases hs : s.status = .heartbeatPending
  · by_cases hc : response.channel = s.channel
    · by_cases hz : response.status = 0 <;> simp [hs, hc, hz, recordActivity, closed]
    · simp [hs, hc]
  · simp [hs]

/-- **An operation notes what its step says**, and otherwise keeps what was noted before. One case
for each operation; where it has several outcomes, one for each of them. -/
theorem lastActivity_perform (s : Session) (op : Operation) :
    (s.perform op).2.lastActivity = (s.step op).noted?.or s.lastActivity := by
  cases op with
  | connectRequest =>
    simp only [perform]
    rcases s.connectRequest_cases with h | ⟨-, h⟩ <;> rw [h] <;> rfl
  | connectResponse response now =>
    rcases s.onConnectResponse_cases response now with h | ⟨-, h⟩ | ⟨-, h⟩ <;>
      simp [step, Step.noted?, Step.isGrant, perform, h, Outcome.ofResult, granted]
  | connectExpired =>
    simp only [perform]
    rcases s.connectExpired_cases with h | ⟨-, h⟩ <;> rw [h] <;> rfl
  | tunnelingRequest message =>
    simp only [perform]
    rcases s.tunnelingRequest_cases message with ⟨f, h⟩ | ⟨-, h⟩ <;> rw [h] <;> rfl
  | tunnelingAck ack now =>
    simp only [perform, Prod.map_snd, id_eq, lastActivity_onTunnelingAck, step, Step.noted?]
    split_ifs with h <;> simp [h]
  | abandonRequest => rfl
  | inbound request now =>
    simp only [perform, Prod.map_snd, id_eq, lastActivity_onTunnelingRequest, step, Step.noted?]
    split_ifs with h <;> simp [h]
  | heartbeatRequest =>
    simp only [perform]
    rcases s.heartbeatRequest_cases with h | ⟨-, h⟩ <;> rw [h] <;> rfl
  | heartbeatResponse response now =>
    simp only [perform, Prod.map_snd, id_eq, lastActivity_onHeartbeatResponse, step, Step.noted?]
    split_ifs with h <;> simp [h]
  | heartbeatMissed =>
    simp only [perform]
    rcases s.heartbeatMissed_cases with h | ⟨-, h⟩ | ⟨-, h⟩ <;> rw [h] <;> rfl
  | disconnectRequest =>
    simp only [perform]
    rcases s.disconnectRequest_cases with h | ⟨-, h⟩ <;> rw [h] <;> rfl
  | disconnectResponse response =>
    simp only [perform]
    rcases s.onDisconnectResponse_cases response with ⟨f, h⟩ | ⟨-, h⟩ <;> rw [h] <;> rfl
  | gatewayDisconnect request =>
    simp only [perform]
    rcases s.onDisconnectRequest_cases request with ⟨f, h⟩ | ⟨-, h⟩ <;> rw [h] <;> rfl
  | forceDisconnected => rfl
  | recordActivity now => rfl

/-- **A session remembers what its history has noted last.** -/
theorem lastActivity_run (control : Hpai) (maxMisses : UInt8) (ops : List Operation) :
    ((fresh control maxMisses).run ops).lastActivity =
      lastNoted ((fresh control maxMisses).steps ops) := by
  induction ops using List.reverseRecOn with
  | nil => rfl
  | append_singleton ops op ih =>
    rw [run_append, steps_append, steps, steps, lastNoted_concat, ← ih]
    exact lastActivity_perform _ op

/-! ### Frames of the session -/

section Frames

variable {s : Session} {frame : Frame}

/-- **A frame of the session**: it names the channel, and it is a message, an acknowledgement, the
answer to a heartbeat, or one of the two frames that end a session. -/
def IsOwn (s : Session) : Frame → Prop
  | .tunnelingRequest r => r.channel = s.channel
  | .tunnelingAck r => r.channel = s.channel
  | .connectionStateResponse r => r.channel = s.channel
  | .disconnectRequest r => r.channel = s.channel
  | .disconnectResponse r => r.channel = s.channel
  | _ => False

/-- The session after a frame of the gateway, whether or not the frame is a fault. -/
def afterFrame (s : Session) (frame : Frame) (now : Nat) : Session :=
  match Operation.ofFrame? frame now with
  | some op => (s.perform op).2
  | none => s

/-- **Whether an open session notes a frame of its own.** -/
def notes (s : Session) : Frame → Bool
  | .tunnelingRequest _ => true
  | .tunnelingAck _ => true
  | .connectionStateResponse _ => s.status = .heartbeatPending
  | _ => false

/-- **A frame of an open session** is noted or not, whatever else it says. -/
theorem lastActivity_afterFrame (hs : s.status.isConnected) (h : s.IsOwn frame) (now : Nat) :
    (s.afterFrame frame now).lastActivity =
      if s.notes frame then some now else s.lastActivity := by
  cases frame with
  | tunnelingRequest r =>
    have hc : r.channel = s.channel := h
    simp [afterFrame, Operation.ofFrame?, perform, lastActivity_onTunnelingRequest, notes, hs, hc]
  | tunnelingAck r =>
    have hc : r.channel = s.channel := h
    simp [afterFrame, Operation.ofFrame?, perform, lastActivity_onTunnelingAck, notes, hs, hc]
  | connectionStateResponse r =>
    have hc : r.channel = s.channel := h
    simp [afterFrame, Operation.ofFrame?, perform, lastActivity_onHeartbeatResponse, notes, hc]
  | disconnectRequest r => exact lastActivity_perform s (.gatewayDisconnect r)
  | disconnectResponse r => exact lastActivity_perform s (.disconnectResponse r)
  | connectRequest | connectResponse | connectionStateRequest => exact h.elim

end Frames

/-- **What a session knows of the gateway's activity.** After any sequence of operations of a fresh
session it remembers the time that was noted last. While it is connected, a frame of its own that
comes leaves the time of its coming, or what was remembered before, and it leaves the time of its
coming, whenever it comes, if and only if it is a message, an acknowledgement, or the answer to a
heartbeat that is pending. -/
theorem activity_run (control : Hpai) (maxMisses : UInt8) (ops : List Operation) :
    let s := (fresh control maxMisses).run ops
    s.lastActivity = lastNoted ((fresh control maxMisses).steps ops) ∧
      (s.status.isConnected → ∀ frame, s.IsOwn frame →
        (∀ now, (s.afterFrame frame now).lastActivity =
          if s.notes frame then some now else s.lastActivity) ∧
        ((∀ now, (s.afterFrame frame now).lastActivity = some now) ↔ s.notes frame)) := by
  intro s
  refine ⟨lastActivity_run control maxMisses ops, fun hs frame hown => ?_⟩
  have hafter := lastActivity_afterFrame hs hown
  refine ⟨hafter, fun hnow => ?_, fun hnotes now => by rw [hafter, if_pos hnotes]⟩
  by_contra hnotes
  -- What is remembered can be the time of one coming only.
  have hzero := hnow 0
  have hone := hnow 1
  rw [hafter, if_neg hnotes] at hzero hone
  cases hzero.symm.trans hone

/-- **An open session does not note everything of its own**: not the answer to a heartbeat when
none is pending, and neither a request to end the session nor the answer to one. What it remembers
in the tenth tick is the time of the grant. -/
theorem exists_unnoted : ∃ ops, let s := (fresh .unspecified 2).run ops
    s.status = .connected ∧ ∀ frame ∈ [Frame.connectionStateResponse ⟨7, 0⟩,
        .disconnectRequest ⟨7, .unspecified⟩, .disconnectResponse ⟨7, 0⟩],
      s.IsOwn frame ∧ (s.afterFrame frame 10).lastActivity = some 0 := by
  let gateway : Endpoint := ⟨⟨192, 168, 1, 10⟩, 3671⟩
  refine ⟨[.connectRequest,
    .connectResponse ⟨7, 0, some (Hpai.ofEndpoint gateway), some (Crd.tunnel ⟨0x11FF⟩)⟩ 0], rfl, ?_⟩
  simp only [List.forall_mem_cons]
  exact ⟨⟨rfl, rfl⟩, ⟨rfl, rfl⟩, ⟨rfl, rfl⟩, nofun⟩

end KnxIp.Session
