import KnxIp.Session

/-!
# Operations of a session

The operations of `KnxIp.Session` as data, so that one can speak of a *sequence* of
them: `KnxIp.Session.perform` does one and tells its outcome, and `KnxIp.Session.run`
does one after the other.
-/

namespace KnxIp.Session

/-- **An operation of a session.** -/
inductive Operation
  | connectRequest
  | connectResponse (response : ConnectResponse) (now : Nat)
  | connectExpired
  | tunnelingRequest (message : Cemi)
  | tunnelingAck (ack : TunnelingAck) (now : Nat)
  | abandonRequest
  /-- The gateway sends a message. -/
  | inbound (request : TunnelingRequest) (now : Nat)
  | heartbeatRequest
  | heartbeatResponse (response : ChannelResponse) (now : Nat)
  | heartbeatMissed
  | disconnectRequest
  | disconnectResponse (response : ChannelResponse)
  /-- The gateway ends the session. -/
  | gatewayDisconnect (request : ChannelRequest)
  | forceDisconnected
  | recordActivity (now : Nat)
  deriving DecidableEq

/-- **What an operation gives.** -/
inductive Outcome
  /-- Nothing. -/
  | silent
  /-- It failed. -/
  | failed (fault : Fault)
  /-- It succeeded, with nothing to say. -/
  | done
  /-- A frame to send. -/
  | send (frame : Frame)
  /-- The channel of a session that is now open. -/
  | opened (channel : UInt8)
  /-- What an unanswered heartbeat leads to. -/
  | heartbeat (outcome : HeartbeatOutcome)
  /-- Whether the session had not ended before. -/
  | ended (changed : Bool)
  deriving DecidableEq

/-- The outcome of an operation that may fail. -/
def Outcome.ofResult {α : Type} (success : α → Outcome) : Except Fault α → Outcome
  | .ok a => success a
  | .error f => .failed f

/-- Do an operation. -/
def perform (s : Session) : Operation → Outcome × Session
  | .connectRequest => s.connectRequest.map (.ofResult fun r => .send (.connectRequest r)) id
  | .connectResponse response now => (s.onConnectResponse response now).map (.ofResult .opened) id
  | .connectExpired => (.silent, s.connectExpired)
  | .tunnelingRequest message =>
    (s.tunnelingRequest message).map (.ofResult fun r => .send (.tunnelingRequest r)) id
  | .tunnelingAck ack now => (s.onTunnelingAck ack now).map (.ofResult fun _ => .done) id
  | .abandonRequest => (.silent, s.abandonRequest)
  | .inbound request now =>
    (s.onTunnelingRequest request now).map (.ofResult fun a => .send (.tunnelingAck a)) id
  | .heartbeatRequest =>
    s.heartbeatRequest.map (.ofResult fun r => .send (.connectionStateRequest r)) id
  | .heartbeatResponse response now =>
    (s.onHeartbeatResponse response now).map (.ofResult fun _ => .done) id
  | .heartbeatMissed => s.heartbeatMissed.map .heartbeat id
  | .disconnectRequest =>
    s.disconnectRequest.map (.ofResult fun r => .send (.disconnectRequest r)) id
  | .disconnectResponse response =>
    (s.onDisconnectResponse response).map (.ofResult fun _ => .done) id
  | .gatewayDisconnect request =>
    (s.onDisconnectRequest request).map (.ofResult fun r => .send (.disconnectResponse r)) id
  | .forceDisconnected => s.forceDisconnected.map .ended id
  | .recordActivity now => (.silent, s.recordActivity now)

/-- The session after a sequence of operations. -/
def run (s : Session) (operations : List Operation) : Session :=
  operations.foldl (fun s op => (s.perform op).2) s

/-- Send a message so many times, each of them acknowledged at once: the numbers under
which it was sent. -/
def exchange (message : Cemi) (now : Nat) : Nat → Session → Except Fault (List UInt8 × Session)
  | 0, s => .ok ([], s)
  | times + 1, s => do
    let (result, s) := s.tunnelingRequest message
    let request ← result
    let (result, s) := s.onTunnelingAck (request.ack 0) now
    result
    let (numbers, s) ← exchange message now times s
    pure (request.sequence :: numbers, s)

/-- The operation that a frame of the gateway is, if a client has one for it. -/
def Operation.ofFrame? (frame : Frame) (now : Nat) : Option Operation :=
  match frame with
  | .connectResponse b => some (.connectResponse b now)
  | .connectionStateResponse b => some (.heartbeatResponse b now)
  | .disconnectRequest b => some (.gatewayDisconnect b)
  | .disconnectResponse b => some (.disconnectResponse b)
  | .tunnelingRequest b => some (.inbound b now)
  | .tunnelingAck b => some (.tunnelingAck b now)
  | .connectRequest _ => none
  | .connectionStateRequest _ => none

end KnxIp.Session
