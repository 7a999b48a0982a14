import KnxIp.Frame

/-!
# The session of a tunnel

`KnxIp.Session` is what a client remembers of its connection to a gateway. It does no
input or output and keeps no time: each operation takes a frame that arrived, or the
fact that a wait ran out, and gives the frame to send or the fault.

```
              connectRequest
disconnected ----------------> connecting
     ^  ^  ^                       | onConnectResponse
     |  |  '--- refused, expired --'
     |  |                          v
     |  '------ heartbeat lost -- connected <--> heartbeatPending
     |                             | disconnectRequest
     '---- response, expired -- disconnecting
```

Tunnelling requests may be sent while the session is connected, whether or not a
heartbeat is pending. At most one of them is outstanding, and the number of the next one
moves on only when the outstanding one is acknowledged with status zero.
-/

namespace KnxIp

/-- **How far a connection has got.** -/
inductive Status
  | disconnected
  /-- A connect request is under way. -/
  | connecting
  | connected
  /-- Connected, with a heartbeat that has not been answered. -/
  | heartbeatPending
  /-- A disconnect request is under way. -/
  | disconnecting
  deriving DecidableEq

namespace Status

/-- Whether tunnelling requests may be sent. -/
def isConnected : Status → Bool
  | .connected => true
  | .heartbeatPending => true
  | _ => false

/-- The name of a status. -/
def name : Status → String
  | .disconnected => "Disconnected"
  | .connecting => "Connecting"
  | .connected => "Connected"
  | .heartbeatPending => "HeartbeatPending"
  | .disconnecting => "Disconnecting"

end Status

/-- **A session.** -/
structure Session where
  status : Status
  /-- The channel that the gateway gave; of meaning while connected. -/
  channel : UInt8
  /-- The number of the next tunnelling request that the client sends. -/
  sendSequence : UInt8
  /-- The number that the next tunnelling request of the gateway should have. -/
  recvSequence : UInt8
  /-- When the last frame of the channel came. -/
  lastActivity : Option Nat
  /-- What the client announces as its own endpoint. -/
  control : Hpai
  /-- The number of the tunnelling request whose acknowledgement is awaited. -/
  outstanding : Option UInt8
  /-- How many heartbeats in a row have gone unanswered. -/
  misses : Nat
  /-- How many of them make the session count as lost. -/
  missLimit : Nat
  /-- The address on the bus that the gateway gave. -/
  assigned : Option IndividualAddress
  deriving DecidableEq

/-- **What an unanswered heartbeat leads to.** -/
inductive HeartbeatOutcome
  /-- Ask again. -/
  | retry (request : ChannelRequest)
  /-- The session is lost. -/
  | lost
  /-- No heartbeat was pending any more. -/
  | stale
  deriving DecidableEq

namespace Session

/-- A session that has not been opened. At least one heartbeat has to be missed before
it counts as lost. -/
def fresh (control : Hpai) (maxMisses : UInt8) : Session where
  status := .disconnected
  channel := 0
  sendSequence := 0
  recvSequence := 0
  lastActivity := none
  control := control
  outstanding := none
  misses := 0
  missLimit := max 1 maxMisses.toNat
  assigned := none

/-- The channel, while connected. -/
def openChannel? (s : Session) : Option UInt8 :=
  if s.status.isConnected then some s.channel else none

/-- Whether a tunnelling request awaits its acknowledgement. -/
def isAwaitingAck (s : Session) : Bool := s.outstanding.isSome

/-- The session after a frame of its channel came. -/
def recordActivity (s : Session) (now : Nat) : Session := { s with lastActivity := some now }

/-- The session after it ended, however it ended. -/
def closed (s : Session) : Session :=
  { s with status := .disconnected, outstanding := none, misses := 0 }

/-- End the session, and say whether it had not ended before: whoever ends it reports
the end. -/
def forceDisconnected (s : Session) : Bool × Session :=
  (s.status ≠ .disconnected, s.closed)

/-! ### Opening -/

/-- Ask for a session. -/
def connectRequest (s : Session) : Except Fault ConnectRequest × Session :=
  if s.status = .disconnected then
    (.ok ⟨s.control, s.control, .tunnel⟩, { s with status := .connecting })
  else
    (.error (.connection .invalidState), s)

/-- The gateway grants or refuses the session. A session that is granted starts anew in
everything but the endpoint and the limit of the client. -/
def onConnectResponse (s : Session) (response : ConnectResponse) (now : Nat) :
    Except Fault UInt8 × Session :=
  if s.status ≠ .connecting then
    (.error (.protocol .unexpectedFrame), s)
  else if response.status ≠ 0 then
    (.error (.connection (.rejected response.status)), { s with status := .disconnected })
  else
    (.ok response.channel,
      { s with
        status := .connected
        channel := response.channel
        sendSequence := 0
        recvSequence := 0
        lastActivity := some now
        outstanding := none
        misses := 0
        assigned := response.assigned? })

/-- The wait for a response ran out. -/
def connectExpired (s : Session) : Session :=
  if s.status = .connecting then { s with status := .disconnected } else s

/-! ### Tunnelling -/

/-- Send a message. The request stays outstanding, under the same number however often
it is repeated, until it is acknowledged or given up. -/
def tunnelingRequest (s : Session) (message : Cemi) : Except Fault TunnelingRequest × Session :=
  if ¬ s.status.isConnected then
    (.error (.connection .notConnected), s)
  else if s.outstanding.isSome then
    (.error (.connection .invalidState), s)
  else
    (.ok (.ofCemi s.channel s.sendSequence message), { s with outstanding := some s.sendSequence })

/-- The gateway acknowledges. Only a request that is outstanding under the number of the
acknowledgement is concerned; any status but zero gives it up. -/
def onTunnelingAck (s : Session) (ack : TunnelingAck) (now : Nat) : Except Fault Unit × Session :=
  if ¬ s.status.isConnected then
    (.error (.protocol .unexpectedFrame), s)
  else if ack.channel ≠ s.channel then
    (.error (.protocol .channelMismatch), s)
  else
    let s := s.recordActivity now
    match s.outstanding with
    | none => (.error (.protocol .unexpectedFrame), s)
    | some expected =>
      if ack.sequence ≠ expected then
        (.error (.protocol .sequenceMismatch), s)
      else if ack.status ≠ 0 then
        (.error (.tunneling (.ackStatus ack.status)), { s with outstanding := none })
      else
        (.ok (), { s with outstanding := none, sendSequence := s.sendSequence + 1 })

/-- Give up the outstanding request. -/
def abandonRequest (s : Session) : Session := { s with outstanding := none }

/-- The gateway sends a message. Its numbers are its own, so the client follows them. -/
def onTunnelingRequest (s : Session) (request : TunnelingRequest) (now : Nat) :
    Except Fault TunnelingAck × Session :=
  if ¬ s.status.isConnected then
    (.error (.connection .notConnected), s)
  else if request.channel ≠ s.channel then
    (.error (.protocol .channelMismatch), s)
  else
    (.ok (request.ack 0),
      { s.recordActivity now with recvSequence := request.sequence + 1 })

/-! ### Heartbeats -/

/-- The question whether the gateway knows the channel. -/
def stateRequest (s : Session) : ChannelRequest := ⟨s.channel, s.control⟩

/-- Ask whether the gateway knows the channel. -/
def heartbeatRequest (s : Session) : Except Fault ChannelRequest × Session :=
  if ¬ s.status.isConnected then
    (.error (.connection .notConnected), s)
  else
    (.ok s.stateRequest, { s with status := .heartbeatPending })

/-- The gateway answers a heartbeat. Any status but zero says that it does not know the
channel, which ends the session. -/
def onHeartbeatResponse (s : Session) (response : ChannelResponse) (now : Nat) :
    Except Fault Unit × Session :=
  if s.status ≠ .heartbeatPending then
    (.error (.protocol .unexpectedFrame), s)
  else if response.channel ≠ s.channel then
    (.error (.protocol .channelMismatch), s)
  else
    let s := s.recordActivity now
    if response.status ≠ 0 then
      (.error (.connection .lost), s.closed)
    else
      (.ok (), { s with misses := 0, status := .connected })

/-- The wait for the answer to a heartbeat ran out. -/
def heartbeatMissed (s : Session) : HeartbeatOutcome × Session :=
  if s.status ≠ .heartbeatPending then
    (.stale, s)
  else if s.missLimit ≤ s.misses + 1 then
    (.lost, s.closed)
  else
    (.retry s.stateRequest, { s with misses := s.misses + 1 })

/-! ### Closing -/

/-- Ask to end the session. An outstanding request is given up. -/
def disconnectRequest (s : Session) : Except Fault ChannelRequest × Session :=
  if ¬ s.status.isConnected then
    (.error (.connection .notConnected), s)
  else
    (.ok ⟨s.channel, s.control⟩, { s with status := .disconnecting, outstanding := none })

/-- The gateway has ended the session as it was asked to. -/
def onDisconnectResponse (s : Session) (response : ChannelResponse) :
    Except Fault Unit × Session :=
  if s.status ≠ .disconnecting then
    (.error (.protocol .unexpectedFrame), s)
  else if response.channel ≠ s.channel then
    (.error (.protocol .channelMismatch), s)
  else
    (.ok (), s.closed)

/-- The gateway ends the session. -/
def onDisconnectRequest (s : Session) (request : ChannelRequest) :
    Except Fault ChannelResponse × Session :=
  if ¬ s.status.isConnected ∧ s.status ≠ .disconnecting then
    (.error (.protocol .unexpectedFrame), s)
  else if request.channel ≠ s.channel then
    (.error (.protocol .channelMismatch), s)
  else
    (.ok ⟨request.channel, 0⟩, s.closed)

end Session

end KnxIp
