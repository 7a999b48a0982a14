import KnxIp.Client

/-!
# Receiving

The *dispatcher* receives datagrams for as long as a client runs. What does not come
from the gateway is passed over, what cannot be read is published as a fault, and every
frame is handed to the session. Telegrams from the bus then go to the registry, and to
whoever listens.

Nothing that arrives stops the dispatcher. After a receive that failed it rests for a
moment, so that a dead socket does not keep it busy.
-/

namespace KnxIp

/-- How long the dispatcher rests after a receive that failed. -/
def receiveBackoff : Nat := 100

namespace Client

/-! ### Telegrams from the bus -/

/-- **Deliver a telegram**: a telegram for a group goes to the registry, and every
telegram with a service is published, with the value that the registry read in it. -/
def route (c : Client) (t : Telegram) : Client :=
  match t.apci with
  | none => c
  | some apci =>
    let (value, registry) :=
      match t.destination, apci.groupService? with
      | .group address, some service => c.registry.onTelegram service address t.data
      | _, _ => (none, c.registry)
    { c with registry := registry }.publish
      (.bus ⟨t.source, t.destination, apci, t.data, value⟩)

/-! ### Frames from the gateway -/

/-- The gateway answers a connect request. Tunnelling frames go where a granted session
says, or to the gateway if it does not say. -/
def onConnectResponse (c : Client) (response : ConnectResponse) : Client :=
  let (result, session) := c.session.onConnectResponse response c.now
  let c := { c with session := session }
  match result with
  | .ok channel =>
    let dataEndpoint :=
      match response.data with
      | some data => if data.isUnspecified then c.config.gateway else data.endpoint
      | none => c.config.gateway
    let c := { c with dataEndpoint := dataEndpoint, sessionUp := true }.publish (.connected channel)
    { c with connectDone := some (.ok channel) }
  | .error f => if f.isProtocol then c else { c with connectDone := some (.error f) }

/-- The gateway answers a heartbeat. -/
def onHeartbeatResponse (c : Client) (response : ChannelResponse) : Client :=
  let (result, session) := c.session.onHeartbeatResponse response c.now
  let c := { c with session := session }
  match result with
  | .ok () => { c with heartbeatDone := some (.ok ()) }
  | .error f => if f.isProtocol then c else c.sessionLost .heartbeatLost

/-- The gateway ends the session. It is answered first; whether that succeeds makes no
difference. -/
def onDisconnectRequest (c : Client) (request : ChannelRequest) : Client :=
  let (result, session) := c.session.onDisconnectRequest request
  let c := { c with session := session }
  match result with
  | .ok response =>
    (c.transmitFrame (.disconnectResponse response) c.config.gateway).2.sessionLost .gatewayRequest
  | .error _ => c

/-- The gateway has ended the session as it was asked to. -/
def onDisconnectResponse (c : Client) (response : ChannelResponse) : Client :=
  let (result, session) := c.session.onDisconnectResponse response
  let c := { c with session := session }
  match result with
  | .ok () => c.sessionLost .requested
  | .error _ => c

/-- The gateway acknowledges a request. An acknowledgement that fits no request is
published as a fault. -/
def onTunnelingAck (c : Client) (ack : TunnelingAck) : Client :=
  let (result, session) := c.session.onTunnelingAck ack c.now
  let c := { c with session := session }
  match result with
  | .ok () => { c with ackDone := some (.ok ()) }
  | .error f => if f.isTunneling then { c with ackDone := some (.error f) } else c.publishFault f

/-- The message of a request whose acknowledgement has been sent. A confirmation is left
for the sender, a telegram from the bus is delivered, and a message that cannot be read
is published as a fault. -/
def onMessage (c : Client) (message : Except Fault Cemi) : Client :=
  match message with
  | .error f => c.publishFault f
  | .ok m =>
    match m.code with
    | .confirmation =>
      { c with
        confirmation :=
          some (if m.telegram.control1.hasError then .error (.tunneling .negativeConfirmation)
            else .ok ()) }
    | .indication => c.route m.telegram
    | .request => c

/-- The gateway sends a message. It is acknowledged first, also if it cannot be read. -/
def onTunnelingRequest (c : Client) (request : TunnelingRequest) : Client :=
  let (result, session) := c.session.onTunnelingRequest request c.now
  let c := { c with session := session }
  match result with
  | .ok ack => (c.transmitFrame (.tunnelingAck ack) c.dataEndpoint).2.onMessage request.cemi
  | .error _ => c

/-- **A frame came from the gateway.** Requests that only a client makes are passed
over. -/
def onFrame (c : Client) : Frame → Client
  | .connectResponse b => c.onConnectResponse b
  | .connectionStateResponse b => c.onHeartbeatResponse b
  | .disconnectRequest b => c.onDisconnectRequest b
  | .disconnectResponse b => c.onDisconnectResponse b
  | .tunnelingRequest b => c.onTunnelingRequest b
  | .tunnelingAck b => c.onTunnelingAck b
  | .connectRequest _ => c
  | .connectionStateRequest _ => c

/-- **A datagram came.** -/
def onDatagram (c : Client) (d : Datagram) : Client :=
  if c.isGateway d.peer then
    match Frame.decode d.octets.toList with
    | .ok frame => c.onFrame frame
    | .error f => c.publishFault f
  else
    c

end Client

/-! ### The activity -/

/-- **What the dispatcher waits for.** -/
inductive Dispatcher
  /-- The next datagram. -/
  | receiving
  /-- The end of its rest. -/
  | resting (deadline : Nat)
  deriving DecidableEq

namespace Dispatcher

/-- Receive as often as there is something to receive, at most `attempts` times. A
datagram that is too long is published as a fault and done with; any other failure fails
the socket, and the dispatcher rests. -/
def receive (c : Client) : Nat → Dispatcher × Client
  | 0 => (.receiving, c)
  | attempts + 1 =>
    match c.socket.receive? with
    | none => (.receiving, c)
    | some (.ok d, socket) => receive ({ c with socket := socket }.onDatagram d) attempts
    | some (.error f, socket) =>
      let c := { c with socket := socket }
      if f = .transport .bufferTooSmall then
        receive (c.publishFault f) attempts
      else
        (.resting (c.now + receiveBackoff), c.transportFailed f)

/-- Run the dispatcher until it has to wait. -/
def poll (d : Dispatcher) (c : Client) : Dispatcher × Client :=
  match d with
  | .receiving => receive c c.socket.waiting
  | .resting deadline =>
    if deadline ≤ c.now then receive c c.socket.waiting else (.resting deadline, c)

end Dispatcher

end KnxIp
