import KnxIp.Socket

/-!
# A simulated gateway

The other side of a simulated network: what a client sends waits here until somebody
plays the gateway and takes it. `KnxIp.Gateway.Answer` is the three ways to play it that
need no thought – to accept a connect request, to refuse one, and to acknowledge a
tunnelling request.
-/

namespace KnxIp

/-- **A simulated gateway.** -/
structure Gateway where
  /-- Where it sends from. -/
  endpoint : Endpoint
  /-- What clients have sent, the oldest first. -/
  received : Queue Datagram datagramQueueDepth
  deriving DecidableEq

namespace Gateway

/-- A gateway that has received nothing. -/
def fresh (endpoint : Endpoint) : Gateway := ⟨endpoint, .empty⟩

/-- A client sends a datagram. The oldest one that nobody has taken makes room for it. -/
def receive (g : Gateway) (d : Datagram) : Gateway :=
  { g with received := g.received.pushEvicting d }

/-- Take the oldest datagram. -/
def take? (g : Gateway) : Option (Datagram × Gateway) :=
  g.received.pop?.map fun (d, received) => (d, { g with received := received })

/-- A datagram from the gateway. -/
def datagram (g : Gateway) (frame : Frame) : Datagram := ⟨frame.octets, g.endpoint⟩

/-- The address on the bus that the gateway gives to every tunnel. -/
def tunnelAddress : IndividualAddress := ⟨0x11FF⟩

/-- **A way to answer the next datagram.** -/
inductive Answer
  /-- Grant the session that it asks for. -/
  | accept (channel : UInt8)
  /-- Refuse the session that it asks for. -/
  | reject (status : UInt8)
  /-- Acknowledge the message that it carries. -/
  | acknowledge (status : UInt8)
  deriving DecidableEq

/-- The frame in a datagram that is to be answered, and the reply. -/
def reply (g : Gateway) (answer : Answer) (d : Datagram) : Except Fault (Frame × Frame) := do
  let frame ← Frame.decode d.octets.toList
  match answer, frame with
  | .accept channel, .connectRequest _ =>
    pure (frame,
      .connectResponse
        ⟨channel, 0, some (Hpai.ofEndpoint g.endpoint), some (Crd.tunnel tunnelAddress)⟩)
  | .reject status, .connectRequest _ => pure (frame, .connectResponse ⟨0, status, none, none⟩)
  | .acknowledge status, .tunnelingRequest request =>
    pure (frame, .tunnelingAck (request.ack status))
  | _, _ => .error (.protocol .unexpectedFrame)

end Gateway

end KnxIp
