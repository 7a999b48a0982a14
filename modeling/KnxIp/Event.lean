import KnxIp.Cemi
import KnxIp.Dpt.Value
import KnxIp.Fault
import KnxIp.Net

/-!
# Events

What a client reports to whoever listens: how its session goes, every fault that no
caller is waiting for, and every telegram that the gateway has seen on the bus.
-/

namespace KnxIp

/-- **Why a session ended.** -/
inductive EndReason
  /-- The client asked for it. -/
  | requested
  /-- The gateway asked for it. -/
  | gatewayRequest
  /-- Heartbeats went unanswered, or the gateway no longer knew the channel. -/
  | heartbeatLost
  /-- A datagram could not be sent or received. -/
  | transportError
  deriving DecidableEq

/-- The name of a reason. -/
def EndReason.name : EndReason → String
  | .requested => "Requested"
  | .gatewayRequest => "GatewayRequest"
  | .heartbeatLost => "HeartbeatLost"
  | .transportError => "TransportError"

/-- **A telegram that was seen on the bus.** -/
structure BusEvent where
  source : IndividualAddress
  destination : Address
  apci : Apci
  data : Apdu
  /-- The data as the datapoint type reads it that is bound to the destination. -/
  value : Option Value
  deriving DecidableEq

/-- **An event.** -/
inductive Event
  | connecting (gateway : Endpoint)
  | connected (channel : UInt8)
  | disconnected (reason : EndReason)
  | fault (fault : Fault)
  | bus (event : BusEvent)
  deriving DecidableEq

end KnxIp
