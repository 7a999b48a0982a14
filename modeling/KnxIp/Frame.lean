import KnxIp.Cemi.Wire
import KnxIp.Frame.Header
import KnxIp.Frame.Hpai

/-!
# Frames

A client opens a session with a *connect* request and ends it with a *disconnect*
request, and from time to time asks with a *connection state* request whether the
gateway still knows it; each of them has a response. In between, either side sends
messages for the bus in *tunnelling* requests, each of which the other side
acknowledges. The gateway names a session by a *channel*, and the tunnelling requests of
each side carry a sequence number.

```
client                             gateway
  | ------- connect request -------> |
  | <------ connect response ------- |
  | ------ tunnelling request -----> |
  | <------ tunnelling ack --------- |
  | <----- tunnelling request ------ |   from the bus
  | ------- tunnelling ack --------> |
  | --- connection state request --> |   once a minute
  | <-- connection state response -- |
  | ----- disconnect request ------> |
  | <---- disconnect response ------ |
```

How frames are written and read is in `KnxIp.Frame.Wire`.
-/

namespace KnxIp

/-- The code of a tunnel among the types of connection. -/
def tunnelConnection : UInt8 := 4

/-- The code of the link layer among the layers that a tunnel reaches. -/
def linkLayer : UInt8 := 2

/-- **What kind of connection a client asks for.** -/
structure Cri where
  connectionType : UInt8
  layer : UInt8
  deriving DecidableEq

/-- A tunnel to the link layer of the bus. -/
def Cri.tunnel : Cri := ⟨tunnelConnection, linkLayer⟩

/-- **What a gateway grants**: a kind of connection, and an address on the bus. -/
structure Crd where
  connectionType : UInt8
  address : IndividualAddress
  deriving DecidableEq

/-- A tunnel with this address on the bus. -/
def Crd.tunnel (address : IndividualAddress) : Crd := ⟨tunnelConnection, address⟩

/-- **Asks for a session.** -/
structure ConnectRequest where
  /-- Where the client receives control frames. -/
  control : Hpai
  /-- Where the client receives tunnelling frames. -/
  data : Hpai
  cri : Cri
  deriving DecidableEq

/-- **Grants or refuses a session.** A refusal may leave out the endpoint and the
grant. -/
structure ConnectResponse where
  channel : UInt8
  /-- Zero for a session that is granted. -/
  status : UInt8
  /-- Where the gateway receives tunnelling frames. -/
  data : Option Hpai
  crd : Option Crd
  deriving DecidableEq

/-- Whether the session is granted. -/
def ConnectResponse.isOk (r : ConnectResponse) : Bool := r.status = 0

/-- The address on the bus that the gateway gives to the tunnel. -/
def ConnectResponse.assigned? (r : ConnectResponse) : Option IndividualAddress :=
  r.crd.map Crd.address

/-- **A question about a channel**: whether the gateway knows it, or to close it. -/
structure ChannelRequest where
  channel : UInt8
  control : Hpai
  deriving DecidableEq

/-- **An answer about a channel.** -/
structure ChannelResponse where
  channel : UInt8
  status : UInt8
  deriving DecidableEq

/-- **Acknowledges a tunnelling request.** -/
structure TunnelingAck where
  channel : UInt8
  sequence : UInt8
  status : UInt8
  deriving DecidableEq

/-- Whether the request was taken. -/
def TunnelingAck.isOk (a : TunnelingAck) : Bool := a.status = 0

/-- **Carries a message.** The message stays a string of octets here, because a request
has to be acknowledged also when its message cannot be read. -/
structure TunnelingRequest where
  channel : UInt8
  sequence : UInt8
  message : Octets maxCemiSize
  deriving DecidableEq

namespace TunnelingRequest

/-- The request that carries these octets. -/
def ofOctets (channel sequence : UInt8) (message : List UInt8) : Except Fault TunnelingRequest :=
  (Octets.ofList (.decode .invalidCemi) message).map fun message => ⟨channel, sequence, message⟩

/-- The request that carries a message. -/
def ofCemi (channel sequence : UInt8) (c : Cemi) : TunnelingRequest :=
  ⟨channel, sequence, c.octets⟩

/-- The message, if it can be read. -/
def cemi (r : TunnelingRequest) : Except Fault Cemi := Cemi.parse r.message.toList

/-- The acknowledgement of the request. -/
def ack (r : TunnelingRequest) (status : UInt8) : TunnelingAck :=
  ⟨r.channel, r.sequence, status⟩

end TunnelingRequest

/-- **A frame.** -/
inductive Frame
  | connectRequest (body : ConnectRequest)
  | connectResponse (body : ConnectResponse)
  | connectionStateRequest (body : ChannelRequest)
  | connectionStateResponse (body : ChannelResponse)
  | disconnectRequest (body : ChannelRequest)
  | disconnectResponse (body : ChannelResponse)
  | tunnelingRequest (body : TunnelingRequest)
  | tunnelingAck (body : TunnelingAck)
  deriving DecidableEq

namespace Frame

/-- The service of a frame. -/
def service : Frame → Service
  | .connectRequest _ => .connectRequest
  | .connectResponse _ => .connectResponse
  | .connectionStateRequest _ => .connectionStateRequest
  | .connectionStateResponse _ => .connectionStateResponse
  | .disconnectRequest _ => .disconnectRequest
  | .disconnectResponse _ => .disconnectResponse
  | .tunnelingRequest _ => .tunnelingRequest
  | .tunnelingAck _ => .tunnelingAck

/-- The channel of a frame; only a connect request has none. -/
def channel? : Frame → Option UInt8
  | .connectRequest _ => none
  | .connectResponse b => some b.channel
  | .connectionStateRequest b => some b.channel
  | .connectionStateResponse b => some b.channel
  | .disconnectRequest b => some b.channel
  | .disconnectResponse b => some b.channel
  | .tunnelingRequest b => some b.channel
  | .tunnelingAck b => some b.channel

end Frame

end KnxIp
