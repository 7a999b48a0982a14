import KnxIp.Region

/-!
# The header of a frame

Every datagram between a gateway and its client is one frame, and every frame starts
with six octets: the length of this header, the version of the protocol, the service,
and the number of octets of the whole frame. A header is valid only in front of as many
octets as it announces.
-/

namespace KnxIp

/-- The number of octets of a header, which is also its first octet. -/
def headerSize : UInt8 := 6

/-- The version of the protocol. -/
def protocolVersion : UInt8 := 0x10

/-- **The services of a tunnel.** -/
inductive Service
  | connectRequest
  | connectResponse
  | connectionStateRequest
  | connectionStateResponse
  | disconnectRequest
  | disconnectResponse
  | tunnelingRequest
  | tunnelingAck
  deriving DecidableEq

namespace Service

/-- Every service once. -/
def all : List Service :=
  [.connectRequest, .connectResponse, .connectionStateRequest, .connectionStateResponse,
    .disconnectRequest, .disconnectResponse, .tunnelingRequest, .tunnelingAck]

/-- The code of a service. -/
def code : Service → UInt16
  | .connectRequest => 0x0205
  | .connectResponse => 0x0206
  | .connectionStateRequest => 0x0207
  | .connectionStateResponse => 0x0208
  | .disconnectRequest => 0x0209
  | .disconnectResponse => 0x020A
  | .tunnelingRequest => 0x0420
  | .tunnelingAck => 0x0421

/-- The service with this code, if a tunnel has one. -/
def ofCode? (code : UInt16) : Option Service := all.find? fun s => s.code = code

/-- The name of a service. -/
def name : Service → String
  | .connectRequest => "ConnectRequest"
  | .connectResponse => "ConnectResponse"
  | .connectionStateRequest => "ConnectionStateRequest"
  | .connectionStateResponse => "ConnectionStateResponse"
  | .disconnectRequest => "DisconnectRequest"
  | .disconnectResponse => "DisconnectResponse"
  | .tunnelingRequest => "TunnelingRequest"
  | .tunnelingAck => "TunnelingAck"

theorem ofCode?_code (s : Service) : ofCode? s.code = some s := by cases s <;> rfl

end Service

/-- **The header of a frame.** -/
structure Header where
  service : Service
  /-- The number of octets of header and body together. -/
  totalLength : UInt16
  deriving DecidableEq

namespace Header

/-- The header in front of a body of this length. A length that the word cannot hold
becomes the greatest that it can. -/
def ofBodyLength (service : Service) (length : Nat) : Header :=
  ⟨service, UInt16.ofNat (min (length + 6) 65535)⟩

/-- The length of the body that the header announces; nothing, if it announces less
than a header. -/
def bodyLength (h : Header) : Nat := h.totalLength.toNat - 6

/-- The octets of a header. -/
def wire (h : Header) : List UInt8 :=
  headerSize :: protocolVersion :: (wordOctets h.service.code ++ wordOctets h.totalLength)

theorem length_wire (h : Header) : h.wire.length = 6 := rfl

/-- Write a header into a buffer. -/
def fill (h : Header) (r : Region) : Except Fault Region := r.put h.wire

/-- Read the header of a whole datagram, and take it off. The form and the length are
checked before the service. -/
def read (datagram : List UInt8) : Except Fault (Header × List UInt8) :=
  match datagram with
  | size :: version :: serviceHigh :: serviceLow :: high :: low :: body =>
    if size ≠ headerSize ∨ version ≠ protocolVersion ∨
        (word high low).toNat ≠ datagram.length then
      .error (.decode .malformedHeader)
    else
      match Service.ofCode? (word serviceHigh serviceLow) with
      | some service => .ok (⟨service, word high low⟩, body)
      | none => .error (.decode .unknownServiceType)
  | _ => .error (.decode .malformedHeader)

end Header

end KnxIp
