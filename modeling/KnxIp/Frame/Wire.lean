import KnxIp.Frame

/-!
# Frames as octets

A frame is a header and the body of its service. As with messages there are two ways to
write: `KnxIp.Frame.wire` says what the octets are, and `KnxIp.Frame.encode` fills a
buffer part by part – the body behind a gap of six octets, then the header, once the
length of the body is known. `KnxIp.Frame.encode_eq` says that the two agree: a buffer
that is long enough begins with the octets of the frame and is otherwise as it was, and
one that is not is refused.

Reading is strict about the header, about the lengths of the structures in a body, and
about what has to be there. It is lenient about the rest: octets behind a body and
reserved octets are passed over.
-/

namespace KnxIp

/-- The greatest number of octets of a frame. -/
def maxFrameSize : Nat := 256

/-! ### The structures of a connection -/

namespace Cri

/-- The octets of the structure, of which the first is their number and the last is
reserved. -/
def wire (c : Cri) : List UInt8 := [4, c.connectionType, c.layer, 0]

/-- Take the structure off the front of a string. -/
def read : List UInt8 → Except Fault (Cri × List UInt8)
  | size :: connectionType :: layer :: _ :: rest =>
    if size = 4 then .ok (⟨connectionType, layer⟩, rest)
    else .error (.decode .truncatedBody)
  | _ => .error (.decode .truncatedBody)

theorem read_wire_append (c : Cri) (rest : List UInt8) :
    read (c.wire ++ rest) = .ok (c, rest) := by
  simp [wire, read]

end Cri

namespace Crd

/-- The octets of the structure, of which the first is their number. -/
def wire (c : Crd) : List UInt8 := 4 :: c.connectionType :: wordOctets c.address.raw

/-- Take the structure off the front of a string. -/
def read : List UInt8 → Except Fault (Crd × List UInt8)
  | size :: connectionType :: high :: low :: rest =>
    if size = 4 then .ok (⟨connectionType, ⟨word high low⟩⟩, rest)
    else .error (.decode .truncatedBody)
  | _ => .error (.decode .truncatedBody)

theorem read_wire_append (c : Crd) (rest : List UInt8) :
    read (c.wire ++ rest) = .ok (c, rest) := by
  simp [wire, read, wordOctets, word_highOctet_lowOctet]

end Crd

/-- The number of octets of the head of a tunnelling frame, which is also its first
octet. -/
def connectionHeaderSize : UInt8 := 4

/-- **The head of a tunnelling frame**: which session it belongs to, which request of
that session it is or answers, and what the answer is. -/
structure ConnectionHeader where
  channel : UInt8
  sequence : UInt8
  /-- The answer; reserved in a request. -/
  status : UInt8
  deriving DecidableEq

namespace ConnectionHeader

/-- The octets of the head. -/
def wire (h : ConnectionHeader) : List UInt8 :=
  [connectionHeaderSize, h.channel, h.sequence, h.status]

/-- Take the head off the front of a string. -/
def read : List UInt8 → Except Fault (ConnectionHeader × List UInt8)
  | size :: channel :: sequence :: status :: rest =>
    if size = connectionHeaderSize then .ok (⟨channel, sequence, status⟩, rest)
    else .error (.decode .truncatedBody)
  | _ => .error (.decode .truncatedBody)

theorem read_wire_append (h : ConnectionHeader) (rest : List UInt8) :
    read (h.wire ++ rest) = .ok (h, rest) := by
  simp [wire, read]

end ConnectionHeader

/-- The head of a tunnelling request. -/
def TunnelingRequest.header (r : TunnelingRequest) : ConnectionHeader :=
  ⟨r.channel, r.sequence, 0⟩

/-- The head of a tunnelling acknowledgement. -/
def TunnelingAck.header (a : TunnelingAck) : ConnectionHeader :=
  ⟨a.channel, a.sequence, a.status⟩

/-! ### Writing -/

/-- What a connect response says behind its status. Endpoint and grant are written
together or not at all. -/
def ConnectResponse.tail (r : ConnectResponse) : List UInt8 :=
  match r.data, r.crd with
  | some data, some crd => data.wire ++ crd.wire
  | _, _ => []

namespace Frame

/-- **The octets of a body.** -/
def bodyWire : Frame → List UInt8
  | .connectRequest b => b.control.wire ++ (b.data.wire ++ b.cri.wire)
  | .connectResponse b => [b.channel, b.status] ++ b.tail
  | .connectionStateRequest b => [b.channel, 0] ++ b.control.wire
  | .connectionStateResponse b => [b.channel, b.status]
  | .disconnectRequest b => [b.channel, 0] ++ b.control.wire
  | .disconnectResponse b => [b.channel, b.status]
  | .tunnelingRequest b => b.header.wire ++ b.message.toList
  | .tunnelingAck b => b.header.wire

theorem length_bodyWire_le (f : Frame) : f.bodyWire.length ≤ 68 := by
  cases f with
  | connectResponse b =>
    have h : b.tail.length ≤ 12 := by
      unfold ConnectResponse.tail
      split <;> simp [Hpai.length_wire, Crd.wire, length_wordOctets]
    simp [bodyWire]
    omega
  | tunnelingRequest b =>
    have h : b.message.toList.length ≤ 64 := b.message.length_le
    simp [bodyWire, ConnectionHeader.wire]
    omega
  | _ => simp [bodyWire, Hpai.length_wire, Cri.wire, ConnectionHeader.wire]

/-- The header of a frame. -/
def header (f : Frame) : Header := .ofBodyLength f.service f.bodyWire.length

/-- **The octets of a frame.** -/
def wire (f : Frame) : List UInt8 := f.header.wire ++ f.bodyWire

theorem length_wire (f : Frame) : f.wire.length = 6 + f.bodyWire.length := by
  simp [wire, Header.length_wire]

theorem length_wire_le (f : Frame) : f.wire.length ≤ maxFrameSize := by
  have h := f.length_bodyWire_le
  rw [length_wire]
  unfold maxFrameSize
  omega

/-- The octets of a frame, which are never too many. -/
def octets (f : Frame) : Octets maxFrameSize := ⟨f.wire, f.length_wire_le⟩

/-- Write a body into a buffer. -/
def fillBody (f : Frame) (r : Region) : Except Fault Region :=
  match f with
  | .connectRequest b => do
    let r ← b.control.fill r
    let r ← b.data.fill r
    r.put b.cri.wire
  | .connectResponse b => do
    let r ← r.put [b.channel, b.status]
    match b.data, b.crd with
    | some data, some crd => do
      let r ← data.fill r
      r.put crd.wire
    | _, _ => pure r
  | .connectionStateRequest b => do
    let r ← r.put [b.channel, 0]
    b.control.fill r
  | .connectionStateResponse b => r.put [b.channel, b.status]
  | .disconnectRequest b => do
    let r ← r.put [b.channel, 0]
    b.control.fill r
  | .disconnectResponse b => r.put [b.channel, b.status]
  | .tunnelingRequest b => do
    let r ← r.put b.header.wire
    r.put b.message.toList
  | .tunnelingAck b => r.put b.header.wire

theorem fillBody_eq_put_bodyWire (f : Frame) (r : Region) :
    f.fillBody r = r.put f.bodyWire := by
  cases f with
  | connectRequest b =>
    simp only [fillBody, bodyWire, Region.put_append, Hpai.fill, bind]
    cases r.put b.control.wire with
    | error f => rfl
    | ok s => simp only [Except.bind, Region.put_append]
  | connectResponse b =>
    simp only [fillBody, bodyWire, Region.put_append, Hpai.fill, bind, ConnectResponse.tail]
    cases r.put [b.channel, b.status] with
    | error f => rfl
    | ok s =>
      simp only [Except.bind]
      split
      · rw [Region.put_append]
        rfl
      · rw [Region.put_nil]
        rfl
  | _ => simp only [fillBody, bodyWire, Region.put_append, Hpai.fill, bind]

/-- Write a body into a caller's buffer: the number of octets written, and what the
buffer holds afterwards. -/
def encodeBody (f : Frame) (buffer : List UInt8) : Except Fault (Nat × List UInt8) := do
  let r ← f.fillBody (Region.ofBuffer buffer)
  pure (r.written.length, r.content)

/-- Write a frame into a caller's buffer: the number of octets written, and what the
buffer holds afterwards. The body is written first, behind the six octets that the
header will take. -/
def encode (f : Frame) (buffer : List UInt8) : Except Fault (Nat × List UInt8) :=
  if buffer.length < 6 then
    .error (.transport .bufferTooSmall)
  else do
    let body ← f.fillBody (Region.ofBuffer (buffer.drop 6))
    let length := body.written.length
    let header ← (Header.ofBodyLength f.service length).fill (Region.ofBuffer (buffer.take 6))
    pure (6 + length, header.content ++ body.content)

/-- Write a frame into a fresh buffer of the greatest size. -/
def toBytes (f : Frame) : Except Fault (List UInt8) := do
  let (length, content) ← f.encode (List.replicate maxFrameSize 0)
  pure (content.take length)

/-- **Filling a buffer is exact.** A buffer that is long enough begins with the octets of
the frame and is otherwise as it was; one that is not is refused. -/
theorem encode_eq (f : Frame) (buffer : List UInt8) :
    f.encode buffer =
      if f.wire.length ≤ buffer.length then
        .ok (f.wire.length, f.wire ++ buffer.drop f.wire.length)
      else
        .error (.transport .bufferTooSmall) := by
  have hlen : (List.take 6 buffer).length = min 6 buffer.length := by simp
  unfold encode
  by_cases h6 : buffer.length < 6
  · have : ¬ f.wire.length ≤ buffer.length := by rw [length_wire]; omega
    simp [h6, this]
  · by_cases hb : f.bodyWire.length ≤ buffer.length - 6
    · have hw : 6 + f.bodyWire.length ≤ buffer.length := by omega
      have h6' : 6 ≤ buffer.length := by omega
      simp [h6, h6', fillBody_eq_put_bodyWire, Region.put, Region.ofBuffer, hb, hw,
        Header.fill, Header.length_wire, Region.content, bind, Except.bind, pure, Except.pure,
        wire, header, List.drop_drop]
    · have hw : ¬ 6 + f.bodyWire.length ≤ buffer.length := by omega
      simp [h6, fillBody_eq_put_bodyWire, Region.put, Region.ofBuffer, hb, hw, length_wire,
        bind, Except.bind]

/-- A frame always fits into a fresh buffer. -/
theorem toBytes_eq (f : Frame) : f.toBytes = .ok f.wire := by
  simp [toBytes, encode_eq, f.length_wire_le, bind, Except.bind, pure, Except.pure]

/-! ### Reading -/

end Frame

/-- Read a connect request. -/
def ConnectRequest.read (body : List UInt8) : Except Fault ConnectRequest := do
  let (control, rest) ← Hpai.read body
  let (data, rest) ← Hpai.read rest
  let (cri, _) ← Cri.read rest
  pure ⟨control, data, cri⟩

/-- Read a connect response. Endpoint and grant have to be there if the session is
granted, and are read also from a refusal that has anything behind its status. -/
def ConnectResponse.read : List UInt8 → Except Fault ConnectResponse
  | channel :: status :: rest =>
    if status = 0 ∨ rest ≠ [] then do
      let (data, rest) ← Hpai.read rest
      let (crd, _) ← Crd.read rest
      pure ⟨channel, status, some data, some crd⟩
    else
      .ok ⟨channel, status, none, none⟩
  | _ => .error (.decode .truncatedBody)

/-- Read a question about a channel. -/
def ChannelRequest.read : List UInt8 → Except Fault ChannelRequest
  | channel :: _ :: rest => do
    let (control, _) ← Hpai.read rest
    pure ⟨channel, control⟩
  | _ => .error (.decode .truncatedBody)

/-- Read an answer about a channel. -/
def ChannelResponse.read : List UInt8 → Except Fault ChannelResponse
  | channel :: status :: _ => .ok ⟨channel, status⟩
  | _ => .error (.decode .truncatedBody)

/-- Read a tunnelling request. Everything behind its head is the message. -/
def TunnelingRequest.read (body : List UInt8) : Except Fault TunnelingRequest := do
  let (head, rest) ← ConnectionHeader.read body
  TunnelingRequest.ofOctets head.channel head.sequence rest

/-- Read a tunnelling acknowledgement. -/
def TunnelingAck.read (body : List UInt8) : Except Fault TunnelingAck := do
  let (head, _) ← ConnectionHeader.read body
  pure ⟨head.channel, head.sequence, head.status⟩

namespace Frame

/-- Read the body of a service. -/
def decodeBody (service : Service) (body : List UInt8) : Except Fault Frame :=
  match service with
  | .connectRequest => (ConnectRequest.read body).map .connectRequest
  | .connectResponse => (ConnectResponse.read body).map .connectResponse
  | .connectionStateRequest => (ChannelRequest.read body).map .connectionStateRequest
  | .connectionStateResponse => (ChannelResponse.read body).map .connectionStateResponse
  | .disconnectRequest => (ChannelRequest.read body).map .disconnectRequest
  | .disconnectResponse => (ChannelResponse.read body).map .disconnectResponse
  | .tunnelingRequest => (TunnelingRequest.read body).map .tunnelingRequest
  | .tunnelingAck => (TunnelingAck.read body).map .tunnelingAck

/-- **Read a datagram.** -/
def decode (datagram : List UInt8) : Except Fault Frame := do
  let (header, body) ← Header.read datagram
  decodeBody header.service body

end Frame

end KnxIp
