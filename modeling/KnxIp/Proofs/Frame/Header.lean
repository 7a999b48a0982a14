import KnxIp.Socket

/-!
# The header of what is sent

The octets of a frame begin with its header, and reading them gives this header back: a
frame is never so long that the word for its length could not hold it. So the service of
a datagram (`KnxIp.Datagram.service?`) can be told from its octets, and that of a datagram
that carries a frame is the service of the frame.
-/

namespace KnxIp

namespace Header

/-- **A header is read as it was written**, if it announces as many octets as there
are. -/
theorem read_wire_append (h : Header) (body : List UInt8)
    (hlen : h.totalLength.toNat = 6 + body.length) : read (h.wire ++ body) = .ok (h, body) := by
  obtain ⟨service, totalLength⟩ := h
  have hlen' : totalLength.toNat = body.length + 1 + 1 + 1 + 1 + 1 + 1 := by
    simp only at hlen
    omega
  simp [wire, read, wordOctets, word_highOctet_lowOctet, Service.ofCode?_code, hlen']

end Header

namespace Frame

/-- The header of a frame announces all of its octets. -/
theorem totalLength_header (f : Frame) : f.header.totalLength.toNat = 6 + f.bodyWire.length := by
  have h := f.length_bodyWire_le
  simp only [header, Header.ofBodyLength, UInt16.toNat_ofNat']
  omega

theorem read_wire (f : Frame) : Header.read f.wire = .ok (f.header, f.bodyWire) :=
  Header.read_wire_append _ _ f.totalLength_header

end Frame

namespace Datagram

/-- The service that the header of a datagram names, if the datagram has a header. -/
def service? (d : Datagram) : Option Service :=
  match Header.read d.octets.toList with
  | .ok (header, _) => some header.service
  | .error _ => none

/-- Whether a datagram is a tunnelling request. -/
def isRequest (d : Datagram) : Bool := d.service? = some .tunnelingRequest

theorem service?_octets (f : Frame) (peer : Endpoint) :
    service? ⟨f.octets, peer⟩ = some f.service := by
  simp only [service?, Frame.octets, Frame.read_wire]
  rfl

/-- The datagram of a frame is a tunnelling request if the frame is one. -/
theorem isRequest_octets (f : Frame) (peer : Endpoint) :
    isRequest ⟨f.octets, peer⟩ = decide (f.service = .tunnelingRequest) := by
  simp [isRequest, service?_octets]

end Datagram

end KnxIp
