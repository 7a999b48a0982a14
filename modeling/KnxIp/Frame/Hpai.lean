import KnxIp.Net
import KnxIp.Region

/-!
# Host protocol address information

A gateway and its client tell each other where to send frames by a structure of eight
octets: its length, the host protocol, an internet address and a port.
-/

namespace KnxIp

/-- The number of octets of the structure, which is also its first octet. -/
def hpaiSize : UInt8 := 8

/-- The code of the host protocol that every tunnel uses: datagrams over the internet
protocol. -/
def udpProtocol : UInt8 := 1

/-- **Where one side of a tunnel receives frames.** -/
structure Hpai where
  protocol : UInt8
  ip : Ipv4
  port : UInt16
  deriving DecidableEq

namespace Hpai

/-- An endpoint that receives datagrams. -/
def ofEndpoint (e : Endpoint) : Hpai := ⟨udpProtocol, e.ip, e.port⟩

/-- No endpoint: asks the other side to answer to where the datagram came from, which is
what works behind a router that rewrites addresses. -/
def unspecified : Hpai := ofEndpoint .unspecified

/-- The endpoint that the structure names. -/
def endpoint (h : Hpai) : Endpoint := ⟨h.ip, h.port⟩

/-- Whether the structure names no endpoint. -/
def isUnspecified (h : Hpai) : Bool := h.ip = .unspecified && h.port = 0

/-- The octets of the structure. -/
def wire (h : Hpai) : List UInt8 :=
  hpaiSize :: h.protocol :: h.ip.octets ++ wordOctets h.port

theorem length_wire (h : Hpai) : h.wire.length = 8 := rfl

/-- Write the structure into a buffer. -/
def fill (h : Hpai) (r : Region) : Except Fault Region := r.put h.wire

/-- Take the structure off the front of a string. -/
def read : List UInt8 → Except Fault (Hpai × List UInt8)
  | size :: protocol :: a :: b :: c :: d :: high :: low :: rest =>
    if size = hpaiSize then
      .ok (⟨protocol, ⟨a, b, c, d⟩, word high low⟩, rest)
    else
      .error (.decode .truncatedBody)
  | _ => .error (.decode .truncatedBody)

/-- What is written is read back, whatever follows it. -/
theorem read_wire_append (h : Hpai) (rest : List UInt8) :
    read (h.wire ++ rest) = .ok (h, rest) := by
  simp [wire, read, Ipv4.octets, wordOctets, word_highOctet_lowOctet]

end Hpai

end KnxIp
