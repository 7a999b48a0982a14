import KnxIp.Proofs.Cemi.RoundTrip
import KnxIp.Proofs.Frame.NormalForm

/-!
# Writing into a caller's buffer

A frame and a message are written into a buffer part by part, and each part asks for room
anew: the header, the structures of a body, the additional information, the codes and the
data. So a buffer that is too short is found out at different parts, depending on how short it
is. From outside nothing of this is seen. The number of octets is a matter of what is written
(`KnxIp.Frame.size`, `KnxIp.Cemi.size`): a buffer with room for so many takes them all, at its
front, and keeps what it held behind them; any other buffer is refused, and always with the
same fault. `KnxIp.WritesExactly` says this of an encoder.

The number of octets is bounded, since every part is. So the buffer that is meant for one frame
or one message is never too short, and the lengths that travel with the octets are never cut
down to the octet or the word that they have to fit into.

## Main statements

* `KnxIp.Frame.writesExactly_wire`, `KnxIp.Cemi.writesExactly_wire`: the octets of a frame, and
  those of a message, are written exactly.
* `KnxIp.writesExactly_encode`: what is written into a buffer is what is written into a fresh
  one, which never fails; and the lengths in it are true.
-/

namespace KnxIp

/-- **Whether an encoder writes these octets, and nothing else.** It answers with their number
if the buffer has room for them, and otherwise says that the buffer is too small. The buffer
then holds the octets at its front, and in every other place what it held before. -/
structure WritesExactly (octets : List UInt8)
    (encode : List UInt8 → Except Fault (Nat × List UInt8)) : Prop where
  ok_iff (buffer : List UInt8) (length : Nat) :
    (∃ after, encode buffer = .ok (length, after)) ↔
      length = octets.length ∧ octets.length ≤ buffer.length
  error_iff (buffer : List UInt8) (fault : Fault) :
    encode buffer = .error fault ↔
      fault = .transport .bufferTooSmall ∧ buffer.length < octets.length
  written {buffer after : List UInt8} {length : Nat} (h : encode buffer = .ok (length, after))
    {place : Nat} (hplace : place < length) : after[place]? = octets[place]?
  kept {buffer after : List UInt8} {length : Nat} (h : encode buffer = .ok (length, after))
    {place : Nat} (hplace : length ≤ place) : after[place]? = buffer[place]?

/-- It is enough to know what becomes of each buffer. -/
theorem WritesExactly.of_eq {octets : List UInt8}
    {encode : List UInt8 → Except Fault (Nat × List UInt8)}
    (h : ∀ buffer, encode buffer =
      if octets.length ≤ buffer.length then
        .ok (octets.length, octets ++ buffer.drop octets.length)
      else
        .error (.transport .bufferTooSmall)) : WritesExactly octets encode := by
  have hok {buffer after : List UInt8} {length : Nat} (he : encode buffer = .ok (length, after)) :
      octets.length = length ∧ octets ++ buffer.drop octets.length = after := by
    rw [h] at he
    split at he
    · cases he
      exact ⟨rfl, rfl⟩
    · cases he
  refine ⟨fun buffer length => ?_, fun buffer fault => ?_, fun he place hplace => ?_,
    fun he place hplace => ?_⟩
  · rw [h]
    split
    · rename_i hroom
      simp [hroom, eq_comm]
    · rename_i hroom
      simp [hroom]
  · rw [h]
    split
    · rename_i hroom
      simp [hroom]
    · rename_i hroom
      simp [Nat.lt_of_not_le hroom, eq_comm]
  · obtain ⟨rfl, rfl⟩ := hok he
    exact List.getElem?_append_left hplace
  · obtain ⟨rfl, rfl⟩ := hok he
    rw [List.getElem?_append_right hplace, List.getElem?_drop, Nat.add_sub_cancel' hplace]

/-! ### Messages -/

namespace Cemi

theorem encode_eq (c : Cemi) (buffer : List UInt8) :
    c.encode buffer =
      if c.wire.length ≤ buffer.length then
        .ok (c.wire.length, c.wire ++ buffer.drop c.wire.length)
      else
        .error (.transport .bufferTooSmall) := by
  rw [encode, fill_eq_put_wire, Region.put, Region.ofBuffer]
  split <;> rfl

theorem writesExactly_wire (c : Cemi) : WritesExactly c.wire c.encode := .of_eq c.encode_eq

theorem wire_eq_opening (c : Cemi) :
    c.wire = c.opening c.telegram.lengthOctet ++ c.telegram.payload := by
  simp [wire, opening, Telegram.wire]

/-- **The length octets of a message are true**: the second octet counts the additional
information, and the one behind the addresses all that follows the first octet of the codes. -/
theorem lengths_wire (c : Cemi) :
    c.wire[1]?.map UInt8.toNat = some c.info.toList.length ∧
      ∃ k, c.wire[8 + c.info.toList.length]?.map UInt8.toNat = some k ∧
        c.wire.length = 10 + c.info.toList.length + k := by
  have hlength : c.wire[8 + c.info.toList.length]? = some c.telegram.lengthOctet := by
    rw [wire_eq_opening, List.getElem?_append_left (by rw [length_opening]; omega),
      getElem?_opening]
  have hpayload := c.telegram.toNat_lengthOctet
  refine ⟨?_, c.telegram.lengthOctet.toNat, by rw [hlength]; rfl, ?_⟩
  · rw [wire, List.getElem?_cons_succ, List.getElem?_cons_zero, Option.map_some,
      toNat_length_info]
  · rw [wire_eq_opening, List.length_append, length_opening]
    omega

end Cemi

/-! ### Frames -/

namespace Frame

/-- **The number of octets of a frame.** Only two kinds of frames have more than one: a connect
response, which may leave out its second half, and the request that carries a message. -/
def size : Frame → Nat
  | .connectRequest _ => 26
  | .connectResponse b => if b.data.isSome && b.crd.isSome then 20 else 8
  | .connectionStateRequest _ => 16
  | .connectionStateResponse _ => 8
  | .disconnectRequest _ => 16
  | .disconnectResponse _ => 8
  | .tunnelingRequest b => 10 + b.message.toList.length
  | .tunnelingAck _ => 10

theorem length_wire_eq_size (f : Frame) : f.wire.length = f.size := by
  rw [length_wire]
  cases f with
  | connectResponse b =>
    obtain ⟨channel, status, data, crd⟩ := b
    cases data <;> cases crd <;>
      simp [bodyWire, ConnectResponse.tail, size, Hpai.length_wire, Crd.wire, length_wordOctets]
  | tunnelingRequest b =>
    simp [bodyWire, size, ConnectionHeader.wire]
    omega
  | _ => rfl

theorem writesExactly_wire (f : Frame) : WritesExactly f.wire f.encode := .of_eq f.encode_eq

/-- The octets of a frame say how many they are. -/
theorem wordAt?_wire (f : Frame) : wordAt? f.wire 4 = some f.wire.length := by
  rw [wire, Header.wordAt?_wire_append, totalLength_header, ← length_wire, wire]

end Frame

/-- **Writing is exact, and never too long.** For every frame and every message there is one
number of octets. Every buffer with room for them takes those that are written into a fresh
buffer and keeps what it has behind them, and every other is refused. A fresh buffer of the
greatest size has room, and what the octets say of lengths is true. -/
theorem writesExactly_encode :
    (∀ f : Frame, ∃ octets, f.toBytes = .ok octets ∧ WritesExactly octets f.encode ∧
      octets.length = f.size ∧ f.size ≤ maxFrameSize ∧ wordAt? octets 4 = some f.size) ∧
    ∀ c : Cemi, ∃ octets, c.toBytes = .ok octets ∧ WritesExactly octets c.encode ∧
      octets.length = c.size ∧ c.size ≤ maxCemiSize ∧
      octets[1]?.map UInt8.toNat = some c.info.toList.length ∧
      ∃ k, octets[8 + c.info.toList.length]?.map UInt8.toNat = some k ∧
        octets.length = 10 + c.info.toList.length + k := by
  refine ⟨fun f => ⟨f.wire, f.toBytes_eq, f.writesExactly_wire, f.length_wire_eq_size, ?_, ?_⟩,
    fun c => ⟨c.wire, c.toBytes_eq, c.writesExactly_wire, c.length_wire, ?_, c.lengths_wire⟩⟩
  · rw [← Frame.length_wire_eq_size]
    exact f.length_wire_le
  · rw [← Frame.length_wire_eq_size]
    exact f.wordAt?_wire
  · rw [← Cemi.length_wire]
    exact c.length_wire_le

/-- A response of eight octets in a buffer of ten, and in one of seven. -/
example :
    (Frame.disconnectResponse ⟨7, 0⟩).encode [1, 2, 3, 4, 5, 6, 7, 8, 9, 10] =
      .ok (8, [6, 0x10, 2, 10, 0, 8, 7, 0, 9, 10]) ∧
    (Frame.disconnectResponse ⟨7, 0⟩).encode [1, 2, 3, 4, 5, 6, 7] =
      .error (.transport .bufferTooSmall) := by decide

end KnxIp
