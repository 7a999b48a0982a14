import KnxIp.Proofs.Frame.Format
import KnxIp.Proofs.Frame.RoundTrip

/-!
# Frames are written as they were read

Reading passes over some octets of a datagram: what follows a body, and one octet in some
bodies that is reserved. All others are kept, and every one in its place. So a frame that was
read is written as the beginning of its datagram, with two differences: its length is now its
own, and a reserved octet is zero. This is the normal form of the datagram
(`KnxIp.Frame.IsNormalForm`), and reading it gives the same frame again.

What a body can look like that is read as a given frame is said by `KnxIp.Frame.bodyWith`: it
is what is written for the frame, with any octet in the reserved place, and with anything
behind it.

## Main statements

* `KnxIp.Frame.eq_append_of_decode`: what a datagram looks like from which a frame is read.
* `KnxIp.Frame.isNormalForm_of_decode`: a frame that is read from a datagram is written as the
  normal form of the datagram.
-/

namespace KnxIp

/-! ### Headers -/

theorem Header.wordAt?_wire_append (h : Header) (body : List UInt8) :
    wordAt? (h.wire ++ body) 4 = some h.totalLength.toNat := by
  rw [← word_highOctet_lowOctet h.totalLength, toNat_word]
  rfl

/-- The header says everything that its octets say. -/
theorem Header.eq_append_of_read {datagram body : List UInt8} {h : Header}
    (hr : read datagram = .ok (h, body)) : datagram = h.wire ++ body := by
  unfold read at hr
  split at hr
  · rename_i size version first second high low rest
    split at hr
    · cases hr
    · rename_i hvalid
      split at hr
      · rename_i service hservice
        cases hr
        simp only [not_or, Classical.not_not] at hvalid
        obtain ⟨rfl, rfl, -⟩ := hvalid
        simp [wire, wordOctets, Service.ofCode?_eq_some_iff.mp hservice, highOctet_word,
          lowOctet_word]
      · cases hr
  · cases hr

/-! ### Bodies that are read -/

theorem ConnectRequest.eq_append_of_read {body : List UInt8} {b : ConnectRequest}
    (h : read body = .ok b) :
    ∃ reserved rest,
      body = b.control.wire ++ (b.data.wire ++ b.cri.wire.set 3 reserved) ++ rest := by
  obtain ⟨⟨control, s⟩, hcontrol, h⟩ := exists_of_bind_eq_ok h
  obtain ⟨⟨data, s'⟩, hdata, h⟩ := exists_of_bind_eq_ok h
  obtain ⟨⟨cri, rest⟩, hcri, h⟩ := exists_of_bind_eq_ok h
  cases h
  obtain ⟨reserved, rfl⟩ := Cri.eq_append_of_read hcri
  rw [Hpai.eq_append_of_read hcontrol, Hpai.eq_append_of_read hdata]
  exact ⟨reserved, rest, by simp only [List.append_assoc]⟩

theorem ChannelRequest.eq_append_of_read {body : List UInt8} {b : ChannelRequest}
    (h : read body = .ok b) :
    ∃ reserved rest, body = [b.channel, reserved] ++ b.control.wire ++ rest := by
  unfold read at h
  split at h
  · rename_i channel reserved s
    obtain ⟨⟨control, rest⟩, hcontrol, h⟩ := exists_of_bind_eq_ok h
    cases h
    exact ⟨reserved, rest, by rw [Hpai.eq_append_of_read hcontrol]; rfl⟩
  · cases h

theorem ChannelResponse.eq_append_of_read {body : List UInt8} {b : ChannelResponse}
    (h : read body = .ok b) : ∃ rest, body = [b.channel, b.status] ++ rest := by
  unfold read at h
  split at h
  · cases h
    exact ⟨_, rfl⟩
  · cases h

/-- A response that is read is complete. -/
theorem ConnectResponse.eq_append_of_read {body : List UInt8} {b : ConnectResponse}
    (h : read body = .ok b) :
    b.IsComplete ∧ ∃ rest, body = [b.channel, b.status] ++ b.tail ++ rest := by
  unfold read at h
  split at h
  · rename_i channel status s
    split at h
    · obtain ⟨⟨data, s'⟩, hdata, h⟩ := exists_of_bind_eq_ok h
      obtain ⟨⟨crd, rest⟩, hcrd, h⟩ := exists_of_bind_eq_ok h
      cases h
      refine ⟨⟨rfl, nofun⟩, rest, ?_⟩
      rw [Hpai.eq_append_of_read hdata, Crd.eq_append_of_read hcrd]
      simp only [tail, List.append_assoc, List.cons_append, List.nil_append]
    · rename_i hbare
      cases h
      obtain ⟨hstatus, rfl⟩ : status ≠ 0 ∧ s = [] := by simpa using hbare
      exact ⟨⟨rfl, fun _ => hstatus⟩, [], rfl⟩
  · cases h

theorem TunnelingRequest.eq_append_of_read {body : List UInt8} {b : TunnelingRequest}
    (h : read body = .ok b) :
    ∃ reserved, body = b.header.wire.set 3 reserved ++ b.message.toList := by
  obtain ⟨⟨head, message⟩, hhead, h⟩ := exists_of_bind_eq_ok h
  obtain ⟨kept, hkept, rfl⟩ := exists_of_map_eq_ok h
  rw [ConnectionHeader.eq_append_of_read hhead, ← Octets.toList_of_ofList hkept]
  exact ⟨head.status, rfl⟩

theorem TunnelingAck.eq_append_of_read {body : List UInt8} {b : TunnelingAck}
    (h : read body = .ok b) : ∃ rest, body = b.header.wire ++ rest := by
  obtain ⟨⟨head, rest⟩, hhead, h⟩ := exists_of_bind_eq_ok h
  cases h
  exact ⟨rest, ConnectionHeader.eq_append_of_read hhead⟩

namespace Frame

/-- The place of the reserved octet in the body of a frame, if it has one. -/
def reserved? : Frame → Option Nat
  | .connectRequest _ => some 19
  | .connectionStateRequest _ | .disconnectRequest _ => some 1
  | .tunnelingRequest _ => some 3
  | _ => none

/-- The octets of a body with this one in the reserved place, if there is one. -/
def bodyWith (f : Frame) (octet : UInt8) : List UInt8 :=
  match f.reserved? with
  | some place => f.bodyWire.set place octet
  | none => f.bodyWire

theorem length_bodyWith (f : Frame) (octet : UInt8) :
    (f.bodyWith octet).length = f.bodyWire.length := by
  unfold bodyWith
  split <;> simp

/-- The reserved octet is the only one that differs. -/
theorem getElem?_bodyWith (f : Frame) (octet : UInt8) {place : Nat}
    (h : f.reserved? ≠ some place) : (f.bodyWith octet)[place]? = f.bodyWire[place]? := by
  unfold bodyWith
  split
  · rename_i place' hplace
    rw [hplace] at h
    exact List.getElem?_set_ne fun heq => h (congrArg some heq)
  · rfl

/-- A reserved octet is written as zero. -/
theorem getElem?_bodyWire_of_reserved? (f : Frame) {place : Nat} (h : f.reserved? = some place) :
    f.bodyWire[place]? = some 0 := by
  cases f with
  | connectRequest | connectionStateRequest | disconnectRequest | tunnelingRequest =>
    cases h
    rfl
  | connectResponse | connectionStateResponse | disconnectResponse | tunnelingAck => cases h

/-- **What a body looks like from which a frame is read**: what is written for the frame, with
any octet in the reserved place, and anything behind it. -/
theorem eq_append_of_decodeBody {service : Service} {body : List UInt8} {f : Frame}
    (h : decodeBody service body = .ok f) :
    f.IsComplete ∧ ∃ reserved rest, body = f.bodyWith reserved ++ rest := by
  cases service with
  | connectRequest =>
    obtain ⟨b, hb, rfl⟩ := exists_of_map_eq_ok h
    obtain ⟨reserved, rest, hbody⟩ := b.eq_append_of_read hb
    exact ⟨trivial, reserved, rest, hbody⟩
  | connectResponse =>
    obtain ⟨b, hb, rfl⟩ := exists_of_map_eq_ok h
    obtain ⟨hcomplete, rest, hbody⟩ := b.eq_append_of_read hb
    exact ⟨hcomplete, 0, rest, hbody⟩
  | connectionStateRequest | disconnectRequest =>
    obtain ⟨b, hb, rfl⟩ := exists_of_map_eq_ok h
    obtain ⟨reserved, rest, hbody⟩ := b.eq_append_of_read hb
    exact ⟨trivial, reserved, rest, hbody⟩
  | connectionStateResponse | disconnectResponse =>
    obtain ⟨b, hb, rfl⟩ := exists_of_map_eq_ok h
    obtain ⟨rest, hbody⟩ := b.eq_append_of_read hb
    exact ⟨trivial, 0, rest, hbody⟩
  | tunnelingRequest =>
    obtain ⟨b, hb, rfl⟩ := exists_of_map_eq_ok h
    obtain ⟨reserved, hbody⟩ := b.eq_append_of_read hb
    exact ⟨trivial, reserved, [], by rw [List.append_nil]; exact hbody⟩
  | tunnelingAck =>
    obtain ⟨b, hb, rfl⟩ := exists_of_map_eq_ok h
    obtain ⟨rest, hbody⟩ := b.eq_append_of_read hb
    exact ⟨trivial, 0, rest, hbody⟩

/-! ### Datagrams that are read -/

/-- **What a datagram looks like from which a frame is read**: a header with the service of the
frame, and a body that is read as the frame. -/
theorem eq_append_of_decode {datagram : List UInt8} {f : Frame} (h : decode datagram = .ok f) :
    f.IsComplete ∧ ∃ total reserved rest,
      datagram = (Header.mk f.service total).wire ++ (f.bodyWith reserved ++ rest) := by
  obtain ⟨⟨⟨service, total⟩, body⟩, hheader, h⟩ := exists_of_bind_eq_ok h
  obtain ⟨hcomplete, reserved, rest, rfl⟩ := eq_append_of_decodeBody h
  obtain rfl := service_of_decodeBody h
  exact ⟨hcomplete, total, reserved, rest, Header.eq_append_of_read hheader⟩

/-- The places of a frame that writing fills by itself: its length, and a reserved octet. -/
def rewritten (f : Frame) : List Nat := 4 :: 5 :: (f.reserved?.map (6 + ·)).toList

/-- **Whether some octets are the normal form of a datagram** from which a frame is read: they
are its beginning, with their own number as the length and zero as the reserved octet. -/
structure IsNormalForm (f : Frame) (octets datagram : List UInt8) : Prop where
  length_le : octets.length ≤ datagram.length
  kept : ∀ place < octets.length, place ∉ f.rewritten → octets[place]? = datagram[place]?
  total : wordAt? octets 4 = some octets.length
  reserved : ∀ place ∈ f.reserved?, octets[6 + place]? = some 0

/-- A header is the one of six octets that differs in its length only. -/
theorem getElem?_wire_append {service : Service} {total total' : UInt16} {body body' : List UInt8}
    {place : Nat} (h4 : place ≠ 4) (h5 : place ≠ 5)
    (h : ∀ n, place = 6 + n → body[n]? = body'[n]?) :
    ((Header.mk service total).wire ++ body)[place]? =
      ((Header.mk service total').wire ++ body')[place]? := by
  match place with
  | 0 | 1 | 2 | 3 => rfl
  | 4 => exact absurd rfl h4
  | 5 => exact absurd rfl h5
  | n + 6 => exact h n (Nat.add_comm n 6)

theorem isNormalForm_wire (f : Frame) (total : UInt16) (reserved : UInt8) (rest : List UInt8) :
    f.IsNormalForm f.wire ((Header.mk f.service total).wire ++ (f.bodyWith reserved ++ rest)) where
  length_le := by
    simp only [length_wire, List.length_append, Header.length_wire, length_bodyWith]
    omega
  kept place hlt hplace := by
    simp only [rewritten, List.mem_cons, not_or] at hplace
    obtain ⟨h4, h5, hreserved⟩ := hplace
    refine getElem?_wire_append h4 h5 fun n hn => ?_
    subst hn
    rw [length_wire] at hlt
    have hn : n < (f.bodyWith reserved).length := by
      rw [length_bodyWith]
      omega
    rw [List.getElem?_append_left hn, getElem?_bodyWith]
    intro h
    simp [h] at hreserved
  total := by
    rw [length_wire, ← totalLength_header]
    exact f.header.wordAt?_wire_append f.bodyWire
  reserved place hplace := by
    rw [← f.getElem?_bodyWire_of_reserved? hplace, Nat.add_comm]
    rfl

/-- **A frame that is read from a datagram is written as the normal form of the datagram**, and
read from it again. -/
theorem isNormalForm_of_decode {datagram : List UInt8} {f : Frame} (h : decode datagram = .ok f) :
    ∃ octets, f.toBytes = .ok octets ∧ f.IsNormalForm octets datagram ∧ decode octets = .ok f := by
  obtain ⟨hcomplete, total, reserved, rest, rfl⟩ := eq_append_of_decode h
  exact ⟨f.wire, f.toBytes_eq, f.isNormalForm_wire total reserved rest,
    f.decode_wire_eq_ok_iff.mpr hcomplete⟩

/-- A request to close channel 7 whose reserved octet is not zero, with an octet behind it. -/
theorem isNormalForm_disconnectRequest :
    decode [6, 0x10, 2, 9, 0, 17, 7, 0xAA, 8, 1, 192, 168, 1, 10, 0x0E, 0x57, 0xFF] =
      .ok (.disconnectRequest ⟨7, ⟨1, ⟨192, 168, 1, 10⟩, 3671⟩⟩) ∧
    ∃ octets,
      (disconnectRequest ⟨7, ⟨1, ⟨192, 168, 1, 10⟩, 3671⟩⟩).toBytes = .ok octets ∧
      (disconnectRequest ⟨7, ⟨1, ⟨192, 168, 1, 10⟩, 3671⟩⟩).IsNormalForm octets
        [6, 0x10, 2, 9, 0, 17, 7, 0xAA, 8, 1, 192, 168, 1, 10, 0x0E, 0x57, 0xFF] ∧
      decode octets = .ok (.disconnectRequest ⟨7, ⟨1, ⟨192, 168, 1, 10⟩, 3671⟩⟩) :=
  ⟨by decide, isNormalForm_of_decode (by decide)⟩

end Frame

end KnxIp
