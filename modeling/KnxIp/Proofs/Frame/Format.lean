import KnxIp.Proofs.Frame.Header
import KnxIp.Proofs.Reading

/-!
# Which datagrams are frames

Whether a datagram is a frame is decided by a few of its octets. It has a valid header or not
(`KnxIp.HasHeader`); the header names one of the eight services or not; and the body has the
form of the service or not (`KnxIp.Service.Admits`). These are asked in this order, and each
has a fault of its own. Only for the body of a tunnelling request there are two: it may be too
short, like any other, but it may also be too long (`KnxIp.Service.Overfills`), since
everything behind its head is the message.

The bodies are made of a few structures, each of which begins with the number of its octets,
so the form of a body says where such an octet stands (`KnxIp.BlockAt`). What a body says apart
from this makes no difference, and neither do the octets behind it.

## Main statements

* `KnxIp.Frame.decode_outcome_iff`: for each outcome of reading, exactly which datagrams have
  it.
-/

namespace KnxIp

/-! ### The header -/

/-- **Whether a datagram has a valid header**: there are its six octets, they say their number
and the version of the protocol, and the length is that of the datagram. -/
structure HasHeader (datagram : List UInt8) : Prop where
  length : 6 ≤ datagram.length
  size : datagram[0]? = some 6
  version : datagram[1]? = some 0x10
  total : wordAt? datagram 4 = some datagram.length

/-- Whether the header of a datagram names a service. -/
def Service.IsNamedIn (service : Service) (datagram : List UInt8) : Prop :=
  wordAt? datagram 2 = some service.code.toNat

theorem toNat_word (high low : UInt8) : (word high low).toNat = high.toNat * 256 + low.toNat := by
  have := high.toNat_lt
  have := low.toNat_lt
  simp only [word, UInt16.toNat_ofNat']
  omega

namespace Service

theorem ofCode?_eq_some_iff {code : UInt16} {s : Service} :
    ofCode? code = some s ↔ s.code = code := by
  constructor
  · intro h
    simpa using List.find?_some h
  · rintro rfl
    exact ofCode?_code s

theorem code_injective {s s' : Service} (h : s.code = s'.code) : s = s' := by
  have h' := ofCode?_code s
  rw [h, ofCode?_code] at h'
  exact (Option.some.inj h').symm

theorem IsNamedIn.unique {s s' : Service} {datagram : List UInt8} (h : s.IsNamedIn datagram)
    (h' : s'.IsNamedIn datagram) : s = s' :=
  code_injective (UInt16.toNat_inj.mp (Option.some.inj (h.symm.trans h')))

end Service

namespace Header

/-- **What reading a header gives**, and for which datagrams. -/
theorem read_cases (datagram : List UInt8) :
    (¬ HasHeader datagram ∧ read datagram = .error (.decode .malformedHeader)) ∨
    (HasHeader datagram ∧ (∀ s : Service, ¬ s.IsNamedIn datagram) ∧
      read datagram = .error (.decode .unknownServiceType)) ∨
    ∃ header : Header, HasHeader datagram ∧ header.service.IsNamedIn datagram ∧
      read datagram = .ok (header, datagram.drop 6) := by
  obtain _ | ⟨size, _ | ⟨version, _ | ⟨first, _ | ⟨second, _ | ⟨high, _ | ⟨low, body⟩⟩⟩⟩⟩⟩ :=
    datagram
  -- fewer than six octets
  iterate 6 · exact .inl ⟨fun h => absurd h.length (by simp), rfl⟩
  have hheader : HasHeader (size :: version :: first :: second :: high :: low :: body) ↔
      ¬ (size ≠ headerSize ∨ version ≠ protocolVersion ∨
        (word high low).toNat ≠
          (size :: version :: first :: second :: high :: low :: body).length) := by
    rw [toNat_word, not_or, not_or, Classical.not_not, Classical.not_not, Classical.not_not]
    constructor
    · rintro ⟨-, hsize, hversion, htotal⟩
      exact ⟨Option.some.inj hsize, Option.some.inj hversion, Option.some.inj htotal⟩
    · rintro ⟨rfl, rfl, htotal⟩
      exact ⟨by simp, rfl, rfl, congrArg some htotal⟩
  have hnamed (s : Service) :
      s.IsNamedIn (size :: version :: first :: second :: high :: low :: body) ↔
        s.code = word first second := by
    rw [← UInt16.toNat_inj, toNat_word, eq_comm]
    exact Option.some_inj
  by_cases hvalid : HasHeader (size :: version :: first :: second :: high :: low :: body)
  · rw [read, if_neg (hheader.mp hvalid)]
    refine .inr ?_
    cases hcode : Service.ofCode? (word first second) with
    | none =>
      refine .inl ⟨hvalid, fun s hs => ?_, rfl⟩
      rw [Service.ofCode?_eq_some_iff.mpr ((hnamed s).mp hs)] at hcode
      cases hcode
    | some s => exact .inr ⟨_, hvalid, (hnamed s).mpr (Service.ofCode?_eq_some_iff.mp hcode), rfl⟩
  · rw [hheader, Classical.not_not] at hvalid
    exact .inl ⟨fun h => hheader.mp h hvalid, by rw [read, if_pos hvalid]⟩

end Header

/-! ### Structures -/

/-- **Whether a structure of a size stands at a place**: there are so many octets from there on,
and the first of them says how many. -/
def BlockAt (size : UInt8) (place : Nat) (s : List UInt8) : Prop :=
  place + size.toNat ≤ s.length ∧ s[place]? = some size

theorem blockAt_drop {size : UInt8} {place n : Nat} {s : List UInt8} :
    BlockAt size place (s.drop n) ↔ BlockAt size (n + place) s := by
  simp only [BlockAt, List.length_drop, List.getElem?_drop]
  refine and_congr_left fun h => ?_
  have := (List.getElem?_eq_some_iff.mp h).1
  omega

namespace Hpai

/-- The structure says everything that its octets say. -/
theorem eq_append_of_read {s rest : List UInt8} {h : Hpai} (hr : read s = .ok (h, rest)) :
    s = h.wire ++ rest := by
  unfold read at hr
  split at hr
  · split at hr
    · rename_i hsize
      cases hr
      simp [wire, Ipv4.octets, wordOctets, highOctet_word, lowOctet_word, hsize]
    · cases hr
  · cases hr

theorem readsIf_read (s : List UInt8) :
    ReadsIf (.decode .truncatedBody) (BlockAt 8 0 s) (read s) := by
  obtain _ | ⟨size, _ | ⟨protocol, _ | ⟨a, _ | ⟨b, _ | ⟨c, _ | ⟨d, _ | ⟨high, _ | ⟨low,
    rest⟩⟩⟩⟩⟩⟩⟩⟩ := s
  iterate 8 · exact .of_error (by simp [BlockAt])
  by_cases hsize : size = hpaiSize
  · rw [read, if_pos hsize]
    exact .of_ok _ (by simp [BlockAt, hsize, hpaiSize])
  · rw [read, if_neg hsize]
    exact .of_error (by simpa [BlockAt, hpaiSize] using hsize)

theorem readsIf_read_drop (n : Nat) (s : List UInt8) :
    ReadsIf (.decode .truncatedBody) (BlockAt 8 n s) (read (s.drop n)) :=
  (readsIf_read _).congr blockAt_drop

end Hpai

/-- **A reader of a structure of four octets**: the first is their number, and the others are
what it says. -/
def takeFour {α : Type} (make : UInt8 → UInt8 → UInt8 → α) :
    List UInt8 → Except Fault (α × List UInt8)
  | size :: x :: y :: z :: rest =>
    if size = 4 then .ok (make x y z, rest) else .error (.decode .truncatedBody)
  | _ => .error (.decode .truncatedBody)

section TakeFour

variable {α : Type} {make : UInt8 → UInt8 → UInt8 → α}

theorem readsIf_takeFour (s : List UInt8) :
    ReadsIf (.decode .truncatedBody) (BlockAt 4 0 s) (takeFour make s) := by
  obtain _ | ⟨size, _ | ⟨x, _ | ⟨y, _ | ⟨z, rest⟩⟩⟩⟩ := s
  iterate 4 · exact .of_error (by simp [BlockAt])
  by_cases hsize : size = 4
  · rw [takeFour, if_pos hsize]
    exact .of_ok _ (by simp [BlockAt, hsize])
  · rw [takeFour, if_neg hsize]
    exact .of_error (by simpa [BlockAt] using hsize)

theorem readsIf_takeFour_drop (n : Nat) (s : List UInt8) :
    ReadsIf (.decode .truncatedBody) (BlockAt 4 n s) (takeFour make (s.drop n)) :=
  (readsIf_takeFour _).congr blockAt_drop

theorem eq_of_takeFour {s rest : List UInt8} {a : α} (h : takeFour make s = .ok (a, rest)) :
    ∃ x y z, s = 4 :: x :: y :: z :: rest ∧ a = make x y z := by
  unfold takeFour at h
  split at h
  · rename_i x y z rest'
    split at h
    · rename_i hsize
      cases h
      exact ⟨x, y, z, by rw [hsize], rfl⟩
    · cases h
  · cases h

end TakeFour

theorem Cri.read_eq : read = takeFour fun connectionType layer _ => ⟨connectionType, layer⟩ := rfl

theorem Crd.read_eq :
    read = takeFour fun connectionType high low => ⟨connectionType, ⟨word high low⟩⟩ := rfl

theorem ConnectionHeader.read_eq : read = takeFour ConnectionHeader.mk := rfl

theorem ConnectionHeader.readsIf_read (s : List UInt8) :
    ReadsIf (.decode .truncatedBody) (BlockAt 4 0 s) (read s) :=
  readsIf_takeFour s

/-- The last octet of the structure is reserved, and not read. -/
theorem Cri.eq_append_of_read {s rest : List UInt8} {c : Cri} (h : read s = .ok (c, rest)) :
    ∃ reserved, s = c.wire.set 3 reserved ++ rest := by
  rw [read_eq] at h
  obtain ⟨connectionType, layer, reserved, rfl, rfl⟩ := eq_of_takeFour h
  exact ⟨reserved, rfl⟩

theorem Crd.eq_append_of_read {s rest : List UInt8} {c : Crd} (h : read s = .ok (c, rest)) :
    s = c.wire ++ rest := by
  rw [read_eq] at h
  obtain ⟨connectionType, high, low, rfl, rfl⟩ := eq_of_takeFour h
  simp [wire, wordOctets, highOctet_word, lowOctet_word]

theorem ConnectionHeader.eq_append_of_read {s rest : List UInt8} {h : ConnectionHeader}
    (hr : read s = .ok (h, rest)) : s = h.wire ++ rest := by
  rw [read_eq] at hr
  obtain ⟨channel, sequence, status, rfl, rfl⟩ := eq_of_takeFour hr
  rfl

theorem Hpai.eq_drop_of_read {s rest : List UInt8} {h : Hpai} (hr : read s = .ok (h, rest)) :
    rest = s.drop 8 := by
  rw [eq_append_of_read hr, ← h.length_wire, List.drop_left]

/-! ### Bodies -/

theorem ConnectRequest.readsIf_read (body : List UInt8) :
    ReadsIf (.decode .truncatedBody) (BlockAt 8 0 body ∧ BlockAt 8 8 body ∧ BlockAt 4 16 body)
      (read body) := by
  refine (Hpai.readsIf_read body).bind ?_
  rintro ⟨control, s⟩ hcontrol
  obtain rfl := Hpai.eq_drop_of_read hcontrol
  refine ReadsIf.bind (Hpai.readsIf_read_drop 8 body) ?_
  rintro ⟨data, s⟩ hdata
  obtain rfl := Hpai.eq_drop_of_read hdata
  rw [List.drop_drop]
  exact (readsIf_takeFour_drop 16 body).map _

/-- Without the status octet there is nothing, and behind it there may be nothing if it refuses
the session. -/
theorem ConnectResponse.readsIf_read (body : List UInt8) :
    ReadsIf (.decode .truncatedBody)
      (body.length = 2 ∧ body[1]? ≠ some 0 ∨ BlockAt 8 2 body ∧ BlockAt 4 10 body)
      (read body) := by
  obtain _ | ⟨channel, _ | ⟨status, s⟩⟩ := body
  iterate 2 · exact .of_error (by simp [BlockAt])
  by_cases h : status = 0 ∨ s ≠ []
  · rw [read, if_pos h]
    have hbare : ¬ ((channel :: status :: s).length = 2 ∧
        (channel :: status :: s)[1]? ≠ some 0) := by
      rintro ⟨hlen, hstatus⟩
      obtain rfl : s = [] := by simpa using hlen
      simp_all
    rw [or_iff_right hbare]
    refine ReadsIf.bind (Hpai.readsIf_read_drop 2 (channel :: status :: s)) ?_
    rintro ⟨data, rest⟩ hdata
    obtain rfl := Hpai.eq_drop_of_read hdata
    exact (readsIf_takeFour_drop 10 (channel :: status :: s)).map _
  · rw [read, if_neg h]
    obtain ⟨hstatus, rfl⟩ : status ≠ 0 ∧ s = [] := by simpa using h
    exact .of_ok _ (by simp [hstatus])

theorem ChannelRequest.readsIf_read (body : List UInt8) :
    ReadsIf (.decode .truncatedBody) (BlockAt 8 2 body) (read body) := by
  obtain _ | ⟨channel, _ | ⟨reserved, s⟩⟩ := body
  iterate 2 · exact .of_error (by simp [BlockAt])
  exact (Hpai.readsIf_read_drop 2 (channel :: reserved :: s)).map _

theorem ChannelResponse.readsIf_read (body : List UInt8) :
    ReadsIf (.decode .truncatedBody) (2 ≤ body.length) (read body) := by
  obtain _ | ⟨channel, _ | ⟨status, s⟩⟩ := body
  iterate 2 · exact .of_error (by simp)
  exact .of_ok _ (by simp)

theorem TunnelingAck.readsIf_read (body : List UInt8) :
    ReadsIf (.decode .truncatedBody) (BlockAt 4 0 body) (read body) :=
  (ConnectionHeader.readsIf_read body).map _

/-- Behind the head of a request there is the message, which must not be too long. -/
theorem TunnelingRequest.readsIf_read {body : List UInt8} (h : BlockAt 4 0 body) :
    ReadsIf (.decode .invalidCemi) ((body.drop 4).length ≤ 64) (read body) := by
  obtain ⟨⟨head, message⟩, hhead⟩ := (ConnectionHeader.readsIf_read body).accepts h
  have hread : read body = ofOctets head.channel head.sequence message := by
    rw [read, hhead]
    rfl
  have hmessage : message = body.drop 4 := by
    rw [ConnectionHeader.eq_append_of_read hhead]
    rfl
  rw [hread, hmessage]
  exact (Octets.readsIf_ofList _ _).map _

theorem TunnelingRequest.read_of_not_blockAt {body : List UInt8} (h : ¬ BlockAt 4 0 body) :
    read body = .error (.decode .truncatedBody) := by
  rw [read, (ConnectionHeader.readsIf_read body).refuses h]
  rfl

namespace Service

/-- **The form of the body of a service**: how many octets there are at least, and the lengths
of structures that stand in it. Only the body of a tunnelling request, behind whose head is the
message, may also have too many. -/
def Admits (service : Service) (body : List UInt8) : Prop :=
  match service with
  | .connectRequest =>
    20 ≤ body.length ∧ body[0]? = some 8 ∧ body[8]? = some 8 ∧ body[16]? = some 4
  | .connectResponse =>
    body.length = 2 ∧ body[1]? ≠ some 0 ∨
      14 ≤ body.length ∧ body[2]? = some 8 ∧ body[10]? = some 4
  | .connectionStateRequest | .disconnectRequest => 10 ≤ body.length ∧ body[2]? = some 8
  | .connectionStateResponse | .disconnectResponse => 2 ≤ body.length
  | .tunnelingRequest =>
    (4 ≤ body.length ∧ body[0]? = some 4) ∧ (body.drop 4).length ≤ 64
  | .tunnelingAck => 4 ≤ body.length ∧ body[0]? = some 4

instance (service : Service) (body : List UInt8) : Decidable (service.Admits body) :=
  match service with
  | .connectRequest | .connectionStateRequest | .disconnectRequest => instDecidableAnd
  | .connectResponse => instDecidableOr
  | .connectionStateResponse | .disconnectResponse => Nat.decLe _ _
  | .tunnelingRequest | .tunnelingAck => instDecidableAnd

/-- A refusal may stop behind its status; a grant may not. -/
example : connectResponse.Admits [7, 0x24] ∧ ¬ connectResponse.Admits [7, 0] := by decide

/-- **Whether a body has too many octets for its service**: it is that of a tunnelling request
with a head and a message that is too long. -/
def Overfills (service : Service) (body : List UInt8) : Prop :=
  service = .tunnelingRequest ∧ (4 ≤ body.length ∧ body[0]? = some 4) ∧ 64 < (body.drop 4).length

theorem Admits.not_overfills {service : Service} {body : List UInt8} (h : service.Admits body) :
    ¬ service.Overfills body := by
  rintro ⟨rfl, -, hlong⟩
  exact Nat.not_le_of_lt hlong h.2

end Service

namespace Frame

/-- Of every other service a body that misses the form is truncated. -/
theorem readsIf_decodeBody {service : Service} (body : List UInt8)
    (h : service ≠ .tunnelingRequest) :
    ReadsIf (.decode .truncatedBody) (service.Admits body) (decodeBody service body) := by
  cases service with
  | connectRequest =>
    refine ((ConnectRequest.readsIf_read body).map _).congr ⟨?_, ?_⟩
    · rintro ⟨⟨-, hcontrol⟩, ⟨-, hdata⟩, hlen, hcri⟩
      exact ⟨hlen, hcontrol, hdata, hcri⟩
    · rintro ⟨hlen, hcontrol, hdata, hcri⟩
      exact ⟨⟨Nat.le_trans (by decide) hlen, hcontrol⟩, ⟨Nat.le_trans (by decide) hlen, hdata⟩,
        hlen, hcri⟩
  | connectResponse =>
    refine ((ConnectResponse.readsIf_read body).map _).congr (or_congr_right ⟨?_, ?_⟩)
    · rintro ⟨⟨-, hdata⟩, hlen, hcrd⟩
      exact ⟨hlen, hdata, hcrd⟩
    · rintro ⟨hlen, hdata, hcrd⟩
      exact ⟨⟨Nat.le_trans (by decide) hlen, hdata⟩, hlen, hcrd⟩
  | connectionStateRequest | disconnectRequest => exact (ChannelRequest.readsIf_read body).map _
  | connectionStateResponse | disconnectResponse => exact (ChannelResponse.readsIf_read body).map _
  | tunnelingRequest => exact absurd rfl h
  | tunnelingAck =>
    exact ((TunnelingAck.readsIf_read body).map _).congr (by simp [BlockAt, Service.Admits])

theorem service_of_decodeBody {service : Service} {body : List UInt8} {f : Frame}
    (h : decodeBody service body = .ok f) : f.service = service := by
  cases service <;>
  · obtain ⟨b, -, rfl⟩ := exists_of_map_eq_ok h
    rfl

/-- **What reading a body gives**, and for which bodies. -/
theorem decodeBody_cases (service : Service) (body : List UInt8) :
    (service.Admits body ∧ ∃ f, decodeBody service body = .ok f ∧ f.service = service) ∨
    (¬ service.Admits body ∧ service.Overfills body ∧
      decodeBody service body = .error (.decode .invalidCemi)) ∨
    (¬ service.Admits body ∧ ¬ service.Overfills body ∧
      decodeBody service body = .error (.decode .truncatedBody)) := by
  by_cases hservice : service = .tunnelingRequest
  · subst hservice
    have hblock : BlockAt 4 0 body ↔ 4 ≤ body.length ∧ body[0]? = some 4 := by simp [BlockAt]
    by_cases hhead : BlockAt 4 0 body
    · have hread := (TunnelingRequest.readsIf_read hhead).map tunnelingRequest
      by_cases hlen : (body.drop 4).length ≤ 64
      · obtain ⟨f, hf⟩ := hread.accepts hlen
        exact .inl ⟨⟨hblock.mp hhead, hlen⟩, f, hf, service_of_decodeBody hf⟩
      · exact .inr (.inl ⟨fun h => hlen h.2, ⟨rfl, hblock.mp hhead, Nat.lt_of_not_le hlen⟩,
          hread.refuses hlen⟩)
    · refine .inr (.inr ⟨fun h => hhead (hblock.mpr h.1), fun h => hhead (hblock.mpr h.2.1), ?_⟩)
      rw [decodeBody, TunnelingRequest.read_of_not_blockAt hhead]
      rfl
  · have hread := readsIf_decodeBody body hservice
    by_cases hform : service.Admits body
    · obtain ⟨f, hf⟩ := hread.accepts hform
      exact .inl ⟨hform, f, hf, service_of_decodeBody hf⟩
    · exact .inr (.inr ⟨hform, fun h => hservice h.1, hread.refuses hform⟩)

/-! ### Frames -/

/-- **Which datagrams are frames, and which fault the others have.** A datagram has a malformed
header if and only if it has no valid one; otherwise its service is unknown if and only if the
header names none; and otherwise its body is that of a frame of the service if and only if it
has the form, has too many octets for the message if it overfills the service, and is truncated
in every other case. -/
theorem decode_outcome_iff (datagram : List UInt8) :
    (decode datagram = .error (.decode .malformedHeader) ↔ ¬ HasHeader datagram) ∧
    (decode datagram = .error (.decode .unknownServiceType) ↔
      HasHeader datagram ∧ ∀ s : Service, ¬ s.IsNamedIn datagram) ∧
    (∀ s : Service, (∃ f, decode datagram = .ok f ∧ f.service = s) ↔
      HasHeader datagram ∧ s.IsNamedIn datagram ∧ s.Admits (datagram.drop 6)) ∧
    (decode datagram = .error (.decode .invalidCemi) ↔
      HasHeader datagram ∧ ∃ s : Service, s.IsNamedIn datagram ∧ s.Overfills (datagram.drop 6)) ∧
    (decode datagram = .error (.decode .truncatedBody) ↔
      HasHeader datagram ∧ ∃ s : Service, s.IsNamedIn datagram ∧
        ¬ s.Admits (datagram.drop 6) ∧ ¬ s.Overfills (datagram.drop 6)) := by
  obtain ⟨hheader, hread⟩ | ⟨hheader, hnone, hread⟩ | ⟨⟨s, total⟩, hheader, hnamed, hread⟩ :=
    Header.read_cases datagram
  · have hdecode : decode datagram = .error (.decode .malformedHeader) := by rw [decode, hread]; rfl
    simp [hdecode, hheader]
  · have hdecode : decode datagram = .error (.decode .unknownServiceType) := by
      rw [decode, hread]; rfl
    simp [hdecode, hheader, hnone]
  · have hdecode : decode datagram = decodeBody s (datagram.drop 6) := by rw [decode, hread]; rfl
    have hiff (s' : Service) : s'.IsNamedIn datagram ↔ s' = s :=
      ⟨fun h => h.unique hnamed, fun h => h ▸ hnamed⟩
    rw [hdecode]
    obtain ⟨hform, f, hf, hs⟩ | ⟨hform, hlong, hf⟩ | ⟨hform, hshort, hf⟩ :=
      decodeBody_cases s (datagram.drop 6)
    · have hshort := hform.not_overfills
      have hadmits (s' : Service) : s = s' ↔ s' = s ∧ s'.Admits (datagram.drop 6) :=
        ⟨fun h => h ▸ ⟨rfl, hform⟩, fun h => h.1.symm⟩
      simpa [hf, hheader, hiff, hform, hshort, hs] using hadmits
    · simp [hf, hheader, hiff, hform, hlong]
    · simp [hf, hheader, hiff, hform, hshort]

end Frame

end KnxIp
