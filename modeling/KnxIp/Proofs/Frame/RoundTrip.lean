import KnxIp.Proofs.Frame.Header

/-!
# Frames are read as they were written

A frame is written into a fresh buffer without fail, and reading its octets gives it
back – with one exception. A connect response has two optional parts, the endpoint and the
grant, and writes them together or not at all; its octets do not say whether one of them
was there alone. So a response that has only one of the two is read as if it had none. A
response that has none is read as it is if it refuses the session; one that grants the
session has to name both, and is not read at all without them.
`KnxIp.ConnectResponse.IsComplete` says which responses are left, and
`KnxIp.Frame.IsComplete` that no other frame is excepted.

The bodies are taken one by one: for each there is a lemma that reads what
`KnxIp.Frame.bodyWire` has written. They are put together in `KnxIp.Frame.decode_wire`,
which says for every frame what is read from its octets.

## Main statements

* `KnxIp.Frame.decode_wire`: what is read from the octets of a frame.
* `KnxIp.Frame.decode_toBytes_iff`: a frame is read as it was written if and only if it is
  complete, and what is read otherwise.
-/

namespace KnxIp

/-! ### Connect responses -/

namespace ConnectResponse

/-- **Whether the octets of a connect response say all of it**: it has both the endpoint and
the grant, or it has neither and refuses the session. -/
def IsComplete (r : ConnectResponse) : Prop :=
  r.data.isSome = r.crd.isSome ∧ (r.data = none → r.status ≠ 0)

/-- The response without endpoint and grant. -/
def bare (r : ConnectResponse) : ConnectResponse := { r with data := none, crd := none }

/-- **What reading makes of a connect response** that was written: the response itself, if
endpoint and grant were written; otherwise a response without either, if that may be. -/
def reread (r : ConnectResponse) : Except Fault ConnectResponse :=
  match r.data, r.crd with
  | some _, some _ => .ok r
  | _, _ => if r.status = 0 then .error (.decode .truncatedBody) else .ok r.bare

theorem read_tail (r : ConnectResponse) :
    read ([r.channel, r.status] ++ r.tail) = r.reread := by
  obtain ⟨channel, status, data, crd⟩ := r
  -- endpoint and grant are there, and both are read; without them the tail is empty
  rcases data with - | data <;> rcases crd with - | crd
  iterate 3
    · by_cases hs : status = 0 <;>
        simp [read, tail, reread, bare, hs, Hpai.read, bind, Except.bind]
  · have hne : data.wire ++ crd.wire ≠ [] := by simp [Hpai.wire]
    have hcrd : Crd.read crd.wire = .ok (crd, []) := by
      simpa using Crd.read_wire_append crd []
    simp [read, tail, reread, hne, Hpai.read_wire_append, hcrd, bind, Except.bind, pure,
      Except.pure]

/-- A response is read as it was written if and only if it is complete. -/
theorem reread_eq_ok_iff (r : ConnectResponse) : r.reread = .ok r ↔ r.IsComplete := by
  obtain ⟨channel, status, data, crd⟩ := r
  rcases data with - | data <;> rcases crd with - | crd <;>
    by_cases hs : status = 0 <;> simp [reread, IsComplete, bare, hs]

/-- What is read from a response that is not complete. -/
theorem reread_of_not_isComplete {r : ConnectResponse} (h : ¬ r.IsComplete) :
    r.reread = if r.status = 0 then .error (.decode .truncatedBody) else .ok r.bare := by
  obtain ⟨channel, status, data, crd⟩ := r
  rcases data with - | data <;> rcases crd with - | crd
  iterate 3 · rfl
  · exact absurd ⟨rfl, nofun⟩ h

end ConnectResponse

/-! ### The other bodies -/

theorem ConnectRequest.read_wire (b : ConnectRequest) :
    read (b.control.wire ++ (b.data.wire ++ b.cri.wire)) = .ok b := by
  have hcri : Cri.read b.cri.wire = .ok (b.cri, []) := by
    simpa using Cri.read_wire_append b.cri []
  simp [read, Hpai.read_wire_append, hcri, bind, Except.bind, pure, Except.pure]

theorem ChannelRequest.read_wire (b : ChannelRequest) :
    read ([b.channel, 0] ++ b.control.wire) = .ok b := by
  have hcontrol : Hpai.read b.control.wire = .ok (b.control, []) := by
    simpa using Hpai.read_wire_append b.control []
  simp [read, hcontrol, bind, Except.bind, pure, Except.pure]

theorem ChannelResponse.read_wire (b : ChannelResponse) : read [b.channel, b.status] = .ok b :=
  rfl

/-- The message of a tunnelling request has no length of its own: it is what follows the
head. -/
theorem TunnelingRequest.read_wire (b : TunnelingRequest) :
    read (b.header.wire ++ b.message.toList) = .ok b := by
  simp [read, ConnectionHeader.read_wire_append, header, ofOctets, Octets.ofList,
    Octets.ofList?_toList, bind, Except.bind, Except.map]

theorem TunnelingAck.read_wire (b : TunnelingAck) : read b.header.wire = .ok b := rfl

/-! ### Frames -/

namespace Frame

/-- **Whether the octets of a frame say all of it.** -/
def IsComplete : Frame → Prop
  | .connectResponse b => b.IsComplete
  | _ => True

/-- **What is read from the octets of a frame**: the frame itself, unless it is a connect
response. -/
theorem decode_wire (f : Frame) :
    decode f.wire =
      match f with
      | .connectResponse b => b.reread.map .connectResponse
      | f => .ok f := by
  have h : decode f.wire = decodeBody f.service f.bodyWire := by
    rw [decode, read_wire]
    rfl
  rw [h]
  cases f with
  | connectResponse b => simp only [service, bodyWire, decodeBody, b.read_tail]
  | connectRequest b | connectionStateRequest b | connectionStateResponse b
  | disconnectRequest b | disconnectResponse b | tunnelingRequest b | tunnelingAck b =>
    simp only [service, bodyWire, decodeBody, b.read_wire, Except.map]

theorem decode_wire_eq_ok_iff (f : Frame) : decode f.wire = .ok f ↔ f.IsComplete := by
  rw [decode_wire]
  cases f with
  | connectResponse b =>
    simp only [IsComplete, ← b.reread_eq_ok_iff]
    cases h : b.reread <;> simp [Except.map]
  | _ => simp [IsComplete]

/-- **Frames are read as they were written.** Every frame can be written; it is read as it
was if and only if it is complete, which every frame but a connect response is. From a
connect response that is not complete, reading gives nothing if it grants the session, and
otherwise the response without endpoint and grant. -/
theorem decode_toBytes_iff (f : Frame) :
    ∃ octets, f.toBytes = .ok octets ∧
      (decode octets = .ok f ↔ f.IsComplete) ∧
      ∀ r, f = .connectResponse r → ¬ r.IsComplete →
        decode octets =
          if r.status = 0 then .error (.decode .truncatedBody)
          else .ok (.connectResponse r.bare) := by
  refine ⟨f.wire, f.toBytes_eq, f.decode_wire_eq_ok_iff, ?_⟩
  rintro r rfl hr
  rw [decode_wire]
  simp only [r.reread_of_not_isComplete hr]
  by_cases hs : r.status = 0 <;> simp [hs, Except.map]

end Frame

end KnxIp
