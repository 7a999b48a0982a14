import KnxIp.Client.Dispatcher
import KnxIp.Proofs.Cemi.RoundTrip
import KnxIp.Proofs.Dpt.RoundTrip
import KnxIp.Proofs.Frame.RoundTrip
import KnxIp.Proofs.Registry.Tables

/-!
# A value on its way to another client

A value that is written to a group passes through five layers on its way to whoever has the
group bound: its datapoint type makes data of it, the data becomes part of a message, the message
part of a frame, the frame is read on the other side, and so is the message; and there the
registry makes a value of the data again. This module puts the layers together.

The middle of the way leaves the message as it was (`KnxIp.Cemi.carries_groupMessage`), because
what a type writes is never no data at all; so the value depends on the two ends alone, on how
much of it the type keeps (`KnxIp.Dpt.Keeps`).

## Main statement

* `KnxIp.Client.exists_shown_of_encode`: what a type has written is shown, in every client that
  has the group bound with it, as the value that the type reads; and that is the value that was
  written, as far as the type keeps it.
-/

namespace KnxIp

/-! ### Through a frame -/

namespace Cemi

/-- **A message for a group** that brings data: the request to send it, what is seen of it on the
bus, and its confirmation. -/
def groupMessage (code : MessageCode) (source : IndividualAddress) (group : GroupAddress)
    (service : GroupService) (data : Apdu) : Cemi :=
  { groupRequest source group service data with code := code }

/-- **A frame carries a message** from one side to the other: it can be written, its octets are
read as a request of the same session and number, and that has a message, which is this one. -/
def Carries (channel sequence : UInt8) (sent received : Cemi) : Prop :=
  ∃ octets request,
    (Frame.tunnelingRequest (.ofCemi channel sequence sent)).toBytes = .ok octets ∧
      Frame.decode octets = .ok (.tunnelingRequest request) ∧
        request.channel = channel ∧ request.sequence = sequence ∧ request.cemi = .ok received

/-- A faithful message arrives as it was sent. -/
theorem carries_of_isFaithful (channel sequence : UInt8) {c : Cemi} (h : c.telegram.IsFaithful) :
    Carries channel sequence c c := by
  refine ⟨_, .ofCemi channel sequence c, Frame.toBytes_eq _, ?_, rfl, rfl, ?_⟩
  · rw [Frame.decode_wire]
  · exact (parse_wire_eq_ok_iff c).mpr h

/-- **A value arrives** as it was sent. -/
theorem carries_groupMessage (channel sequence : UInt8) (code : MessageCode)
    (source : IndividualAddress) (group : GroupAddress) {service : GroupService} {data : Apdu}
    (hs : service ≠ .read) (hd : data.isEmpty = false) :
    Carries channel sequence (groupMessage code source group service data)
      (groupMessage code source group service data) := by
  refine carries_of_isFaithful channel sequence ?_
  -- Whether a message is faithful is a matter of its telegram, whatever the code.
  exact (isFaithful_groupRequest_iff source group service data).mpr (by rwa [if_neg hs])

end Cemi

/-! ### Into the registry -/

/-- **The value that a group shows**, bound with a type: the last one, which is also there for
whoever waits for one. -/
def Registry.Shows (r : Registry) (group : GroupAddress) (t : Dpt) (v : Value) : Prop :=
  ∃ id b, r.find? group = some id ∧ r.bindings[id] = some b ∧
    b.dpt = t ∧ b.value = some v ∧ b.update = some v

namespace Client

variable {c : Client} {t : Dpt} {v : Value} {data : Apdu} {group : GroupAddress}

/-- **A value from the bus** is shown, and is published as the value of the telegram. -/
theorem shows_onMessage (source : IndividualAddress) {service : GroupService}
    (hs : service ≠ .read) (ht : c.registry.dpt? group = some t)
    (hv : t.decode data.toList = .ok v) :
    let c' := c.onMessage (.ok (.groupMessage .indication source group service data))
    c'.registry.Shows group t v ∧
      c'.outbox = c.outbox ++ [.event
        (.bus ⟨source, .group group, .ofGroupService service, data, some v⟩)] := by
  obtain ⟨id, b, hid, hb, rfl⟩ := Registry.dpt?_eq_some_iff.mp ht
  obtain ⟨reads, hr⟩ := Registry.onTelegram_of_decode hs hid hb hv
  have hc : c.onMessage (.ok (.groupMessage .indication source group service data)) =
      { c with registry := (c.registry.onTelegram service group data).2 }.publish
        (.bus ⟨source, .group group, .ofGroupService service, data,
          (c.registry.onTelegram service group data).1⟩) := by
    simp only [onMessage, Cemi.groupMessage, Cemi.groupRequest, route,
      Apci.groupService?_ofGroupService]
  rw [hc, hr]
  refine ⟨⟨id, b.brought v, ?_, ?_, rfl, rfl, rfl⟩, rfl⟩
  · have hkeeps : (b.brought v).address = b.address := rfl
    exact (Registry.find?_setBinding hb hkeeps group).trans hid
  · exact (Registry.getElem_setBinding ..).trans (if_pos rfl)

/-- **A written value is the value that others read.** The data that a type has written goes to a
group in a frame, as a value or as an answer, and arrives as it was. Every client that hears it
from the bus and has the group bound with the type shows, and reports, what the type reads in the
data: the value that was written, but for a measurement, and for an angle, which may be off by
one. -/
theorem exists_shown_of_encode (h : t.encode v = .ok data) :
    ∃ w, t.decode data.toList = .ok w ∧ t.Keeps v w ∧
      ∀ (code : MessageCode) (source : IndividualAddress) (group : GroupAddress)
        (service : GroupService) (channel sequence : UInt8), service ≠ .read →
        ∃ received : Cemi,
          Cemi.Carries channel sequence (.groupMessage code source group service data) received ∧
            ∀ c : Client, c.registry.dpt? group = some t →
              let c' := c.onMessage (.ok { received with code := .indication })
              c'.registry.Shows group t w ∧
                c'.outbox = c.outbox ++ [.event
                  (.bus ⟨source, .group group, .ofGroupService service, data, some w⟩)] := by
  have hwrites := Dpt.writes_of_encode h
  obtain ⟨w, hw, hkeeps⟩ := hwrites.exists_decode
  refine ⟨w, hw, hkeeps, ?_⟩
  intro code source group service channel sequence hs
  have hd := Dpt.isEmpty_of_writes hwrites
  refine ⟨_, Cemi.carries_groupMessage channel sequence code source group hs hd, ?_⟩
  intro c ht
  exact shows_onMessage source hs ht hw

/-- Two degrees of an angle: of the 255 steps of a circle they are nearest to the first, which is
nearest to one degree. -/
theorem shows_one_degree_of_two :
    let data : Apdu := .octets ⟨[1], by decide⟩
    let registry :=
      Registry.empty.setBinding ⟨0, by decide⟩ (some ⟨⟨0x0A03⟩, .octet .angle, 1, none, none⟩)
    let c := { Client.fresh (.ofGateway ⟨⟨192, 168, 1, 10⟩, 3671⟩) with registry := registry }
    (Dpt.octet .angle).encode (.unsigned 2) = .ok data ∧
      c.registry.dpt? ⟨0x0A03⟩ = some (.octet .angle) ∧
      ∃ received,
        Cemi.Carries 7 3 (.groupMessage .request ⟨0x1101⟩ ⟨0x0A03⟩ .write data) received ∧
          (c.onMessage (.ok { received with code := .indication })).registry.Shows ⟨0x0A03⟩
            (.octet .angle) (.unsigned 1) := by
  intro data registry c
  have hencode : (Dpt.octet .angle).encode (.unsigned 2) = .ok data := rfl
  have hbound : c.registry.dpt? ⟨0x0A03⟩ = some (.octet .angle) := by
    decide +kernel
  obtain ⟨w, hw, -, hshown⟩ := exists_shown_of_encode hencode
  obtain ⟨received, hcarries, hc⟩ :=
    hshown .request ⟨0x1101⟩ ⟨0x0A03⟩ .write 7 3 (by decide)
  obtain rfl : Value.unsigned 1 = w := Except.ok.inj hw
  exact ⟨hencode, hbound, received, hcarries, (hc c hbound).1⟩

end Client

end KnxIp
