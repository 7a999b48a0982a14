import KnxIp.Client.Dispatcher
import KnxIp.Proofs.Registry.Reads
import KnxIp.Proofs.Registry.Updates

/-!
# Where a telegram goes

A telegram that comes from the bus is published, and if it is for a group then the registry is
told of it. There it can do three things: bring a value to the binding of the group, leave that
value for whoever waits for one, and answer the reads of the group. Which of them it does depends
on its destination, its service, the binding, and whether the type of the binding can read the
data; and what is published has to agree with it.

`KnxIp.Telegram.Brings` says when a telegram brings a value. The main statement,
`KnxIp.Client.routed_route`, is that all three effects, and the event, follow from that and from
nothing else, and that nothing else is changed.
-/

namespace KnxIp

open Registry

/-- The telegram for a group, as the registry is told of it. -/
def Telegram.news? (t : Telegram) : Option News :=
  match t.destination, t.apci.bind Apci.groupService? with
  | .group address, some service => some ⟨service, address, t.data⟩
  | _, _ => none

/-- **A telegram brings a value** to an address: it is for that group, as a value or as an answer,
and the address is bound with a type that reads the value in the data. -/
def Telegram.Brings (t : Telegram) (r : Registry) (address : GroupAddress) (v : Value) : Prop :=
  t.destination = .group address ∧
    (t.apci = some .groupValueWrite ∨ t.apci = some .groupValueResponse) ∧
      ∃ dpt, r.dpt? address = some dpt ∧ dpt.decode t.data.toList = .ok v

/-- **A telegram answers a read** of its group, if it is an answer. -/
def Telegram.Answers (t : Telegram) (slot : ReadSlot) : Prop :=
  ∃ address, t.destination = .group address ∧ t.apci = some .groupValueResponse ∧
    slot = .waiting address

namespace Client

variable {c : Client} {t : Telegram} {apci : Apci}

/-- **A telegram has been delivered**, and has done what it had to. -/
structure Routed (c c' : Client) (t : Telegram) : Prop where
  /-- A telegram without a service is nothing. -/
  silent : t.apci = none → c' = c
  /-- Any other is published once, with the value that it brings, if it brings one; and nothing is
  changed but the registry. -/
  published : ∀ apci, t.apci = some apci → ∃ value,
    (∀ v, value = some v ↔ ∃ address, t.Brings c.registry address v) ∧
      c' = { c with
        registry := c'.registry
        outbox := c.outbox ++ [.event (.bus ⟨t.source, t.destination, apci, t.data, value⟩)] }
  /-- The value that it brings is now the value of the binding, and is there for who waits. -/
  brought : ∀ address v id, t.Brings c.registry address v → c.registry.find? address = some id →
    c'.registry.bindings[id] =
      c.registry.bindings[id].map fun b => { b with value := some v, update := some v }
  /-- All other bindings are as they were, -/
  kept : ∀ id : BindingId,
    (∀ address v, t.Brings c.registry address v → c.registry.find? address ≠ some id) →
      c'.registry.bindings[id] = c.registry.bindings[id]
  /-- and every binding keeps its address, its type and its handles. -/
  bare : ∀ id : BindingId, c'.registry.bindings[id].map Binding.bare =
    c.registry.bindings[id].map Binding.bare
  /-- The reads that it answers have the answer, -/
  answered : ∀ id : ReadId, t.Answers c.registry.reads[id] →
    c'.registry.reads[id] = .answered t.data
  /-- and all others are as they were. -/
  unanswered : ∀ id : ReadId, ¬ t.Answers c.registry.reads[id] →
    c'.registry.reads[id] = c.registry.reads[id]

/-! ### What the registry is told -/

/-- **A telegram with a service** goes to the registry, if it is for a group, and is published with
the value that the registry reads in it. -/
theorem route_eq (c : Client) (ha : t.apci = some apci) :
    c.route t =
      { c with
        registry := (t.news?.map fun n =>
          (c.registry.onTelegram n.service n.address n.data).2).getD c.registry
        outbox := c.outbox ++ [.event (.bus ⟨t.source, t.destination, apci, t.data,
          t.news?.bind fun n => (c.registry.onTelegram n.service n.address n.data).1⟩)] } := by
  unfold route Telegram.news?
  simp only [ha, Option.bind_some]
  cases t.destination with
  | individual address => rfl
  | group address => cases apci.groupService? <;> rfl

end Client

namespace Telegram

variable {t : Telegram} {r : Registry} {n : News} {address : GroupAddress} {v : Value}

theorem news?_eq_some_iff :
    t.news? = some n ↔ t.destination = .group n.address ∧
      t.apci = some (.ofGroupService n.service) ∧ t.data = n.data := by
  obtain ⟨service, address, data⟩ := n
  unfold news?
  cases hd : t.destination with
  | individual address' => simp
  | group address' =>
    rcases ha : t.apci with _ | _ | _ | _ | code <;> cases service <;>
      simp [Apci.groupService?, Apci.ofGroupService]

/-- What a telegram brings is what the registry reads in it. -/
theorem brings_iff :
    t.Brings r address v ↔
      ∃ n, t.news? = some n ∧ n.address = address ∧
        ∃ dpt, r.dpt? address = some dpt ∧ n.valueFor? address dpt = some v := by
  simp only [news?_eq_some_iff, News.valueFor?_eq_some_iff]
  constructor
  · rintro ⟨hd, ha, dpt, hdpt, hv⟩
    rcases ha with ha | ha
    · exact ⟨⟨.write, address, t.data⟩, ⟨hd, ha, rfl⟩, rfl, dpt, hdpt, by simp, rfl, hv⟩
    · exact ⟨⟨.response, address, t.data⟩, ⟨hd, ha, rfl⟩, rfl, dpt, hdpt, by simp, rfl, hv⟩
  · rintro ⟨⟨service, address', data⟩, ⟨hd, ha, hdata⟩, rfl, dpt, hdpt, hs, -, hv⟩
    refine ⟨hd, ?_, dpt, hdpt, hdata ▸ hv⟩
    cases service with
    | read => exact absurd rfl hs
    | write => exact .inl ha
    | response => exact .inr ha

/-- So is what it answers. -/
theorem answers_iff {slot : ReadSlot} :
    t.Answers slot ↔ ∃ n, t.news? = some n ∧ n.service = .response ∧ slot = .waiting n.address := by
  simp only [news?_eq_some_iff]
  constructor
  · rintro ⟨address, hd, ha, hslot⟩
    exact ⟨⟨.response, address, t.data⟩, ⟨hd, ha, rfl⟩, rfl, hslot⟩
  · rintro ⟨⟨service, address, data⟩, ⟨hd, ha, -⟩, rfl, hslot⟩
    exact ⟨address, hd, ha, hslot⟩

end Telegram

namespace Client

variable {c : Client} {t : Telegram} {apci : Apci} {n : News}

/-! ### What it does with it -/

/-- A telegram without a service, or not for a group, is not for the registry. -/
theorem registry_route_of_none (c : Client) (hn : t.news? = none) :
    (c.route t).registry = c.registry := by
  cases ha : t.apci with
  | none => simp [route, ha]
  | some apci => simp [route_eq c ha, hn]

theorem registry_route_of_news (c : Client) (hn : t.news? = some n) :
    (c.route t).registry = (c.registry.onTelegram n.service n.address n.data).2 := by
  obtain ⟨-, ha, -⟩ := Telegram.news?_eq_some_iff.mp hn
  simp [route_eq c ha, hn]

/-- The value that is published is the one that the telegram brings. -/
theorem bind_onTelegram_eq_some_iff {r : Registry} {v : Value} :
    (t.news?.bind fun n => (r.onTelegram n.service n.address n.data).1) = some v ↔
      ∃ address, t.Brings r address v := by
  simp only [fst_onTelegram, Option.bind_eq_some_iff, Telegram.brings_iff]
  constructor
  · rintro ⟨n, hn, dpt, hdpt, hv⟩
    exact ⟨_, n, hn, rfl, dpt, hdpt, hv⟩
  · rintro ⟨_, n, hn, rfl, dpt, hdpt, hv⟩
    exact ⟨n, hn, dpt, hdpt, hv⟩

/-- A binding that is brought no value is as it was. -/
theorem getElem_route_of_not_brings {id : BindingId}
    (h : ∀ address v, t.Brings c.registry address v → c.registry.find? address ≠ some id) :
    (c.route t).registry.bindings[id] = c.registry.bindings[id] := by
  cases hn : t.news? with
  | none => rw [registry_route_of_none c hn]
  | some n =>
    rw [registry_route_of_news c hn, getElem_bindings_onTelegram]
    split
    · rename_i hid
      obtain ⟨b, hb, ha⟩ := exists_of_find? hid
      have hdpt : c.registry.dpt? n.address = some b.dpt :=
        dpt?_eq_some_iff.mpr ⟨id, b, hid, hb, rfl⟩
      have hnone : n.valueFor? b.address b.dpt = none := by
        rw [ha]
        refine Option.eq_none_iff_forall_ne_some.mpr fun v hv => ?_
        exact h n.address v (Telegram.brings_iff.mpr ⟨n, hn, rfl, b.dpt, hdpt, hv⟩) hid
      rw [hb, Option.map_some, Binding.hear_of_none hnone]
    · rfl

/-- **Every telegram is routed**, whatever is bound and read. A telegram with a service is
published, once, with the value that it brings to the binding of its group; that binding has the
value from then on, and whoever waits for one can have it; if the telegram is an answer then the
reads of its group, and they alone, have their answer; and nothing else is changed. -/
theorem routed_route (c : Client) (t : Telegram) : c.Routed (c.route t) t := by
  constructor
  case silent =>
    intro ha
    simp [route, ha]
  case published =>
    intro apci ha
    exact ⟨_, fun v => bind_onTelegram_eq_some_iff, by rw [route_eq c ha]⟩
  case brought =>
    intro address v id hv hid
    obtain ⟨n, hn, rfl, dpt, hdpt, hv⟩ := Telegram.brings_iff.mp hv
    obtain ⟨id', b, hid', hb, rfl⟩ := dpt?_eq_some_iff.mp hdpt
    obtain rfl := Option.some.inj (hid.symm.trans hid')
    obtain ⟨b', hb', ha⟩ := exists_of_find? hid
    obtain rfl := Option.some.inj (hb.symm.trans hb')
    rw [registry_route_of_news c hn, getElem_bindings_onTelegram, if_pos hid, hb, Option.map_some,
      Option.map_some, Binding.hear_of_some (ha ▸ hv)]
    rfl
  case kept => exact fun id h => getElem_route_of_not_brings h
  case bare =>
    intro id
    cases hn : t.news? with
    | none => rw [registry_route_of_none c hn]
    | some n =>
      rw [registry_route_of_news c hn]
      exact bare_onTelegram _ _ _ _ _
  case answered =>
    intro id h
    obtain ⟨n, hn, hs, hslot⟩ := Telegram.answers_iff.mp h
    obtain ⟨-, -, hdata⟩ := Telegram.news?_eq_some_iff.mp hn
    rw [registry_route_of_news c hn, getElem_onTelegram, if_pos ⟨hs, hslot⟩, hdata]
  case unanswered =>
    intro id h
    cases hn : t.news? with
    | none => rw [registry_route_of_none c hn]
    | some n =>
      rw [registry_route_of_news c hn, getElem_onTelegram]
      exact if_neg fun hslot => h (Telegram.answers_iff.mpr ⟨n, hn, hslot⟩)

end Client

end KnxIp
