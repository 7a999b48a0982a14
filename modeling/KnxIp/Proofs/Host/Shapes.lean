import KnxIp.Proofs.Dpt.RoundTrip
import KnxIp.Proofs.Host.Devices
import KnxIp.Proofs.Registry.Updates

/-!
# The shape of the values that are shown

A datapoint type reads values of one shape (`KnxIp.Dpt.hasShape`), and what telegrams bring to a
binding is what its type reads. But the value of a binding may also be one that this client has
written; it is stored as the caller gave it, and there are values that a type writes although it
reads none of their shape: whole numbers, which are measurements too
(`KnxIp.Dpt.shape_of_encode`). Until a telegram brings another value, all handles of the address
then show a whole number.

## Main statements

* `KnxIp.Host.shapes_run`: after every run, the value of a binding came from the bus or was
  written, all handles of an address show it, and if it does not have the shape of its type then
  it is a whole number that was written as a measurement.
* `KnxIp.Host.exists_misshapen`: this happens.
-/

namespace KnxIp

open Registry Client

/-! ### Shapes -/

namespace Dpt

/-- **Whether a value has the shape of those that a type reads.** -/
def hasShape : Dpt → Value → Bool
  | .boolean _, .bool _ => true
  | .control _, .control _ => true
  | .octet _, .unsigned _ => true
  | .word _, .unsigned _ => true
  | .float _, .float _ => true
  | _, _ => false

variable {t : Dpt} {v : Value} {data : List UInt8} {d : Apdu}

theorem hasShape_of_decode (h : t.decode data = .ok v) : t.hasShape v = true := by
  unfold decode at h
  split at h
  · cases h
    rfl
  · rename_i first rest
    cases hstep : StepCode.ofBits (first.toNat % 8) with
    | error f => simp [hstep, Bind.bind, Except.bind] at h
    | ok step =>
      simp only [hstep, Bind.bind, Except.bind] at h
      cases h
      rfl
  · cases h
    rfl
  · cases h
    rfl
  · cases h
    rfl
  · cases h

/-- **A type writes no other shape** than that which it reads, except that whole numbers are
written as measurements. -/
theorem shape_of_encode (h : t.encode v = .ok d) (hs : t.hasShape v = false) :
    ∃ type n, t = .float type ∧ v = .unsigned n := by
  -- A value that has not the shape, and is no whole number for a measurement, is not written.
  cases t with
  | boolean t | control t | octet t | word t =>
    cases v <;> first | (cases hs; done) | cases h
  | float t =>
    cases v with
    | unsigned n => exact ⟨t, n, rfl, rfl⟩
    | float x => cases hs
    | _ => cases h

end Dpt

/-! ### Values that are written -/

namespace Call

/-- A value that waits for room in the queue has been encoded. -/
def Encodes : Call → Prop
  | .write p (.queueing v _) => ∃ data, p.dpt.encode v = .ok data
  | _ => True

variable {k k' : Call} {c : Client} {p : Point} {v : Value}

theorem Fresh.encodes (h : k.Fresh) : k.Encodes := by
  cases h <;> trivial

theorem Encodes.exists_encode {stage : Writing} (hk : Encodes (.write p stage)) (c : Client)
    (hf : ∀ f, stage.poll p c ≠ (.done (.error f), c)) :
    (∃ data, p.dpt.encode (stage.value p c) = .ok data) ∧
      ∃ r, stage.poll p c = Writing.queued p (stage.value p c) r := by
  rcases stage.queued_cases p c with ⟨f, hfail⟩ | ⟨hencoded, r, -, hpoll⟩
  · exact absurd hfail (hf f)
  · refine ⟨?_, r, hpoll⟩
    rcases hencoded with ⟨v, request, rfl⟩ | hencoded
    · exact hk
    · exact hencoded

/-- **What is stored has been encoded.** -/
theorem Encodes.of_stores? (hk : k.Encodes) (hs : k.stores? c = some (p, v)) :
    ∃ data, p.dpt.encode v = .ok data := by
  unfold stores? at hs
  split at hs
  · rename_i q stage
    split at hs
    · rename_i hdone
      cases hs
      refine (hk.exists_encode c fun f hf => ?_).1
      rw [hf] at hdone
      cases hdone
    · cases hs
  · cases hs

/-- A value is still encoded when its call goes on. -/
theorem Encodes.of_waiting (hk : k.Encodes) (h : (k.poll c).1 = .waiting k') : k'.Encodes := by
  cases k with
  | write q stage =>
    obtain ⟨stage', hp, rfl⟩ : ∃ stage', (stage.poll q c).1 = .waiting stage' ∧
        k' = .write q stage' := Progress.exists_of_map_waiting h
    obtain ⟨hencoded, r, hr⟩ := hk.exists_encode c fun f hf => by
      rw [hf] at hp
      cases hp
    rw [hr] at hp
    obtain ⟨(f | _) | request, c'⟩ := r <;> cases hp
    exact hencoded
  | refused f => cases h
  | _ =>
    obtain ⟨stage', -, rfl⟩ := Progress.exists_of_map_waiting h
    trivial

end Call

/-! ### Where values come from -/

/-- **Where a value comes from** that is shown for an address with a type: a telegram has brought
it, or it was written to a point of that address and type, encoded. -/
inductive Source (heard : List News) (written : List (Point × Value)) (address : GroupAddress)
    (dpt : Dpt) (v : Value) : Prop
  | heard (t : News) (ht : t ∈ heard) (hv : t.valueFor? address dpt = some v)
  | written (p : Point) (hw : (p, v) ∈ written) (ha : p.address = address) (ht : p.dpt = dpt)
      (he : ∃ data, dpt.encode v = .ok data)

/-- Only what is written can be of another shape. -/
theorem Source.misshapen {heard : List News} {written : List (Point × Value)}
    {address : GroupAddress} {dpt : Dpt} {v : Value} (h : Source heard written address dpt v)
    (hs : dpt.hasShape v = false) :
    ∃ type n, dpt = .float type ∧ v = .unsigned n ∧
      ∃ p, (p, v) ∈ written ∧ p.address = address ∧ p.dpt = dpt := by
  cases h with
  | heard t ht hv =>
    obtain ⟨-, -, hdecode⟩ := News.valueFor?_eq_some_iff.mp hv
    exact absurd (Dpt.hasShape_of_decode hdecode) (by simp [hs])
  | written p hw ha ht he =>
    obtain ⟨data, hdata⟩ := he
    obtain ⟨type, n, htype, hn⟩ := Dpt.shape_of_encode hdata hs
    exact ⟨type, n, htype, hn, p, hw, ha, ht⟩

namespace Registry

variable {r r' : Registry} {heard heard' : List News} {written written' : List (Point × Value)}
  {id : BindingId} {v : Value}

/-- **The values of a registry have their sources.** -/
def Sourced (r : Registry) (heard : List News) (written : List (Point × Value)) : Prop :=
  ∀ (id : BindingId) b v, r.bindings[id] = some b → b.value = some v →
    Source heard written b.address b.dpt v

theorem Sourced.mono (h : r.Sourced heard written) (hw : written ⊆ written') :
    r.Sourced heard written' := by
  intro id b v hb hv
  cases h id b v hb hv with
  | heard t ht hv => exact .heard t ht hv
  | written p hp ha ht he => exact .written p (hw hp) ha ht he

/-- A binding that has the value, the address and the type of one before has its source. -/
theorem Sourced.of_binding (h : r.Sourced heard written)
    (hb : ∀ (id : BindingId) b', r'.bindings[id] = some b' → b'.value = none ∨
      ∃ b, r.bindings[id] = some b ∧ b.value = b'.value ∧ b.address = b'.address ∧
        b.dpt = b'.dpt) : r'.Sourced heard written := by
  intro id b' v hb' hv
  rcases hb id b' hb' with hnone | ⟨b, hb, hvalue, ha, ht⟩
  · cases hv.symm.trans hnone
  · rw [← ha, ← ht]
    exact h id b v hb (hvalue.trans hv)

theorem Sourced.congr (h : r.Sourced heard written) (hb : r'.bindings = r.bindings) :
    r'.Sourced heard written := by
  unfold Sourced
  rwa [hb]

theorem Sourced.hear (h : r.Sourced heard written) (t : News) :
    (r.onTelegram t.service t.address t.data).2.Sourced (heard ++ [t]) written := by
  have hbefore : r.Sourced (heard ++ [t]) written := by
    intro id b v hb hv
    cases h id b v hb hv with
    | heard t' ht' hv => exact .heard t' (List.mem_append_left _ ht') hv
    | written p hp ha ht he => exact .written p hp ha ht he
  intro id b' v hb' hv
  rw [getElem_bindings_onTelegram] at hb'
  split at hb'
  · obtain ⟨b, hb, rfl⟩ := Option.map_eq_some_iff.mp hb'
    cases hw : t.valueFor? b.address b.dpt with
    | none =>
      rw [Binding.hear_of_none hw] at hv ⊢
      exact hbefore id b v hb hv
    | some w =>
      rw [Binding.hear_of_some hw] at hv ⊢
      obtain rfl := Option.some.inj hv
      exact .heard t (by simp) hw
  · exact hbefore id b' v hb' hv

/-- A value that is written has its source. -/
theorem Sourced.store {p : Point} {ps : List Point} (h : r.Sourced heard written)
    (hcounts : r.Counts ps) (hp : p ∈ ps) (hw : (p, v) ∈ written)
    (he : ∃ data, p.dpt.encode v = .ok data) :
    (r.store p.binding v).Sourced heard written := by
  obtain ⟨b, hb, ha, ht⟩ := hcounts.exists_binding hp
  intro id b' v' hb' hv'
  rw [Registry.store, modifyBinding, getElem_setBinding] at hb'
  split at hb'
  · rw [hb, Option.map_some] at hb'
    obtain rfl := Option.some.inj hb'
    obtain rfl := Option.some.inj hv'
    exact .written p hw ha.symm ht.symm (ht ▸ he)
  · exact h id b' v' hb' hv'

theorem Sourced.beginWait (h : r.Sourced heard written) (id : BindingId) :
    (r.beginWait id).Sourced heard written := by
  refine h.of_binding fun id' b' hb' => .inr ?_
  rw [Registry.beginWait, modifyBinding, getElem_setBinding] at hb'
  split at hb'
  · subst id'
    obtain ⟨b, hb, rfl⟩ := Option.map_eq_some_iff.mp hb'
    exact ⟨b, hb, rfl, rfl, rfl⟩
  · exact ⟨b', hb', rfl, rfl, rfl⟩

theorem Sourced.unbind (h : r.Sourced heard written) (id : BindingId) :
    (r.unbind id).Sourced heard written := by
  refine h.of_binding fun id' b' hb' => .inr ?_
  obtain ⟨b, hb, heq⟩ := eq_of_unbind hb'
  rw [heq]
  exact ⟨b, hb, rfl, rfl, rfl⟩

theorem Sourced.bind {address : GroupAddress} {dpt : Dpt} (h : r.Sourced heard written)
    (hr : r.bind address dpt = .ok (id, r')) : r'.Sourced heard written := by
  refine h.of_binding fun id' b' hb' => ?_
  rcases eq_of_bind hr hb' with ⟨b, hb, heq⟩ | ⟨-, rfl⟩
  · rw [heq]
    exact .inr ⟨b, hb, rfl, rfl, rfl⟩
  · exact .inl rfl

end Registry

namespace Host

/-- What a call stores at a moment, if it stores something then. -/
def Moment.stored? (m : Moment) : Option (Point × Value) :=
  match m.deed with
  | .call k => k.call.stores? m.before
  | _ => none

/-- **The values that have been written**, each with the point. -/
def stored (ms : List Moment) : List (Point × Value) := ms.filterMap Moment.stored?

variable {h h' : Host} {ms ms' : List Moment}

theorem stored_subset (ms ms' : List Moment) : stored ms ⊆ stored (ms ++ ms') := by
  rw [stored, stored, List.filterMap_append]
  exact List.subset_append_left _ _

/-- **What every action preserves**: the values of the bindings have their sources. -/
theorem Does.sourced (hdoes : h.Does ms' h') (hcounts : h.client.registry.Counts h.points)
    (he : h.Equipped) (hencodes : ∀ k ∈ h.calls, k.call.Encodes)
    (hs : h.client.registry.Sourced h.client.heard (stored ms)) :
    h'.client.registry.Sourced h'.client.heard (stored (ms ++ ms')) := by
  have hbefore := hs.mono (stored_subset ms ms')
  cases hdoes with
  | hears hms hc =>
    exact Listens.induction (P := fun x => x.1.Sourced x.2 _) hc (fun _ t hx => hx.hear t) hbefore
  | begins => exact hbefore
  | turn pre k post hcalls hother hc =>
    have hk : k ∈ h.calls := by simp [hcalls]
    obtain ⟨htouches, hheard⟩ := k.call.touches_poll h.client
    rw [hc, hheard]
    cases htouches with
    | leaves hb => exact hbefore.congr hb
    | stores p v hb hstores =>
      have hp := he.mem_points hk (Call.point?_of_stores? hstores)
      have hwritten : (p, v) ∈
          stored (ms ++ [⟨.call k, h.client, (k.call.poll h.client).2⟩]) := by
        simp [stored, Moment.stored?, hstores]
      exact (hbefore.store hcounts hp hwritten ((hencodes k hk).of_stores? hstores)).congr hb
    | waits p asNumber stage _ hb => exact (hbefore.beginWait p.binding).congr hb
  | cancels hms p =>
    obtain ⟨hb, hheard⟩ := Call.leaves_cancelAll (h.calls.filter p) h.client
    have hafter : (h.cancelCalls p).client.heard = h.client.heard := hheard
    rw [hafter]
    exact hbefore.congr hb
  | releases hms n d hd =>
    obtain ⟨hb, hheard⟩ :=
      Call.leaves_cancelAll (h.calls.filter fun k => k.device = some n) h.client
    have hafter : (h.release n).client.heard = h.client.heard := by
      rw [client_release hd]
      exact hheard
    rw [hafter, client_release hd]
    exact Sourced.unbind (hbefore.congr hb) d.point.binding
  | binds hms kind p r hr => exact hbefore.bind hr

/-! ### Runs -/

theorem encodes_run (config : Config) (actions : List Action) :
    ∀ k ∈ ((fresh config).run actions).calls, k.call.Encodes := by
  induction actions using List.reverseRecOn with
  | nil => exact fun k hk => by cases hk
  | append_singleton actions a ih =>
    intro k hk
    rw [run_concat] at hk
    rcases (does_run config actions a).mem_calls hk with hk | hfresh | ⟨k', hk', hrest⟩
    · exact ih k hk
    · exact hfresh.encodes
    · obtain ⟨call, hcall, rfl⟩ := eq_of_mem_rest hrest
      exact (ih k' hk').of_waiting hcall

/-- **The values of the bindings have their sources**, after every run. -/
theorem sourced_run (config : Config) (actions : List Action) :
    let h := (fresh config).run actions
    h.client.registry.Sourced h.client.heard (stored ((fresh config).history actions)) := by
  induction actions using List.reverseRecOn with
  | nil =>
    intro h id b v hb
    simp [h, run, fresh, Client.fresh] at hb
  | append_singleton actions a ih =>
    rw [run_concat, history_concat]
    exact (does_run config actions a).sourced (counts_run config actions)
      (equipped_run config actions) (encodes_run config actions) ih

/-- **What is shown of values**, and what shape it has. -/
structure ShapesExact (h : Host) (ms : List Moment) : Prop where
  /-- All handles of an address are of one type, and show one value. -/
  shared : ∀ p ∈ h.points, ∀ q ∈ h.points, p.address = q.address →
    p.dpt = q.dpt ∧ h.client.pointValue? p = h.client.pointValue? q
  /-- The value of a binding came from the bus, or it was written. -/
  source : ∀ (id : BindingId) b v, h.client.registry.bindings[id] = some b → b.value = some v →
    Source h.client.heard (stored ms) b.address b.dpt v
  /-- It has the shape of the type, unless it is a whole number that was written to a point of
  that address as a measurement. -/
  shape : ∀ (id : BindingId) b v, h.client.registry.bindings[id] = some b → b.value = some v →
    b.dpt.hasShape v = false →
      ∃ type n, b.dpt = .float type ∧ v = .unsigned n ∧
        ∃ p, (p, v) ∈ stored ms ∧ p.address = b.address ∧ p.dpt = b.dpt
  /-- A value that a call writes is shown as the caller gave it, with all handles. -/
  shown : ∀ k ∈ h.calls, ∀ p v, k.call.stores? h.client = some (p, v) →
    ∀ q ∈ h.points, q.address = p.address → (k.call.poll h.client).2.pointValue? q = some v

/-- A call that stores a value has its turn. -/
theorem pointValue?_poll {k : PendingCall} {p q : Point} {v : Value}
    (hcounts : h.client.registry.Counts h.points) (hq : q ∈ h.points)
    (hpq : q.binding = p.binding) (hstores : k.call.stores? h.client = some (p, v)) :
    (k.call.poll h.client).2.pointValue? q = some v := by
  obtain ⟨htouches, -⟩ := k.call.touches_poll h.client
  obtain ⟨b, hbinding, -⟩ := hcounts.exists_binding hq
  cases htouches with
  | leaves hb hs => cases hs.symm.trans hstores
  | stores p' v' hb hs =>
    obtain ⟨rfl, rfl⟩ := Prod.mk.inj (Option.some.inj (hstores.symm.trans hs))
    rw [Client.pointValue?, value?, hb, Registry.store, modifyBinding, getElem_setBinding,
      if_pos hpq.symm, ← hpq, hbinding]
    rfl
  | waits p' asNumber stage hk hb =>
    rw [hk] at hstores
    cases hstores

/-- **Values have the shape of their type, but for whole numbers that are written as
measurements.** After every run, the value of a binding came from the bus, read with its type, or a
call has written it, encoded with its type; and all handles of the address show it. So it has the
shape of the type, unless it is a whole number that a call has written to a point whose type is
one of measurements: this is shown as it was written. -/
theorem shapes_run (config : Config) (actions : List Action) :
    ((fresh config).run actions).ShapesExact ((fresh config).history actions) := by
  have hcounts := counts_run config actions
  have hequipped := equipped_run config actions
  have hsourced := sourced_run config actions
  generalize (fresh config).run actions = h at hcounts hequipped hsourced ⊢
  constructor
  case shared =>
    intro p hp q hq ha
    have hplace := (hcounts.address_eq_iff hp hq).mp ha
    obtain ⟨b, hb, -, ht⟩ := hcounts.exists_binding hp
    exact ⟨ht.symm.trans (hcounts.eq_of_binding hb hq hplace.symm).2.symm,
      by rw [Client.pointValue?, Client.pointValue?, hplace]⟩
  case source => exact hsourced
  case shape => exact fun id b v hb hv hs => (hsourced id b v hb hv).misshapen hs
  case shown =>
    intro k hk p v hstores q hq ha
    refine pointValue?_poll hcounts hq ?_ hstores
    have hp := hequipped.mem_points hk (Call.point?_of_stores? hstores)
    exact (hcounts.address_eq_iff hq hp).mp ha

/-- **It does happen that a value has not the shape of its type**: a session is open, a temperature
is bound by two handles, and through one of them a call writes a whole number. It is sent as a
measurement; and what both handles show is the whole number. -/
theorem exists_misshapen : ∃ (config : Config) (actions : List Action) (id : BindingId)
    (b : Binding) (v : Value), ((fresh config).run actions).client.registry.bindings[id] = some b ∧
      b.handles = 2 ∧ b.value = some v ∧ b.dpt.hasShape v = false := by
  let gateway : Endpoint := ⟨⟨192, 168, 1, 10⟩, 3671⟩
  let granted : Frame := .connectResponse
    ⟨7, 0, some (Hpai.ofEndpoint gateway), some (Crd.tunnel ⟨0x11FF⟩)⟩
  let temperature : Dpt := .float .temperature
  refine ⟨.ofGateway gateway, [.startDriver, .begin 0 .connect, .pollCall 0,
    .arrive ⟨granted.octets, gateway⟩, .pollDriver, .pollCall 0,
    .bind (.point temperature) ⟨0x0A01⟩, .bind (.sensor temperature) ⟨0x0A01⟩,
    .begin 1 (.device 0 (.write (.unsigned 21))), .pollCall 1], ⟨0, by decide⟩,
    ⟨⟨0x0A01⟩, temperature, 2, some (.unsigned 21), none⟩, .unsigned 21, ?_⟩
  decide +kernel

end Host

end KnxIp
