import KnxIp.Proofs.Host.Holdings

/-!
# Calls and their devices

A call that writes to a point, or waits for a value of one, has been handed the point of a device
and keeps it for as long as it runs. All that time the device has to be bound: otherwise the place
of the point in the registry may have become another's. It is, because the calls that use a device
are stopped before it is given up, and because a number that has been given is not given again.

What calls do to the bindings in their turns is little: those to write and those to wait change one,
and the others leave them alone (`KnxIp.Call.Touches`).

## Main statement

* `KnxIp.Host.equipped_run`: after every run, the point of a call is that of a device.
-/

namespace KnxIp

open Registry Client

/-- What goes on after it was put another way went on before. -/
theorem Progress.exists_of_map_waiting {α α' β β' : Type} {r : Progress α β} {f : α → α'}
    {g : β → β'} {b' : β'} (h : r.map f g = .waiting b') : ∃ b, r = .waiting b ∧ b' = g b := by
  cases r with
  | done a => cases h
  | waiting b =>
    cases h
    exact ⟨b, rfl, rfl⟩

/-! ### What calls do to bindings -/

namespace Reading

variable {c : Client} {read : ReadId} {r : Progress (Except Fault Apdu) Reading × Client}

theorem Goes.leaves (h : Goes read c r) :
    r.2.registry.bindings = c.registry.bindings ∧ r.2.heard = c.heard := by
  cases h <;> exact ⟨rfl, rfl⟩

/-- A call that reads leaves bindings alone. -/
theorem leaves_poll (k : Reading) (c : Client) :
    (k.poll c).2.registry.bindings = c.registry.bindings ∧ (k.poll c).2.heard = c.heard := by
  cases hk : k.place? with
  | some read =>
    obtain ⟨c', hc', hg⟩ := goes_poll hk c
    obtain ⟨hregistry, hheard⟩ := Prod.mk.inj hc'
    rw [← hregistry, ← hheard]
    exact hg.leaves
  | none =>
    cases k with
    | start address =>
      rcases goes_poll_start address c with ⟨f, hf⟩ | ⟨read, registry, c', hr, hc', hg⟩
      · rw [hf]
        exact ⟨rfl, rfl⟩
      · obtain ⟨hregistry, hheard⟩ := Prod.mk.inj hc'
        have hbegun : registry.bindings = c.registry.bindings := by
          rcases c.registry.beginRead_cases address with ⟨id, -, hr'⟩ | ⟨-, hr'⟩
          · obtain ⟨-, rfl⟩ := Prod.mk.inj (Except.ok.inj (hr.symm.trans hr'))
            rfl
          · cases hr.symm.trans hr'
        rw [← hbegun, ← hregistry, ← hheard]
        exact hg.leaves
    | sending | awaiting => cases hk

end Reading

namespace Writing

/-- The value that is written. -/
def value (p : Point) (c : Client) : Writing → Value
  | .start setting => valueOf p setting c
  | .queueing v _ => v

/-- A call to write is refused, or its turn is that of a request with the value, which has been
encoded, if not in this turn then before. -/
theorem queued_cases (p : Point) (k : Writing) (c : Client) :
    (∃ f, k.poll p c = (.done (.error f), c)) ∨
      ((∃ v request, k = .queueing v request) ∨ ∃ data, p.dpt.encode (k.value p c) = .ok data) ∧
        ∃ r, r.2.hearing = c.hearing ∧ k.poll p c = queued p (k.value p c) r := by
  cases k with
  | start setting =>
    simp only [poll, value]
    cases he : p.dpt.encode (valueOf p setting c) with
    | error f => exact .inl ⟨f, rfl⟩
    | ok data => exact .inr ⟨.inr ⟨data, rfl⟩, _, Queueing.hearing_poll c _, rfl⟩
  | queueing v request =>
    exact .inr ⟨.inl ⟨v, request, rfl⟩, _, request.hearing_poll c, rfl⟩

end Writing

namespace Call

/-- The point that a call uses. -/
def point? : Call → Option Point
  | .write p _ => some p
  | .update p _ _ => some p
  | _ => none

/-- What a call to write stores, if its turn is the last. -/
def stores? (c : Client) : Call → Option (Point × Value)
  | .write p stage =>
    match (stage.poll p c).1 with
    | .done (.ok ()) => some (p, stage.value p c)
    | _ => none
  | _ => none

/-- **What a call does to bindings in a turn.** -/
inductive Touches (c : Client) (k : Call) (bindings : Vector (Option Binding) maxBindings) : Prop
  /-- Nothing, -/
  | leaves (hb : bindings = c.registry.bindings) (hs : k.stores? c = none)
  /-- or it stores what it has written, -/
  | stores (p : Point) (v : Value) (hb : bindings = (c.registry.store p.binding v).bindings)
      (hs : k.stores? c = some (p, v))
  /-- or it waits for a value and forgets the one that is there. -/
  | waits (p : Point) (asNumber : Bool) (stage : Updating) (hk : k = .update p asNumber stage)
      (hb : bindings = (c.registry.beginWait p.binding).bindings)

variable {c : Client} {k k' : Call} {p : Point}

theorem touches_write (p : Point) (stage : Writing) (c : Client) :
    Touches c (.write p stage) (stage.poll p c).2.registry.bindings ∧
      (stage.poll p c).2.heard = c.heard := by
  rcases stage.queued_cases p c with ⟨f, hf⟩ | ⟨-, r, hr, hpoll⟩
  · rw [hf]
    exact ⟨.leaves rfl (by simp [stores?, hf]), rfl⟩
  · rw [hpoll]
    obtain ⟨(f | _) | request, c'⟩ := r <;> obtain ⟨hregistry, hheard⟩ := Prod.mk.inj hr
    · refine ⟨.leaves (congrArg Registry.bindings hregistry) ?_, hheard⟩
      simp [stores?, hpoll, Writing.queued]
    · refine ⟨.stores p (stage.value p c) ?_ ?_, hheard⟩
      · exact congrArg (fun r : Registry => (r.store p.binding _).bindings) hregistry
      · simp [stores?, hpoll, Writing.queued]
    · refine ⟨.leaves (congrArg Registry.bindings hregistry) ?_, hheard⟩
      simp [stores?, hpoll, Writing.queued]

/-- **A call has a turn**, and does one of these. -/
theorem touches_poll (k : Call) (c : Client) :
    Touches c k (k.poll c).2.registry.bindings ∧ (k.poll c).2.heard = c.heard := by
  have hearing : (k.poll c).2.hearing = c.hearing → k.stores? c = none →
      Touches c k (k.poll c).2.registry.bindings ∧ (k.poll c).2.heard = c.heard := by
    intro h hs
    obtain ⟨hregistry, hheard⟩ := Prod.mk.inj h
    exact ⟨.leaves (congrArg Registry.bindings hregistry) hs, hheard⟩
  cases k with
  | connect stage => exact hearing (stage.hearing_poll c) rfl
  | disconnect stage => exact hearing (stage.hearing_poll c) rfl
  | close stage => exact hearing (stage.hearing_poll c) rfl
  | send stage => exact hearing (stage.hearing_poll c) rfl
  | enqueue stage => exact hearing (stage.hearing_poll c) rfl
  | refused f => exact hearing rfl rfl
  | read form stage =>
    obtain ⟨hb, hheard⟩ := stage.leaves_poll c
    exact ⟨.leaves hb rfl, hheard⟩
  | write p stage => exact touches_write p stage c
  | update p asNumber stage =>
    cases stage with
    | start => exact ⟨.waits p asNumber .start rfl rfl, rfl⟩
    | awaiting =>
      simp only [poll, Updating.poll, Prod.map, id]
      cases hr : c.registry.takeUpdate? p.binding with
      | none => exact ⟨.leaves rfl rfl, rfl⟩
      | some r =>
        obtain ⟨v, -, rfl⟩ := Option.map_eq_some_iff.mp hr
        exact ⟨.waits p asNumber .awaiting rfl rfl, rfl⟩

/-- A call that is stopped leaves bindings alone. -/
theorem leaves_cancel (k : Call) (c : Client) :
    (k.cancel c).registry.bindings = c.registry.bindings ∧ (k.cancel c).heard = c.heard := by
  cases k with
  | send stage =>
    obtain ⟨hregistry, hheard⟩ := Prod.mk.inj (stage.hearing_cancel c)
    exact ⟨congrArg Registry.bindings hregistry, hheard⟩
  | read form stage =>
    obtain ⟨hregistry, hheard⟩ := Prod.mk.inj (stage.hearing_cancel c)
    refine ⟨(congrArg Registry.bindings hregistry).trans ?_, hheard⟩
    cases stage.place? <;> rfl
  | _ => exact ⟨rfl, rfl⟩

/-- Several that are stopped do so, too. -/
theorem leaves_cancelAll (ks : List PendingCall) (c : Client) :
    (ks.foldl (fun c k => k.call.cancel c) c).registry.bindings = c.registry.bindings ∧
      (ks.foldl (fun c k => k.call.cancel c) c).heard = c.heard := by
  induction ks generalizing c with
  | nil => exact ⟨rfl, rfl⟩
  | cons k ks ih =>
    obtain ⟨hb, hheard⟩ := k.call.leaves_cancel c
    obtain ⟨hb', hheard'⟩ := ih (k.call.cancel c)
    exact ⟨hb'.trans hb, hheard'.trans hheard⟩

theorem point?_of_stores? {v : Value} (h : k.stores? c = some (p, v)) : k.point? = some p := by
  unfold stores? at h
  split at h
  · split at h
    · exact congrArg some (Prod.mk.inj (Option.some.inj h)).1
    · cases h
  · cases h

/-- A call goes on with the point that it has. -/
theorem point?_of_waiting (h : (k.poll c).1 = .waiting k') : k'.point? = k.point? := by
  cases k with
  | refused f => cases h
  | _ =>
    obtain ⟨b, -, rfl⟩ := Progress.exists_of_map_waiting h
    rfl

end Call

/-- A call that begins with a point has been asked for with a device. -/
theorem Request.exists_device {config : Config} {find : Nat → Option Device} {r : Request Nat}
    {k : Call} {p : Point} (h : r.call? config find = some k) (hp : k.point? = some p) :
    ∃ n d, r.device? = some n ∧ find n = some d ∧ d.point = p := by
  cases r with
  | device n request =>
    obtain ⟨d, hd, rfl⟩ := Option.map_eq_some_iff.mp h
    refine ⟨n, d, rfl, hd, ?_⟩
    cases request with
    | respond v =>
      simp only [Device.call, Call.respondPoint] at hp
      split at hp <;> cases hp
    | read => cases hp
    | write | toggle | waitUpdate => exact Option.some.inj hp
  | writeValue address dpt v =>
    cases h
    simp only [Call.writeValue] at hp
    split at hp <;> cases hp
  | _ =>
    cases h
    cases hp

namespace Host

/-! ### The devices of calls -/

/-- **The calls have their devices.** -/
structure Equipped (h : Host) : Prop where
  /-- A number that is still to be given belongs to no device. -/
  lt : ∀ d ∈ h.devices, d.1 < h.nextDevice
  /-- The point of a call is that of its device. -/
  device : ∀ k ∈ h.calls, ∀ p, k.call.point? = some p →
    ∃ n d, k.device = some n ∧ h.device? n = some d ∧ d.point = p

variable {h h' : Host} {ms : List Moment} {k : PendingCall} {p : Point} {n : Nat} {d : Device}

theorem mem_devices_of_device? (hd : h.device? n = some d) : (n, d) ∈ h.devices := by
  obtain ⟨⟨n', d'⟩, hfind, rfl⟩ := Option.map_eq_some_iff.mp hd
  obtain rfl : n' = n := by simpa using List.find?_some hfind
  exact List.mem_of_find?_eq_some hfind

/-- **The point of a call is one of the host's.** -/
theorem Equipped.mem_points (he : h.Equipped) (hk : k ∈ h.calls) (hp : k.call.point? = some p) :
    p ∈ h.points := by
  obtain ⟨n, d, -, hd, rfl⟩ := he.device k hk p hp
  exact List.mem_map.mpr ⟨(n, d), mem_devices_of_device? hd, rfl⟩

/-- Where devices stay and calls go on with their points, the calls still have their devices. -/
theorem Equipped.of_calls (he : h.Equipped) (hd : h'.devices = h.devices)
    (hn : h'.nextDevice = h.nextDevice)
    (hcalls : ∀ k' ∈ h'.calls, ∃ k ∈ h.calls, k'.device = k.device ∧
      k'.call.point? = k.call.point?) : h'.Equipped where
  lt := by
    rw [hd, hn]
    exact he.lt
  device k' hk' p hp := by
    obtain ⟨k, hk, hdevice, hpoint⟩ := hcalls k' hk'
    have hsame : h'.device? = h.device? := funext fun n => by rw [device?, device?, hd]
    rw [hdevice, hsame]
    exact he.device k hk p (hpoint ▸ hp)

/-- The other devices are found as before. -/
theorem device?_release {n' : Nat} (hd : h.device? n = some d) (hne : n' ≠ n) :
    (h.release n).device? n' = h.device? n' := by
  have herase : ∀ ds : List (Nat × Device),
      (ds.eraseP fun d => d.1 = n).find? (fun d => d.1 = n') = ds.find? fun d => d.1 = n' := by
    intro ds
    induction ds with
    | nil => rfl
    | cons d ds ih =>
      by_cases hdn : d.1 = n
      · simp [hdn, hne.symm]
      · rw [List.eraseP_cons_of_neg (by simpa using hdn), List.find?_cons, List.find?_cons, ih]
  rw [device?, device?, (devices_release hd).1, herase]

/-- **What every action preserves**: the calls have their devices. -/
theorem Does.equipped (hdoes : h.Does ms h') (he : h.Equipped) : h'.Equipped := by
  cases hdoes with
  | hears hms hc hk hd hn => exact he.of_calls hd hn fun k hk' => ⟨k, hk ▸ hk', rfl, rfl⟩
  | begins hms number r k hr =>
    refine ⟨he.lt, fun k' hk' p hp => ?_⟩
    rcases List.mem_append.mp hk' with hk' | hk'
    · exact he.device k' hk' p hp
    · obtain rfl := List.mem_singleton.mp hk'
      exact Request.exists_device hr hp
  | turn pre k post hcalls hother hc hk hd hn =>
    refine he.of_calls hd hn fun k' hk' => ?_
    have hmem : k' ∈ k.rest h.client ∨ k' ∈ h.calls := by
      rw [hk] at hk'
      simp only [hcalls, List.mem_append, List.mem_cons] at hk' ⊢
      tauto
    rcases hmem with hrest | hk'
    · obtain ⟨call, hcall, rfl⟩ := eq_of_mem_rest hrest
      exact ⟨k, by simp [hcalls], rfl, Call.point?_of_waiting hcall⟩
    · exact ⟨k', hk', rfl, rfl⟩
  | cancels hms p =>
    exact he.of_calls rfl rfl fun k hk => ⟨k, List.mem_of_mem_filter hk, rfl, rfl⟩
  | releases hms n d hd =>
    obtain ⟨hdevices, hnext⟩ := devices_release hd
    constructor
    case lt =>
      intro d' hd'
      rw [hdevices] at hd'
      exact hnext ▸ he.lt d' (List.mem_of_mem_eraseP hd')
    case device =>
      intro k hk p hp
      rw [calls_release hd] at hk
      obtain ⟨hk, hne⟩ := List.mem_filter.mp hk
      obtain ⟨n', d', hn', hd', hp'⟩ := he.device k hk p hp
      have hother : n' ≠ n := by
        rintro rfl
        simp [hn'] at hne
      exact ⟨n', d', hn', (device?_release hd hother).trans hd', hp'⟩
  | binds hms kind p r hr =>
    constructor
    case lt =>
      intro d hd
      rcases List.mem_cons.mp hd with rfl | hd
      · exact Nat.lt_succ_self _
      · exact Nat.lt_succ_of_lt (he.lt d hd)
    case device =>
      intro k hk p' hp'
      obtain ⟨n, d, hn, hd, hp⟩ := he.device k hk p' hp'
      -- The new number is none of those that have been given.
      have hlt : n < h.nextDevice := he.lt _ (mem_devices_of_device? hd)
      refine ⟨n, d, hn, ?_, hp⟩
      rw [device?, List.find?_cons_of_neg (by simpa using Nat.ne_of_gt hlt)]
      exact hd

/-! ### Runs -/

/-- The bindings count the handles of the devices. -/
theorem counts_run (config : Config) (actions : List Action) :
    ((fresh config).run actions).client.registry.Counts ((fresh config).run actions).points :=
  InUse.counts (held_run config actions).holds

/-- **The calls have their devices**, after every run. -/
theorem equipped_run (config : Config) (actions : List Action) :
    ((fresh config).run actions).Equipped := by
  induction actions using List.reverseRecOn with
  | nil => exact ⟨by simp [run, fresh], by simp [run, fresh]⟩
  | append_singleton actions a ih =>
    rw [run_concat]
    exact (does_run config actions a).equipped ih

end Host

end KnxIp
