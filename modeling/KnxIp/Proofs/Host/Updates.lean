import KnxIp.Proofs.Host.Devices
import KnxIp.Proofs.Registry.Updates

/-!
# Calls that wait for a value

A binding has one place for a value that came from the bus and has not been waited for. Who waits
empties it first, and then looks, turn by turn, whether something is there. So what is found there
came since the wait began, and it is the last that came
(`KnxIp.Registry.lastValue?`): not a value that was there before, nor one of an earlier binding of
the place, nor one that was written.

This does not need the waits of an address to come one at a time. What needs it is the other half,
that a value which came is still there when the call looks: two calls that wait for values of one
address empty the place for each other (`KnxIp.Host.WaitsAlone`).

## Main statement

* `KnxIp.Host.updates_run`: after every run, a call that waits answers with the last value that
  came for its point since it began to wait, and with nothing else; and if every call waits alone,
  then such a value stays there until the call takes it.
-/

namespace KnxIp

open Registry Client

/-! ### What a call finds -/

namespace Client

variable {c c' : Client} {p : Point} {since : Nat} {alone alone' : Prop} {ps : List Point}

/-- **What is there for who waits** for a value of a point since so many telegrams were heard: the
last value that has come – or nothing, if others may have taken it. -/
structure Finds (alone : Prop) (c : Client) (p : Point) (since : Nat) : Prop where
  le : since ≤ c.heard.length
  value : c.registry.update? p.binding = lastValue? (c.heard.drop since) p.address p.dpt ∨
    ¬ alone ∧ c.registry.update? p.binding = none

theorem Finds.mono (h : c.Finds alone p since) (hle : alone' → alone) :
    c.Finds alone' p since := ⟨h.le, h.value.imp id fun hv => ⟨fun ha => hv.1 (hle ha), hv.2⟩⟩

theorem Finds.of_eq (h : c.Finds alone p since) (hheard : c'.heard = c.heard)
    (hu : c'.registry.update? p.binding = c.registry.update? p.binding) :
    c'.Finds alone p since := by
  refine ⟨hheard ▸ h.le, ?_⟩
  rw [hu, hheard]
  exact h.value

/-- Another may have emptied the place. -/
theorem Finds.of_none (h : c.Finds alone p since) (hheard : c'.heard = c.heard)
    (hu : c'.registry.update? p.binding = none) (ha : ¬ alone) : c'.Finds alone p since :=
  ⟨hheard ▸ h.le, .inr ⟨ha, hu⟩⟩

/-- **A wait begins**, with the place empty. -/
theorem finds_beginWait (alone : Prop) (c : Client) (p : Point) :
    Finds alone { c with registry := c.registry.beginWait p.binding } p c.heard.length := by
  refine ⟨Nat.le_refl _, .inl ?_⟩
  have hdrop : c.heard.drop c.heard.length = [] := List.drop_length
  rw [update?_beginWait, if_pos rfl]
  exact (congrArg (lastValue? · p.address p.dpt) hdrop).symm

/-- **While telegrams are heard**, the last value is there. -/
theorem Finds.listens (h : c.Finds alone p since) (hcounts : c.registry.Counts ps) (hp : p ∈ ps)
    (hc : c.Listens c') : c'.Finds alone p since := by
  let P (x : Registry × List News) : Prop := x.1.Counts ps ∧ since ≤ x.2.length ∧
    (x.1.update? p.binding = lastValue? (x.2.drop since) p.address p.dpt ∨
      ¬ alone ∧ x.1.update? p.binding = none)
  have hstep : ∀ x t, P x → P (hear x t) := by
    rintro ⟨r, heard⟩ t ⟨hcounts, hle, hvalue⟩
    refine ⟨hcounts.of_bare (bare_onTelegram r _ _ _), ?_, ?_⟩
    · exact Nat.le_trans hle (by simp [hear])
    · simp only [hear, hcounts.update?_onTelegram hp, List.drop_append_of_le_length hle,
        lastValue?_concat]
      -- A telegram that brings a value makes good what another has taken.
      cases t.valueFor? p.address p.dpt with
      | none => simpa using hvalue
      | some v => exact .inl rfl
  obtain ⟨-, hle, hvalue⟩ := Listens.induction hc hstep ⟨hcounts, h.le, h.value⟩
  exact ⟨hle, hvalue⟩

end Client

/-! ### Waits in the history -/

namespace Call

/-- The point for a value of which a call waits. -/
def awaited? : Call → Option Point
  | .update p _ .awaiting => some p
  | _ => none

/-- The wait that a call is about to begin: its point, and how many telegrams have been heard by
then. -/
def begins? (heard : List News) : Call → Option (Point × Nat)
  | .update p _ .start => some (p, heard.length)
  | _ => none

theorem point?_of_awaited? {k : Call} {p : Point} (h : k.awaited? = some p) :
    k.point? = some p := by
  unfold awaited? at h
  split at h
  · exact h
  · cases h

theorem Fresh.awaited? {k : Call} (h : k.Fresh) : k.awaited? = none := by
  cases h <;> rfl

end Call

namespace Host

/-- **The last wait of a call** of this number. -/
def began? (ms : List Moment) (number : Nat) : Option (Point × Nat) :=
  said? (fun c k => k.begins? c.heard) ms number

/-- **Every call waits alone**: no two wait for values of one address. -/
def WaitsAlone (h : Host) : Prop :=
  (h.calls.filterMap fun k => k.call.awaited?.map Point.address).Nodup

instance (h : Host) : Decidable h.WaitsAlone := inferInstanceAs (Decidable (List.Nodup _))

/-- **The calls that wait find what they should**. -/
def Awaits (alone : Prop) (h : Host) (ms : List Moment) : Prop :=
  ∀ k ∈ h.calls, ∀ p, k.call.awaited? = some p →
    ∃ since, began? ms k.number = some (p, since) ∧ h.client.Finds alone p since

variable {h h' : Host} {ms ms' : List Moment} {alone : Prop} {k k' : PendingCall} {p p' : Point}
  {pre post : List PendingCall}

theorem began?_silent (hms : Silent ms') (number : Nat) :
    began? (ms ++ ms') number = began? ms number := said?_silent hms ms number

theorem began?_turn (c c' : Client) (number : Nat) :
    began? (ms ++ [⟨.call k, c, c'⟩]) number =
      (if k.number = number then k.call.begins? c.heard else none).or (began? ms number) :=
  said?_turn ms k c c' number

/-- Two calls that wait do so for values of different addresses. -/
theorem WaitsAlone.address_ne (ha : h.WaitsAlone) (hcalls : h.calls = pre ++ k :: post)
    (hk : k.call.awaited? = some p) (hk' : k' ∈ pre ++ post) (hp' : k'.call.awaited? = some p') :
    p.address ≠ p'.address := by
  rw [WaitsAlone, hcalls] at ha
  have hnodup := (filterMap_middle_perm _ pre k post).nodup_iff.mp ha
  intro heq
  refine (List.nodup_append.mp hnodup).2.2 p.address (by simp [hk]) p'.address ?_ heq
  exact List.mem_filterMap.mpr ⟨k', hk', by rw [hp']; rfl⟩

/-- **What a call's turn does to another that waits**: nothing, or it empties the place of both,
and then one of them does not wait alone. -/
theorem finds_poll (hcounts : h.client.registry.Counts h.points) (he : h.Equipped)
    (ha : alone → h.WaitsAlone ∧ h'.WaitsAlone) (hcalls : h.calls = pre ++ k :: post)
    (hcalls' : h'.calls = pre ++ (k.rest h.client ++ post)) (hk' : k' ∈ pre ++ post)
    (hp' : k'.call.awaited? = some p') {since : Nat} (hf : h.client.Finds alone p' since) :
    (k.call.poll h.client).2.Finds alone p' since := by
  obtain ⟨htouches, hheard⟩ := k.call.touches_poll h.client
  have hmem : k ∈ h.calls := by simp [hcalls]
  have hmem' : k' ∈ h.calls := mem_of_others hcalls hk'
  cases htouches with
  | leaves hb => exact hf.of_eq hheard (update?_congr hb _)
  | stores p v hb => exact hf.of_eq hheard ((update?_congr hb _).trans (update?_store ..))
  | waits p asNumber stage hk hb =>
    have hempty := (update?_congr hb p'.binding).trans (update?_beginWait ..)
    by_cases hpp' : p.binding = p'.binding
    · rw [if_pos hpp'] at hempty
      refine hf.of_none hheard hempty fun hal => ?_
      obtain ⟨ha, ha'⟩ := ha hal
      have heq : p.address = p'.address :=
        (hcounts.address_eq_iff (he.mem_points hmem (by rw [hk]; rfl))
          (he.mem_points hmem' (Call.point?_of_awaited? hp'))).mpr hpp'
      -- A call that begins to wait does so from its turn on, and one that waits did so before.
      cases stage with
      | start =>
        have hrest : k.rest h.client =
            [{ k with call := .update p asNumber .awaiting }] := by
          rw [PendingCall.rest, hk]
          rfl
        rw [hrest] at hcalls'
        exact ha'.address_ne hcalls' rfl hk' hp' heq
      | awaiting => exact ha.address_ne hcalls (by rw [hk]; rfl) hk' hp' heq
    · exact hf.of_eq hheard (hempty.trans (if_neg hpp'))

/-- **What a call's turn does to the call itself**: it begins to wait, or it finds nothing and
goes on to wait. -/
theorem finds_rest {c : Client} (hbegan : ∀ p, k.call.awaited? = some p →
      ∃ since, began? ms k.number = some (p, since) ∧ c.Finds alone p since)
    (hk' : k' ∈ k.rest c) (hp : k'.call.awaited? = some p) :
    ∃ since, began? (ms ++ [⟨.call k, c, (k.call.poll c).2⟩]) k'.number = some (p, since) ∧
      (k.call.poll c).2.Finds alone p since := by
  obtain ⟨call, hcall, rfl⟩ := eq_of_mem_rest hk'
  have hpoint : k.call.point? = some p :=
    (Call.point?_of_waiting hcall).symm.trans (Call.point?_of_awaited? hp)
  rw [began?_turn, if_pos rfl]
  generalize k.call = call' at *
  cases call' with
  | update p' asNumber stage =>
    obtain rfl := Option.some.inj hpoint
    cases stage with
    | start => exact ⟨c.heard.length, rfl, finds_beginWait alone c p'⟩
    | awaiting =>
      have hsame : ((Call.update p' asNumber .awaiting).poll c).2 = c := by
        simp only [Call.poll, Updating.poll, Prod.map, id] at hcall ⊢
        cases hr : c.registry.takeUpdate? p'.binding with
        | none => rfl
        | some r => simp [hr, Progress.map] at hcall
      rw [hsame]
      exact hbegan p' rfl
  | write p' stage =>
    obtain ⟨stage', -, rfl⟩ := Progress.exists_of_map_waiting hcall
    cases hp
  | _ => cases hpoint

theorem awaits_turn (hcounts : h.client.registry.Counts h.points) (he : h.Equipped)
    (hal : alone → h.WaitsAlone ∧ h'.WaitsAlone) (hcalls : h.calls = pre ++ k :: post)
    (hother : ∀ k' ∈ pre ++ post, k'.number ≠ k.number)
    (hc : h'.client = (k.call.poll h.client).2) (hk : h'.calls = pre ++ (k.rest h.client ++ post))
    (ha : h.Awaits alone ms) :
    h'.Awaits alone (ms ++ [⟨.call k, h.client, (k.call.poll h.client).2⟩]) := by
  intro k' hk' p hp
  have hmem : k' ∈ k.rest h.client ∨ k' ∈ pre ++ post := by
    rw [hk] at hk'
    simp only [List.mem_append] at hk' ⊢
    tauto
  rw [hc]
  rcases hmem with hrest | hk'
  · exact finds_rest (fun p hp => ha k (by simp [hcalls]) p hp) hrest hp
  · obtain ⟨since, hbegan, hf⟩ := ha k' (mem_of_others hcalls hk') p hp
    refine ⟨since, ?_, finds_poll hcounts he hal hcalls hk hk' hp hf⟩
    rwa [began?_turn, if_neg (hother k' hk').symm, Option.none_or]

/-- **What every action preserves**: the calls that wait find what they should. -/
theorem Does.awaits (hdoes : h.Does ms' h') (hcounts : h.client.registry.Counts h.points)
    (hcounts' : h'.client.registry.Counts h'.points) (he : h.Equipped) (he' : h'.Equipped)
    (hal : alone → h.WaitsAlone ∧ h'.WaitsAlone) (ha : h.Awaits alone ms) :
    h'.Awaits alone (ms ++ ms') := by
  -- But for the calls' own turns, it is enough that each still finds what it has found.
  have keep : Silent ms' → (∀ k ∈ h'.calls, k ∈ h.calls ∨ k.call.Fresh) →
      (∀ p since, p ∈ h.points → p ∈ h'.points → h.client.Finds alone p since →
        h'.client.Finds alone p since) → h'.Awaits alone (ms ++ ms') := by
    intro hms hcalls hfinds k hk p hp
    rcases hcalls k hk with hk' | hfresh
    · obtain ⟨since, hbegan, hf⟩ := ha k hk' p hp
      have hpoint := Call.point?_of_awaited? hp
      exact ⟨since, (began?_silent hms _).trans hbegan,
        hfinds p since (he.mem_points hk' hpoint) (he'.mem_points hk hpoint) hf⟩
    · cases hfresh.awaited?.symm.trans hp
  cases hdoes with
  | hears hms hc hk hd hn =>
    exact keep hms (fun k hk' => .inl (hk ▸ hk')) fun p since hp _ hf => hf.listens hcounts hp hc
  | begins hms number r k hr =>
    refine keep hms (fun k' hk' => ?_) fun p since _ _ hf => hf
    rcases List.mem_append.mp hk' with hk' | hk'
    · exact .inl hk'
    · obtain rfl := List.mem_singleton.mp hk'
      exact .inr (Request.fresh_of_call? hr)
  | turn pre k post hcalls hother hc hk hd hn =>
    exact awaits_turn hcounts he hal hcalls hother hc hk ha
  | cancels hms q =>
    refine keep hms (fun k hk => .inl (List.mem_of_mem_filter hk)) fun p since _ _ hf => ?_
    obtain ⟨hb, hheard⟩ := Call.leaves_cancelAll (h.calls.filter q) h.client
    exact hf.of_eq hheard (update?_congr hb _)
  | releases hms n d hd =>
    refine keep hms (fun k hk => ?_) fun p since _ hp' hf => ?_
    · rw [calls_release hd] at hk
      exact .inl (List.mem_of_mem_filter hk)
    · have hclient := client_release hd
      rw [hclient] at hcounts' ⊢
      obtain ⟨hb, hheard⟩ :=
        Call.leaves_cancelAll (h.calls.filter fun k => k.device = some n) h.client
      exact hf.of_eq hheard ((update?_unbind hcounts' hp').trans (update?_congr hb _))
  | binds hms kind q r hr =>
    refine keep hms (fun k hk => .inl hk) fun p since _ hp' hf => ?_
    exact hf.of_eq rfl (update?_bind hr hcounts' hp')

/-! ### Runs -/

/-- In every host of a run, every call waits alone. -/
def WaitAlone (config : Config) (actions : List Action) : Prop :=
  ∀ n ≤ actions.length, ((fresh config).run (actions.take n)).WaitsAlone

instance (config : Config) (actions : List Action) : Decidable (WaitAlone config actions) :=
  inferInstanceAs (Decidable (∀ n ≤ actions.length, _))

theorem WaitAlone.of_concat {config : Config} {actions : List Action} {a : Action}
    (h : WaitAlone config (actions ++ [a])) : WaitAlone config actions := by
  intro n hn
  have hlong := h n (by simp; omega)
  rwa [List.take_append_of_le_length hn] at hlong

theorem WaitAlone.last {config : Config} {actions : List Action} (h : WaitAlone config actions) :
    ((fresh config).run actions).WaitsAlone := by
  have hall := h actions.length (Nat.le_refl _)
  rwa [List.take_length] at hall

theorem awaits_run (config : Config) (actions : List Action) :
    ((fresh config).run actions).Awaits (WaitAlone config actions)
      ((fresh config).history actions) := by
  have hcounts := counts_run config
  have hequipped := equipped_run config
  -- The last action is taken off, so that the others are a run too.
  induction actions using List.reverseRecOn with
  | nil =>
    intro k hk
    cases hk
  | append_singleton actions a ih =>
    have hcounts' := hcounts (actions ++ [a])
    have hequipped' := hequipped (actions ++ [a])
    have hbefore : ((fresh config).run actions).Awaits (WaitAlone config (actions ++ [a]))
        ((fresh config).history actions) := by
      intro k hk p hp
      obtain ⟨since, hbegan, hf⟩ := ih k hk p hp
      exact ⟨since, hbegan, hf.mono WaitAlone.of_concat⟩
    rw [history_concat]
    rw [run_concat] at hcounts' hequipped' ⊢
    refine (does_run config actions a).awaits (hcounts actions) hcounts' (hequipped actions)
      hequipped' (fun hal => ⟨hal.of_concat.last, ?_⟩) hbefore
    exact run_concat (fresh config) actions a ▸ hal.last

/-- **The calls that wait answer with fresh values**, and for their own points. -/
structure UpdatesFresh (h : Host) (ms : List Moment) : Prop where
  /-- The place of a call's point is that of a binding of its address and its type. -/
  bound : ∀ k ∈ h.calls, ∀ p, k.call.point? = some p →
    ∃ b, h.client.registry.bindings[p.binding] = some b ∧ b.address = p.address ∧ b.dpt = p.dpt
  /-- A call that waits has begun to, for its own point, and telegrams have been heard since. -/
  begun : ∀ k ∈ h.calls, ∀ p, k.call.awaited? = some p →
    ∃ since, began? ms k.number = some (p, since) ∧ since ≤ h.client.heard.length
  /-- If it answers, then with the last value that they have brought to its point. -/
  answer : ∀ k ∈ h.calls, ∀ p asNumber stage result, k.call = .update p asNumber stage →
    (k.call.poll h.client).1 = .done result →
      ∃ since v, began? ms k.number = some (p, since) ∧
        lastValue? (h.client.heard.drop since) p.address p.dpt = some v ∧
          result = .ok (if asNumber then .number v.number else .value v)

/-- **No value is lost** that a call waits for. -/
structure UpdatesKept (h : Host) (ms : List Moment) : Prop where
  /-- If a telegram has brought a value since the call began to wait, then one is there. -/
  kept : ∀ k ∈ h.calls, ∀ p since, k.call.awaited? = some p →
    began? ms k.number = some (p, since) →
      ∀ t ∈ h.client.heard.drop since, (t.valueFor? p.address p.dpt).isSome →
        (h.client.registry.update? p.binding).isSome
  /-- The last that came is what is there, and what the call answers when it has its turn. -/
  ready : ∀ k ∈ h.calls, ∀ p asNumber since v, k.call = .update p asNumber .awaiting →
    began? ms k.number = some (p, since) →
      lastValue? (h.client.heard.drop since) p.address p.dpt = some v →
        h.client.registry.update? p.binding = some v ∧
          (k.call.poll h.client).1 = .done (.ok (if asNumber then .number v.number else .value v))

/-- A call that has begun to wait answers with what is there. -/
theorem poll_awaiting (c : Client) (p : Point) (asNumber : Bool) :
    ((Call.update p asNumber .awaiting).poll c).1 =
      ((c.registry.update? p.binding).map fun v =>
        .done (.ok (if asNumber then .number v.number else .value v))).getD
          (.waiting (.update p asNumber .awaiting)) := by
  simp only [Call.poll, Updating.poll, Prod.map, takeUpdate?_eq]
  cases c.registry.update? p.binding <;> rfl

theorem Awaits.updatesFresh (ha : h.Awaits alone ms) (he : h.Equipped)
    (hcounts : h.client.registry.Counts h.points) : h.UpdatesFresh ms := by
  constructor
  case bound => exact fun k hk p hp => hcounts.exists_binding (he.mem_points hk hp)
  case begun =>
    intro k hk p hp
    obtain ⟨since, hbegan, hf⟩ := ha k hk p hp
    exact ⟨since, hbegan, hf.le⟩
  case answer =>
    intro k hk p asNumber stage result hcall hdone
    rw [hcall] at hdone
    cases stage with
    | start => cases hdone
    | awaiting =>
      obtain ⟨since, hbegan, hf⟩ := ha k hk p (by rw [hcall]; rfl)
      rw [poll_awaiting] at hdone
      cases hu : h.client.registry.update? p.binding with
      | none => simp [hu] at hdone
      | some v =>
        refine ⟨since, v, hbegan, ?_, by simpa [hu] using hdone.symm⟩
        rcases hf.value with hvalue | ⟨-, hnone⟩
        · exact hvalue.symm.trans hu
        · cases hu.symm.trans hnone

theorem Awaits.updatesKept (ha : h.Awaits alone ms) (hal : alone) : h.UpdatesKept ms := by
  have hvalue : ∀ k ∈ h.calls, ∀ p since, k.call.awaited? = some p →
      began? ms k.number = some (p, since) →
        h.client.registry.update? p.binding =
          lastValue? (h.client.heard.drop since) p.address p.dpt := by
    intro k hk p since hp hbegan
    obtain ⟨since', hbegan', hf⟩ := ha k hk p hp
    obtain ⟨-, rfl⟩ := Prod.mk.inj (Option.some.inj (hbegan.symm.trans hbegan'))
    exact hf.value.resolve_right fun hnot => hnot.1 hal
  constructor
  case kept =>
    intro k hk p since hp hbegan t ht hv
    rw [hvalue k hk p since hp hbegan]
    exact lastValue?_isSome_iff.mpr ⟨t, ht, hv⟩
  case ready =>
    intro k hk p asNumber since v hcall hbegan hv
    have hu := (hvalue k hk p since (by rw [hcall]; rfl) hbegan).trans hv
    refine ⟨hu, ?_⟩
    rw [hcall, poll_awaiting, hu]
    rfl

/-- **Waits end with the value that was waited for.** Whatever happens – devices bound and given
up, places taken again by other addresses and types, values written, telegrams heard, calls begun
and stopped – a call that waits for a value of a point, if it answers, does so with the last value
that telegrams for the point's group, read with the point's type, have brought since it began to
wait. And if calls wait alone, then from the first such telegram on a value is there for the call
until it takes it. -/
theorem updates_run (config : Config) (actions : List Action) :
    ((fresh config).run actions).UpdatesFresh ((fresh config).history actions) ∧
      (WaitAlone config actions →
        ((fresh config).run actions).UpdatesKept ((fresh config).history actions)) := by
  have ha := awaits_run config actions
  exact ⟨ha.updatesFresh (equipped_run config actions) (counts_run config actions),
    ha.updatesKept⟩

/-- The gateway grants a session, and a switch is bound. It is turned off from the bus; then a call
begins to wait, the switch is turned off once more by a call of the client, and it is turned on
from the bus. -/
def switchedOn (gateway : Endpoint) : List Action :=
  let granted : Frame := .connectResponse
    ⟨7, 0, some (Hpai.ofEndpoint gateway), some (Crd.tunnel ⟨0x11FF⟩)⟩
  let switched (sequence on : UInt8) : Action :=
    let message : Cemi :=
      { Cemi.groupRequest ⟨0x1105⟩ ⟨0x0901⟩ .write (.ofLowBits on) with code := .indication }
    .arrive ⟨(Frame.tunnelingRequest (.ofCemi 7 sequence message)).octets, gateway⟩
  [.startDriver, .begin 0 .connect, .pollCall 0, .arrive ⟨granted.octets, gateway⟩, .pollDriver,
    .pollCall 0, .bind .switch ⟨0x0901⟩, switched 0 0, .pollDriver,
    .begin 1 (.device 0 .waitUpdate), .pollCall 1, .begin 2 (.device 0 (.write (.bool false))),
    .pollCall 2, switched 1 1, .pollDriver]

/-- The call that waits is told that the switch is on. -/
theorem updates_switched_on :
    let gateway : Endpoint := ⟨⟨192, 168, 1, 10⟩, 3671⟩
    let h := (fresh (.ofGateway gateway)).run (switchedOn gateway)
    WaitAlone (.ofGateway gateway) (switchedOn gateway) ∧
      h.client.heard.length = 2 ∧
      ∃ k ∈ h.calls, k.number = 1 ∧
        (k.call.poll h.client).1 = .done (.ok (.value (.bool true))) := by
  intro gateway h
  have halone : WaitAlone (.ofGateway gateway) (switchedOn gateway) := by decide +kernel
  let p : Point := ⟨⟨0x0901⟩, .boolean .switch, ⟨0, by decide⟩⟩
  obtain ⟨k, hk, hnumber, hcall, hbegan, hlast⟩ : ∃ k ∈ h.calls, k.number = 1 ∧
      k.call = .update p false .awaiting ∧
        began? ((fresh (.ofGateway gateway)).history (switchedOn gateway)) k.number = some (p, 1) ∧
          lastValue? (h.client.heard.drop 1) p.address p.dpt = some (.bool true) := by
    decide +kernel
  have hready := ((updates_run _ _).2 halone).ready k hk p false 1 (.bool true) hcall hbegan hlast
  exact ⟨halone, by decide +kernel, k, hk, hnumber, hready.2⟩

end Host

end KnxIp
