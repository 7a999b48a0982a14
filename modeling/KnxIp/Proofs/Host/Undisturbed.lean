import KnxIp.Proofs.Host.Strangers

/-!
# Strangers do not disturb

Two runs are compared here: what a host does, and what it does when some datagrams never arrive
(`KnxIp.Host.Thins`). `KnxIp.Host.undisturbed_run` says that all datagrams of strangers can be
left out in this way, and nothing else that can be seen of the history is different
(`KnxIp.Host.Undisturbed`).

A datagram arrives long before it is received, and whose it is may change in between. So what is
to be left out is known only in the end, and the induction is on the actions that *follow*: they
say what may be in the inbox after an action, and it remains to find what must be in it before
(`KnxIp.Host.Echoes`). For the driver's turn this is `KnxIp.Dispatcher.exists_thinned_poll`; all
other actions overlook the inbox, apart from the arrival of a datagram.
-/

namespace KnxIp

open Host Client

namespace Driver

variable {c : Client} {q q₁ : Queue Datagram datagramQueueDepth}

/-! ### A turn of the driver -/

/-- Stop, if the client is asked to. -/
def settle (d : Driver) (c : Client) : Option Driver × Client :=
  if c.shutdown then (none, d.cancel { c with shutdown := false }) else (some d, c)

/-- The moments of it. -/
def settleMoments (d : Driver) (c : Client) : List Moment :=
  if c.shutdown then [⟨.stop d.sender, c, d.cancel { c with shutdown := false }⟩] else []

theorem poll_eq_settle (d : Driver) (c : Client) :
    d.poll c = (d.advance c).1.settle (d.advance c).2 := rfl

theorem driverMoments_eq (d : Driver) (c : Client) :
    driverMoments d c = dispatcherMoments d.dispatcher c ++
      ⟨.send d.sender, (d.dispatcher.poll c).2, (d.sender.poll (d.dispatcher.poll c).2).2⟩ ::
        ⟨.other, (d.sender.poll (d.dispatcher.poll c).2).2, (d.advance c).2⟩ ::
          (d.advance c).1.settleMoments (d.advance c).2 := rfl

theorem steady_stop (d : Driver) : Steady fun c => d.cancel { c with shutdown := false } :=
  d.sender.steady_cancel.comp fun _ _ _ => rfl

theorem overlooks_settle (d : Driver) : Overlooks d.settle := by
  intro c s hs
  simp only [settle, withSocket_shutdown]
  split
  · exact congrArg (Prod.mk none) (d.steady_stop hs)
  · rfl

theorem settleMoments_withInbox (d : Driver) (c : Client)
    (q : Queue Datagram datagramQueueDepth) :
    d.settleMoments (c.withInbox q) = (d.settleMoments c).map fun m => m.withInbox q := by
  have hshutdown : (c.withInbox q).shutdown = c.shutdown := rfl
  simp only [settleMoments, hshutdown]
  split
  · have hstop := d.steady_stop.withInbox c q
    exact congrArg (fun c' => [(⟨.stop d.sender, c.withInbox q, c'⟩ : Moment)]) hstop
  · rfl

/-- Behind the dispatcher, nobody looks at the inbox. -/
theorem advance_withInbox (d : Driver) (h : d.dispatcher.Thinned c q q₁) :
    d.advance (c.withInbox q) = ((d.advance c).1, (d.advance c).2.withInbox q₁) := by
  simp only [advance, h.poll_eq, d.sender.overlooks_poll.withInbox,
    d.heartbeat.overlooks_poll.withInbox]

theorem poll_withInbox (d : Driver) (h : d.dispatcher.Thinned c q q₁) :
    d.poll (c.withInbox q) = ((d.poll c).1, (d.poll c).2.withInbox q₁) := by
  rw [poll_eq_settle, poll_eq_settle, d.advance_withInbox h]
  exact (overlooks_settle _).withInbox _ q₁

theorem socket_poll (d : Driver) (c : Client) :
    (d.poll c).2.socket = (d.dispatcher.poll c).2.socket :=
  calc (d.poll c).2.socket = (d.advance c).2.socket := (overlooks_settle _).socket_eq _
    _ = (d.sender.poll (d.dispatcher.poll c).2).2.socket := d.heartbeat.overlooks_poll.socket_eq _
    _ = (d.dispatcher.poll c).2.socket := d.sender.overlooks_poll.socket_eq _

theorem friendly_moments (d : Driver) (h : d.dispatcher.Thinned c q q₁) :
    ∀ m ∈ driverMoments d (c.withInbox q), m.isStrange = false := by
  intro m hm
  simp only [driverMoments, List.mem_append, List.mem_cons] at hm
  rcases hm with hm | rfl | rfl | hm
  · exact h.friendly m hm
  · rfl
  · rfl
  · split at hm
    · rw [List.mem_singleton.mp hm]
      rfl
    · cases hm

theorem seen_moments (d : Driver) (h : d.dispatcher.Thinned c q q₁) :
    seen (driverMoments d (c.withInbox q)) = seen (driverMoments d c) := by
  rw [driverMoments_eq, driverMoments_eq]
  rw [seen_append, seen_append, h.seen_eq, h.poll_eq, d.sender.overlooks_poll.withInbox,
    d.advance_withInbox h, settleMoments_withInbox]
  congr 1
  exact seen_cons_congr rfl (seen_cons_congr rfl (seen_map_withInbox _ q₁))

end Driver

/-! ### Other actions -/

namespace Host

variable {h : Host} {q q₁ : Queue Datagram datagramQueueDepth} {a : Action}

/-- **A change of the host that does the same with every socket** that sends as well, and leaves
it as it is. -/
def Steady (f : Host → Host) : Prop :=
  ∀ ⦃h : Host⦄ ⦃s : Socket⦄, s.sendFault? = h.client.socket.sendFault? →
    f (h.withSocket fun _ => s) = (f h).withSocket fun _ => s

/-- The host with another inbox. -/
def withInbox (h : Host) (q : Queue Datagram datagramQueueDepth) : Host :=
  h.withSocket fun s => s.withInbox q

theorem Steady.socket_eq {f : Host → Host} (hf : Steady f) (h : Host) :
    (f h).client.socket = h.client.socket := by
  have heq : f h = (f h).withSocket fun _ => h.client.socket :=
    hf (h := h) (s := h.client.socket) rfl
  rw [heq]
  rfl

theorem Steady.withInbox {f : Host → Host} (hf : Steady f) (h : Host)
    (q : Queue Datagram datagramQueueDepth) : f (h.withInbox q) = (f h).withInbox q := by
  have heq : (f h).withInbox q = (f h).withSocket fun _ => h.client.socket.withInbox q := by
    rw [← hf.socket_eq h]
    rfl
  rw [heq]
  exact hf rfl

theorem steady_stopDriver : Steady stopDriver := by
  intro h s hs
  obtain ⟨client, driver, calls, devices, next, finished⟩ := h
  cases driver with
  | none => rfl
  | some d =>
    exact congrArg (fun c => (⟨c, none, calls, devices, next, finished⟩ : Host))
      (d.sender.steady_cancel hs)

theorem steady_startDriver : Steady startDriver := fun _ _ hs =>
  congrArg (fun h : Host => { h with driver := some .fresh }) (steady_stopDriver hs)

theorem steady_begin (number : Nat) (r : Request Nat) : Steady (·.begin number r) := by
  intro h s _
  have hpending : (h.withSocket fun _ => s).isPending number = h.isPending number := rfl
  have hcall : r.call? (h.withSocket fun _ => s).client.config (h.withSocket fun _ => s).device? =
      r.call? h.client.config h.device? := rfl
  simp only [begin, hpending, hcall]
  split
  · rfl
  · cases r.call? h.client.config h.device? <;> rfl

theorem steady_pollCall (number : Nat) : Steady (·.pollCall number) := by
  intro h s hs
  have hcalls : (h.withSocket fun _ => s).calls = h.calls := rfl
  simp only [pollCall, hcalls]
  cases h.calls.find? fun k => k.number = number with
  | none => rfl
  | some k =>
    obtain ⟨p, c, hpoll, hpoll', -⟩ := k.call.overlooks_poll.elim hs
    have hpoll'' : k.call.poll (h.withSocket fun _ => s).client = (p, c.withSocket s) := hpoll'
    simp only [hpoll, hpoll'']
    cases p <;> rfl

theorem steady_cancelCalls (p : PendingCall → Bool) : Steady (·.cancelCalls p) := by
  intro h s hs
  have hcancel := Client.Steady.foldl (fun k : PendingCall => k.call.steady_cancel)
    (h.calls.filter p)
  exact congrArg (fun c => { h with client := c, calls := h.calls.filter fun k => !p k })
    (hcancel hs)

theorem steady_bind (kind : DeviceKind) (address : GroupAddress) :
    Steady (·.act (.bind kind address)) := by
  intro h s _
  have hregistry : ∀ dpt, (h.withSocket fun _ => s).client.registry.bind address dpt =
      h.client.registry.bind address dpt := fun _ => rfl
  simp only [act, Host.bind, bindDevice, bindPoint]
  cases kind.dpt with
  | error f => rfl
  | ok dpt =>
    simp only [Bind.bind, Except.bind, hregistry]
    cases h.client.registry.bind address dpt <;> rfl

theorem steady_release (number : Nat) : Steady (·.release number) := by
  intro h s hs
  have hdevice : (h.withSocket fun _ => s).device? number = h.device? number := rfl
  simp only [release, hdevice]
  cases h.device? number with
  | none => rfl
  | some d =>
    have hcancel := steady_cancelCalls (fun k => k.device = some number) hs
    exact congrArg (fun h : Host =>
      { h with
        client := h.client.release d.point
        devices := h.devices.eraseP fun d => d.1 = number }) hcancel

/-- The actions that are none of the socket's business. -/
def Action.isSteady : Action → Bool
  | .pollDriver | .arrive _ | .failReceive _ | .refuse _ => false
  | _ => true

theorem steady_act (ha : a.isSteady = true) : Steady (·.act a) := by
  cases a with
  | startDriver => exact steady_startDriver
  | stopDriver => exact steady_stopDriver
  | begin number r => exact steady_begin number r
  | pollCall number => exact steady_pollCall number
  | cancelCall number => exact steady_cancelCalls _
  | bind kind address => exact steady_bind kind address
  | release number => exact steady_release number
  | elapse ms => exact fun _ _ _ => rfl
  | pollDriver | arrive | failReceive | refuse => cases ha

/-- Nothing closes the socket. -/
theorem closed_act (h : Host) (a : Action) :
    (h.act a).client.socket.closed = h.client.socket.closed := by
  have hsteady : a.isSteady = true →
      (h.act a).client.socket.closed = h.client.socket.closed := fun ha => by
    rw [(steady_act ha).socket_eq h]
  cases a with
  | pollDriver =>
    simp only [act, pollDriver]
    cases hd : h.driver with
    | none => rfl
    | some d =>
      have hclosed : (d.poll h.client).2.socket.closed = h.client.socket.closed := by
        rw [d.socket_poll, d.dispatcher.closed_poll]
      rcases hp : d.poll h.client with ⟨_ | d', c⟩ <;> simpa [hp] using hclosed
  | arrive d =>
    simp only [act, arrive?, Socket.arrive?]
    cases h.client.socket.inbox.push? d <;> rfl
  | failReceive f | refuse b => rfl
  | _ => exact hsteady rfl

/-! ### The moments of an action -/

theorem stopMoments_withInbox (h : Host) (q : Queue Datagram datagramQueueDepth) :
    (h.withInbox q).stopMoments = h.stopMoments.map fun m => m.withInbox q := by
  have hdriver : (h.withInbox q).driver = h.driver := rfl
  simp only [stopMoments, hdriver]
  cases h.driver with
  | none => rfl
  | some d =>
    exact congrArg (fun c => [(⟨.stop d.sender, h.client.withInbox q, c⟩ : Moment)])
      (d.sender.steady_cancel.withInbox h.client q)

theorem cancelMoments_withInbox (ks : List PendingCall) (c : Client)
    (q : Queue Datagram datagramQueueDepth) :
    cancelMoments ks (c.withInbox q) = (cancelMoments ks c).map fun m => m.withInbox q := by
  induction ks generalizing c with
  | nil => rfl
  | cons k ks ih =>
    simp only [cancelMoments, k.call.steady_cancel.withInbox, ih, List.map_cons]
    rfl

/-- **An action that is not the driver's turn**, and brings no datagram, does the same with every
inbox. -/
theorem act_withInbox (hp : a ≠ .pollDriver) (ha : ∀ d, a ≠ .arrive d) (h : Host)
    (q : Queue Datagram datagramQueueDepth) : (h.withInbox q).act a = (h.act a).withInbox q := by
  cases a with
  | pollDriver => exact absurd rfl hp
  | arrive d => exact absurd rfl (ha d)
  | failReceive f | refuse b => rfl
  | _ => exact (steady_act rfl).withInbox h q

theorem inbox_act (hp : a ≠ .pollDriver) (ha : ∀ d, a ≠ .arrive d) (h : Host) :
    (h.act a).client.socket.inbox = h.client.socket.inbox := by
  have heq : h.act a = (h.act a).withInbox h.client.socket.inbox :=
    act_withInbox hp ha h h.client.socket.inbox
  rw [heq]
  rfl

theorem moments_withInbox (hp : a ≠ .pollDriver) (ha : ∀ d, a ≠ .arrive d) (h : Host)
    (q : Queue Datagram datagramQueueDepth) :
    (h.withInbox q).moments a = (h.moments a).map fun m => m.withInbox q := by
  have hother : [(⟨.other, (h.withInbox q).client, ((h.withInbox q).act a).client⟩ : Moment)] =
      [(⟨.other, h.client, (h.act a).client⟩ : Moment)].map fun m => m.withInbox q := by
    rw [act_withInbox hp ha]
    rfl
  cases a with
  | pollDriver => exact absurd rfl hp
  | arrive d => exact absurd rfl (ha d)
  | startDriver =>
    simp only [moments, stopMoments_withInbox, steady_stopDriver.withInbox, List.map_append]
    rfl
  | stopDriver => exact stopMoments_withInbox h q
  | pollCall number =>
    have hcalls : (h.withInbox q).calls = h.calls := rfl
    simp only [moments, hcalls]
    cases h.calls.find? fun k => k.number = number with
    | none => rfl
    | some k =>
      exact congrArg (fun r => [(⟨.call k, h.client.withInbox q, r.2⟩ : Moment)])
        (k.call.overlooks_poll.withInbox h.client q)
  | cancelCall number => exact cancelMoments_withInbox _ h.client q
  | release number =>
    have hdevice : (h.withInbox q).device? number = h.device? number := rfl
    simp only [moments, hdevice]
    cases h.device? number with
    | none => rfl
    | some d =>
      have hcancel := (steady_cancelCalls fun k => k.device = some number).withInbox h q
      simp only [hcancel, List.map_append]
      exact congrArg (· ++ _) (cancelMoments_withInbox _ h.client q)
  | _ => exact hother

/-- Nothing is received but in the driver's turn. -/
theorem isStrange_of_mem_moments {m : Moment} (hp : a ≠ .pollDriver) (hm : m ∈ h.moments a) :
    m.isStrange = false := by
  unfold Moment.isStrange
  cases hd : m.deed with
  | receive d => exact absurd (mem_dispatcherMoments_of_receive hm hd).1 hp
  | _ => rfl

/-! ### Runs -/

/-- **An action that does the same with less in the inbox**: it receives nothing of a stranger and
leaves only this in the inbox; otherwise nothing is different. -/
structure Echoes (h : Host) (a : Action) (q q₁ : Queue Datagram datagramQueueDepth) : Prop where
  sublist : q.toList.Sublist h.client.socket.inbox.toList
  act_eq : (h.withInbox q).act a = (h.act a).withInbox q₁
  friendly : ∀ m ∈ (h.withInbox q).moments a, m.isStrange = false
  seen_eq : seen ((h.withInbox q).moments a) = seen (h.moments a)

theorem exists_echo (hopen : h.client.socket.closed = false) (ha : ∀ d, a ≠ .arrive d)
    (hq₁ : q₁.toList.Sublist (h.act a).client.socket.inbox.toList) : ∃ q, Echoes h a q q₁ := by
  by_cases hp : a = .pollDriver
  · subst hp
    cases hd : h.driver with
    | none =>
      have hd' : (h.withInbox q₁).driver = none := hd
      refine ⟨q₁, ?_, ?_, ?_, ?_⟩
      · simpa [act, pollDriver, hd] using hq₁
      · simp only [act, pollDriver, hd, hd']
      · simp [moments, hd']
      · simp [moments, hd, hd']
    | some d =>
      have hd' : ∀ q, (h.withInbox q).driver = some d := fun _ => hd
      have hclient : ∀ q, (h.withInbox q).client = h.client.withInbox q := fun _ => rfl
      have hsocket : (h.act .pollDriver).client.socket =
          (d.dispatcher.poll h.client).2.socket := by
        rw [← d.socket_poll]
        simp only [act, pollDriver, hd]
        rcases d.poll h.client with ⟨_ | d', c⟩ <;> rfl
      rw [hsocket] at hq₁
      obtain ⟨q, hthin⟩ := d.dispatcher.exists_thinned_poll q₁ h.client hopen hq₁
      refine ⟨q, hthin.sublist, ?_, ?_, ?_⟩
      · simp only [act, pollDriver, hd, hd', hclient, d.poll_withInbox hthin]
        rcases d.poll h.client with ⟨_ | d', c⟩ <;> rfl
      · simp only [moments, hd']
        exact d.friendly_moments hthin
      · simp only [moments, hd, hd']
        exact d.seen_moments hthin
  · rw [inbox_act hp ha] at hq₁
    refine ⟨q₁, hq₁, act_withInbox hp ha h q₁, fun m => isStrange_of_mem_moments hp, ?_⟩
    rw [moments_withInbox hp ha, seen_map_withInbox]

/-- **The same actions**, but that some of the datagrams do not arrive. -/
inductive Thins : List Action → List Action → Prop
  | nil : Thins [] []
  | keep (a : Action) {kept actions : List Action} (h : Thins kept actions) :
      Thins (a :: kept) (a :: actions)
  | drop (d : Datagram) {kept actions : List Action} (h : Thins kept actions) :
      Thins kept (.arrive d :: actions)

/-- **A run without strangers**: only these of the actions, with only that in the inbox to begin
with. It receives nothing of a stranger, and otherwise nothing is different. -/
structure Undisturbed (h : Host) (actions kept : List Action)
    (q : Queue Datagram datagramQueueDepth) : Prop where
  thins : Thins kept actions
  friendly : ∀ m ∈ (h.withInbox q).history kept, m.isStrange = false
  seen_eq : seen ((h.withInbox q).history kept) = seen (h.history actions)
  run_eq : ((h.withInbox q).run kept).withInbox .empty = (h.run actions).withInbox .empty

theorem Undisturbed.keep {actions kept : List Action} (ha : Echoes h a q q₁)
    (hrest : Undisturbed (h.act a) actions kept q₁) :
    Undisturbed h (a :: actions) (a :: kept) q where
  thins := .keep a hrest.thins
  friendly m hm := by
    rw [history, ha.act_eq] at hm
    exact (List.mem_append.mp hm).elim (ha.friendly m) (hrest.friendly m)
  seen_eq := by
    rw [history, history, seen_append, seen_append, ha.seen_eq, ha.act_eq, hrest.seen_eq]
  run_eq := by
    rw [run, run, List.foldl_cons, List.foldl_cons, ha.act_eq]
    exact hrest.run_eq

/-- A datagram that arrives is in the inbox, or is lost. -/
theorem act_arrive_withInbox (h : Host) (d : Datagram) (q : Queue Datagram datagramQueueDepth) :
    (h.act (.arrive d)).withInbox q = h.withInbox q := by
  simp only [act, arrive?, Socket.arrive?]
  cases h.client.socket.inbox.push? d <;> rfl

theorem moments_arrive (h : Host) (d : Datagram) :
    h.moments (.arrive d) = [⟨.other, h.client, (h.act (.arrive d)).client⟩] := rfl

/-- That a datagram arrives cannot be seen. -/
theorem seen_moments_arrive (h : Host) (d : Datagram) : seen (h.moments (.arrive d)) = [] := by
  have hnot : ¬ (⟨.other, h.client, (h.act (.arrive d)).client⟩ : Moment).isSeen = true := by
    have hsame : (h.act (.arrive d)).client.withInbox .empty = h.client.withInbox .empty :=
      congrArg Host.client (act_arrive_withInbox h d .empty)
    simp [Moment.isSeen, hsame]
  rw [moments_arrive, seen, List.filter_cons_of_neg hnot]
  rfl

theorem Undisturbed.drop {actions kept : List Action} {d : Datagram}
    (hrest : Undisturbed (h.act (.arrive d)) actions kept q) :
    Undisturbed h (.arrive d :: actions) kept q := by
  obtain ⟨thins, friendly, seen_eq, run_eq⟩ := hrest
  rw [act_arrive_withInbox] at friendly seen_eq run_eq
  refine ⟨.drop d thins, friendly, ?_, run_eq⟩
  rw [history, seen_append, seen_moments_arrive, List.nil_append]
  exact seen_eq

/-- A datagram that is to be received arrives in both cases. -/
theorem echoes_arrive {d : Datagram} (hq : q.toList.Sublist h.client.socket.inbox.toList)
    (hq₁ : q₁.toList = q.toList ++ [d]) : Echoes h (.arrive d) q q₁ := by
  have hpush : q.push? d = some q₁ := by
    have hlt : q.toList.length < datagramQueueDepth := by
      have := q₁.length_le
      rw [hq₁, List.length_append] at this
      exact this
    obtain ⟨entries, hle⟩ := q₁
    obtain rfl : entries = q.toList ++ [d] := hq₁
    exact dif_pos hlt
  constructor
  case sublist => exact hq
  case act_eq =>
    have harrive : (h.withInbox q).arrive? d = some (h.withInbox q₁) :=
      congrArg (Option.map fun socket => (h.withInbox q).withSocket fun _ => socket)
        (congrArg (Option.map (h.client.socket.withInbox q).withInbox) hpush)
    rw [act_arrive_withInbox, act, harrive]
    rfl
  case friendly =>
    intro m hm
    rw [moments_arrive, List.mem_singleton] at hm
    rw [hm]
    rfl
  case seen_eq => rw [seen_moments_arrive, seen_moments_arrive]

/-- **Strangers can be left out of a run**, whatever waits in the inbox to begin with. -/
theorem exists_undisturbed (actions : List Action) (h : Host)
    (hopen : h.client.socket.closed = false) :
    ∃ q kept, q.toList.Sublist h.client.socket.inbox.toList ∧ Undisturbed h actions kept q := by
  -- What is to be left out is known only in the end: the actions that follow come first.
  induction actions generalizing h with
  | nil => exact ⟨h.client.socket.inbox, [], .refl _, .nil, by simp [history], rfl, rfl⟩
  | cons a actions ih =>
    obtain ⟨q₁, kept, hsub, hrest⟩ := ih (h.act a) (by rw [closed_act, hopen])
    by_cases ha : ∃ d, a = .arrive d
    · obtain ⟨d, rfl⟩ := ha
      cases hpush : h.client.socket.inbox.push? d with
      | none =>
        have hlost : (h.act (.arrive d)).client.socket.inbox = h.client.socket.inbox := by
          simp only [act, arrive?, Socket.arrive?, hpush]
          rfl
        rw [hlost] at hsub
        exact ⟨q₁, kept, hsub, hrest.drop⟩
      | some q₂ =>
        have harrived : (h.act (.arrive d)).client.socket.inbox = q₂ := by
          simp only [act, arrive?, Socket.arrive?, hpush]
          rfl
        rw [harrived, Queue.toList_of_push? hpush] at hsub
        obtain ⟨ds, rest, hq₁, hds, hlast⟩ := List.sublist_append_iff.mp hsub
        rcases List.sublist_singleton.mp hlast with rfl | rfl
        · rw [List.append_nil] at hq₁
          exact ⟨q₁, kept, hq₁ ▸ hds, hrest.drop⟩
        · have hle : ds.length ≤ datagramQueueDepth :=
            Nat.le_trans hds.length_le h.client.socket.inbox.length_le
          exact ⟨⟨ds, hle⟩, .arrive d :: kept, hds, .keep (echoes_arrive hds hq₁) hrest⟩
    · obtain ⟨q, hecho⟩ := exists_echo hopen (fun d hd => ha ⟨d, hd⟩) hsub
      exact ⟨q, a :: kept, hecho.sublist, .keep hecho hrest⟩

/-- **Strangers and garbage do not disturb.** Whatever a client has received, it is the same
without the datagrams that did not come from the gateway, each as the client saw it at the time.
If the socket does not fail, all that waits in it is received, and the dispatcher goes on. A
datagram from the gateway that is no frame does nothing but publish why it is none. And from every
run the datagrams can be left out that are received as those of strangers, or not received at
all: then nothing of a stranger is received, and otherwise nothing is different, neither on the
way nor in the end, but for what waits in the inbox. -/
theorem undisturbed_run :
    (∀ (c : Client) (ds : List Datagram),
      (c.fromGateway ds).foldl onDatagram c = ds.foldl onDatagram c) ∧
    (∀ c : Client, c.socket.closed = false → c.socket.failures = [] →
      Dispatcher.poll .receiving c =
        (.receiving, c.socket.inbox.toList.foldl onDatagram (c.withInbox .empty))) ∧
    (∀ (c : Client) (d : Datagram) (f : Fault), c.isGateway d.peer = true →
      Frame.decode d.octets.toList = .error f →
        c.onDatagram d = { c with outbox := c.outbox ++ [.event (.fault f)] }) ∧
    ∀ (config : Config) (actions : List Action),
      ∃ kept, Undisturbed (fresh config) actions kept .empty := by
  refine ⟨foldl_fromGateway, Dispatcher.poll_receiving, ?_, ?_⟩
  · exact fun c d f hg hd => onDatagram_of_decode_error hg hd
  · intro config actions
    obtain ⟨q, kept, hsub, h⟩ := exists_undisturbed actions (fresh config) rfl
    -- Nothing waits in the inbox of a client that nobody has used.
    obtain rfl : q = .empty := Queue.eq_empty_of_toList (List.sublist_nil.mp hsub)
    exact ⟨kept, h⟩

/-- The same garbage waits twice, once from a stranger. -/
theorem undisturbed_garbage :
    let gateway : Endpoint := ⟨⟨192, 168, 1, 10⟩, 3671⟩
    let stranger : Endpoint := ⟨⟨192, 168, 1, 66⟩, 3671⟩
    let garbage : Octets maxFrameSize := ⟨[0xFF, 0xFF, 0xFF], by decide⟩
    let c := (Client.fresh (.ofGateway gateway)).withInbox
      ⟨[⟨garbage, stranger⟩, ⟨garbage, gateway⟩], by decide⟩
    let f : Fault := .decode .malformedHeader
    c.isGateway stranger = false ∧ c.isGateway gateway = true ∧
      Frame.decode garbage.toList = .error f ∧
      Dispatcher.poll .receiving c =
        (.receiving, { c.withInbox .empty with outbox := [.event (.fault f)] }) := by
  intro gateway stranger garbage c f
  have hstranger : c.isGateway stranger = false := by decide
  have hgateway : c.isGateway gateway = true := by decide
  have hdecode : Frame.decode garbage.toList = .error f := rfl
  refine ⟨hstranger, hgateway, hdecode, ?_⟩
  obtain ⟨hfold, hpoll, hgarbage, -⟩ := undisturbed_run
  have hkept : (c.withInbox .empty).fromGateway [⟨garbage, stranger⟩, ⟨garbage, gateway⟩] =
      [⟨garbage, gateway⟩] := by
    decide
  have hreceived : (c.withInbox .empty).onDatagram ⟨garbage, gateway⟩ =
      { c.withInbox .empty with outbox := [.event (.fault f)] } :=
    hgarbage (c.withInbox .empty) ⟨garbage, gateway⟩ f hgateway hdecode
  have hall := hfold (c.withInbox .empty) [⟨garbage, stranger⟩, ⟨garbage, gateway⟩]
  rw [hkept] at hall
  rw [hpoll c rfl rfl]
  exact congrArg (Prod.mk _) (hall.symm.trans hreceived)

end Host

end KnxIp
