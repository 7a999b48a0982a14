import KnxIp.Proofs.Client.Hearing
import KnxIp.Proofs.Host.History

/-!
# What actions do to calls and devices

A history is a sequence of turns, and that is enough for what becomes of requests. For what a host
holds of the registry it is not, because a turn does not say which device is bound or given up.
Seen from there, every action is of one of six kinds: `KnxIp.Host.Does` lists them with their
moments, and `KnxIp.Host.does_act` says that there are no others. So what each of the six preserves
holds after every run.

What a call did when it had a certain turn can be looked up in the history (`KnxIp.Host.said?`);
only one of the six adds to it.
-/

namespace KnxIp

open Client

namespace Host

/-! ### Moments without a call -/

/-- No call has a turn. -/
def Silent (ms : List Moment) : Prop := ∀ m ∈ ms, ∀ k, m.deed ≠ .call k

theorem silent_receipts (c : Client) (attempts : Nat) : Silent (receipts c attempts) := by
  -- Each attempt begins with the client as the one before it has left it.
  induction attempts generalizing c with
  | zero => exact fun m hm => by cases hm
  | succ attempts ih =>
    intro m hm
    unfold receipts at hm
    split at hm
    · cases hm
    · rcases List.mem_cons.mp hm with rfl | hm
      · exact fun _ h => by cases h
      · exact ih _ m hm
    · simp only at hm
      split at hm
      · rcases List.mem_cons.mp hm with rfl | hm
        · exact fun _ h => by cases h
        · exact ih _ m hm
      · obtain rfl := List.mem_singleton.mp hm
        exact fun _ h => by cases h

theorem silent_dispatcherMoments (d : Dispatcher) (c : Client) :
    Silent (dispatcherMoments d c) := by
  unfold dispatcherMoments
  split
  · exact silent_receipts c _
  · split
    · exact silent_receipts c _
    · exact fun m hm => by cases hm

/-- Only when it is a call's turn does a call have one. -/
theorem silent_moments {h : Host} {a : Action} (ha : ∀ n, a ≠ .pollCall n) :
    Silent (h.moments a) := by
  intro m hm
  rcases mem_moments_cases hm with ⟨-, driver, -, hm⟩ | ⟨n, k, hn, -⟩ | ⟨-, hcall⟩
  · exact silent_dispatcherMoments _ _ m hm
  · exact absurd hn (ha n)
  · exact hcall

/-! ### The six kinds -/

/-- **What an action does to the calls and the devices of a host**, with its moments. -/
inductive Does (h : Host) : List Moment → Host → Prop
  /-- Telegrams are heard, if anything, -/
  | hears {ms : List Moment} {h' : Host} (hms : Silent ms) (hc : h.client.Listens h'.client)
      (hk : h'.calls = h.calls) (hd : h'.devices = h.devices)
      (hn : h'.nextDevice = h.nextDevice) : Does h ms h'
  /-- a call begins, -/
  | begins {ms : List Moment} (hms : Silent ms) (number : Nat) (r : Request Nat) (k : Call)
      (hr : r.call? h.client.config h.device? = some k) :
      Does h ms { h with calls := h.calls ++ [⟨number, r.device?, k⟩] }
  /-- a call has its turn, -/
  | turn {h' : Host} (pre : List PendingCall) (k : PendingCall) (post : List PendingCall)
      (hcalls : h.calls = pre ++ k :: post) (hother : ∀ k' ∈ pre ++ post, k'.number ≠ k.number)
      (hc : h'.client = (k.call.poll h.client).2) (hk : h'.calls = pre ++ (k.rest h.client ++ post))
      (hd : h'.devices = h.devices) (hn : h'.nextDevice = h.nextDevice) :
      Does h [⟨.call k, h.client, (k.call.poll h.client).2⟩] h'
  /-- calls are stopped, -/
  | cancels {ms : List Moment} (hms : Silent ms) (p : PendingCall → Bool) :
      Does h ms (h.cancelCalls p)
  /-- a device is given up, -/
  | releases {ms : List Moment} (hms : Silent ms) (number : Nat) (d : Device)
      (hd : h.device? number = some d) : Does h ms (h.release number)
  /-- or one is bound. -/
  | binds {ms : List Moment} (hms : Silent ms) (kind : DeviceKind) (p : Point) (r : Registry)
      (hr : h.client.registry.bind p.address p.dpt = .ok (p.binding, r)) :
      Does h ms
        { h with
          client := { h.client with registry := r }
          devices := (h.nextDevice, ⟨kind, p⟩) :: h.devices
          nextDevice := h.nextDevice + 1 }

variable {h h' : Host} {ms ms' : List Moment} {k k' : PendingCall} {n : Nat} {d : Device}

theorem listens_stopDriver (h : Host) :
    h.client.Listens h.stopDriver.client ∧ h.stopDriver.calls = h.calls ∧
      h.stopDriver.devices = h.devices ∧ h.stopDriver.nextDevice = h.nextDevice := by
  unfold stopDriver
  cases h.driver with
  | none => exact ⟨.of_eq rfl, rfl, rfl, rfl⟩
  | some d => exact ⟨.of_eq (d.sender.hearing_cancel h.client), rfl, rfl, rfl⟩

theorem does_pollCall (hn : (h.calls.map PendingCall.number).Nodup) (number : Nat) :
    Does h (h.moments (.pollCall number)) (h.pollCall number) := by
  cases hk : h.calls.find? fun k => k.number = number with
  | none =>
    simp only [pollCall, moments, hk]
    exact .hears (fun m hm => by cases hm) (.of_eq rfl) rfl rfl rfl
  | some k =>
    obtain ⟨pre, post, hcalls, rfl, hother, hstage⟩ := h.stage_pollCall hn hk
    have hdevices : (h.pollCall k.number).devices = h.devices ∧
        (h.pollCall k.number).nextDevice = h.nextDevice := by
      simp only [pollCall, hk]
      rcases k.call.poll h.client with ⟨_ | _, c⟩ <;> exact ⟨rfl, rfl⟩
    simp only [moments, hk]
    exact .turn pre k post hcalls hother (congrArg Stage.client hstage)
      (congrArg Stage.calls hstage) hdevices.1 hdevices.2

/-- **Every action does one of these.** -/
theorem does_act (hn : (h.calls.map PendingCall.number).Nodup) (a : Action) :
    Does h (h.moments a) (h.act a) := by
  by_cases ha : ∀ n, a ≠ .pollCall n
  case neg =>
    obtain ⟨n, hn'⟩ := not_forall.mp ha
    obtain rfl := not_not.mp hn'
    exact does_pollCall hn n
  have hms := silent_moments (h := h) ha
  have hstay : Does h (h.moments a) h := .hears hms (.of_eq rfl) rfl rfl rfl
  cases a with
  | pollCall n => exact absurd rfl (ha n)
  | startDriver | stopDriver =>
    obtain ⟨hc, hk, hd, hn⟩ := h.listens_stopDriver
    exact .hears hms hc hk hd hn
  | pollDriver =>
    simp only [act, pollDriver]
    cases h.driver with
    | none => exact hstay
    | some d =>
      have hheard := d.listens_poll h.client
      simp only
      rcases hp : d.poll h.client with ⟨_ | d', c⟩ <;> rw [hp] at hheard <;>
        exact .hears hms hheard rfl rfl rfl
  | begin number r =>
    simp only [act, begin]
    split
    · exact hstay
    · split
      · exact .begins hms number r _ ‹_›
      · exact hstay
  | cancelCall number => exact .cancels hms _
  | release number =>
    cases hd : h.device? number with
    | none => simpa only [act, release, hd] using hstay
    | some d => exact .releases hms number d hd
  | bind kind address =>
    simp only [act, bind, Client.bindDevice, Client.bindPoint]
    cases kind.dpt with
    | error f => exact hstay
    | ok dpt =>
      simp only [Bind.bind, Except.bind]
      cases hr : h.client.registry.bind address dpt with
      | error f => exact hstay
      | ok r => exact .binds hms kind ⟨address, dpt, r.1⟩ r.2 hr
  | arrive d =>
    simp only [act, arrive?]
    cases h.client.socket.arrive? d with
    | none => exact hstay
    | some socket => exact .hears hms (.of_eq rfl) rfl rfl rfl
  | failReceive f | refuse b | elapse ms => exact .hears hms (.of_eq rfl) rfl rfl rfl

/-! ### What is left of calls and devices -/

theorem mem_of_others {ks pre post : List PendingCall} (hks : ks = pre ++ k :: post)
    (hk' : k' ∈ pre ++ post) : k' ∈ ks := by
  rw [hks]
  exact (List.Sublist.append_left (List.sublist_cons_self _ _) _).mem hk'

/-- What is left of a call has the call's number and device. -/
theorem eq_of_mem_rest {c : Client} (hk : k' ∈ k.rest c) :
    ∃ call, (k.call.poll c).1 = .waiting call ∧ k' = { k with call := call } := by
  unfold PendingCall.rest at hk
  cases hp : (k.call.poll c).1 with
  | done result => simp [hp] at hk
  | waiting call => exact ⟨call, rfl, by simpa [hp] using hk⟩

theorem client_release (hd : h.device? n = some d) :
    (h.release n).client = (h.cancelCalls fun k => k.device = some n).client.release d.point := by
  simp only [release, hd]

theorem calls_release (hd : h.device? n = some d) :
    (h.release n).calls = (h.cancelCalls fun k => k.device = some n).calls := by
  simp only [release, hd]

theorem devices_release (hd : h.device? n = some d) :
    (h.release n).devices = h.devices.eraseP (fun d => d.1 = n) ∧
      (h.release n).nextDevice = h.nextDevice := by
  simp only [release, hd]
  exact ⟨rfl, rfl⟩

/-- A call that there is was there before, or begins, or is what a turn has left. -/
theorem Does.mem_calls (hdoes : h.Does ms h') (hk : k ∈ h'.calls) :
    k ∈ h.calls ∨ k.call.Fresh ∨ ∃ k' ∈ h.calls, k ∈ k'.rest h.client := by
  cases hdoes with
  | hears hms hc hcalls => exact .inl (hcalls ▸ hk)
  | begins hms number r call hr =>
    rcases List.mem_append.mp hk with hk | hk
    · exact .inl hk
    · obtain rfl := List.mem_singleton.mp hk
      exact .inr (.inl (Request.fresh_of_call? hr))
  | turn pre k' post hcalls hother hc hcalls' =>
    rw [hcalls'] at hk
    simp only [hcalls, List.mem_append, List.mem_cons] at hk ⊢
    rcases hk with hk | hk | hk
    · exact .inl (.inl hk)
    · exact .inr (.inr ⟨k', .inr (.inl rfl), hk⟩)
    · exact .inl (.inr (.inr hk))
  | cancels hms p => exact .inl (List.mem_of_mem_filter hk)
  | releases hms n d hd =>
    rw [calls_release hd] at hk
    exact .inl (List.mem_of_mem_filter hk)
  | binds hms kind p r hr => exact .inl hk

/-! ### What calls have said

What matters of a call is often what was so when it had a certain turn. So it is looked up in the
history, among the turns of the calls of its number. -/

section Said

variable {α : Type} {say : Client → Call → Option α}

/-- What a call of this number says at a moment, if it has its turn then. -/
def Moment.said? (say : Client → Call → Option α) (number : Nat) (m : Moment) : Option α :=
  match m.deed with
  | .call k => if k.number = number then say m.before k.call else none
  | _ => none

/-- **What a call of this number has said last.** -/
def said? (say : Client → Call → Option α) (ms : List Moment) (number : Nat) : Option α :=
  ms.reverse.findSome? (Moment.said? say number)

/-- When no call has a turn, what was said last is the same. -/
theorem said?_silent (hms : Silent ms') (ms : List Moment) (number : Nat) :
    said? say (ms ++ ms') number = said? say ms number := by
  have hnone : ms'.reverse.findSome? (Moment.said? say number) = none := by
    refine List.findSome?_eq_none_iff.mpr fun m hm => ?_
    unfold Moment.said?
    split
    · exact absurd ‹_› (hms m (List.mem_reverse.mp hm) _)
    · rfl
  rw [said?, List.reverse_append, List.findSome?_append, hnone, Option.none_or]
  rfl

/-- When a call has its turn, it is the one that may have said something. -/
theorem said?_turn (ms : List Moment) (k : PendingCall) (c c' : Client) (number : Nat) :
    said? say (ms ++ [⟨.call k, c, c'⟩]) number =
      (if k.number = number then say c k.call else none).or (said? say ms number) := by
  have hsaid : Moment.said? say number ⟨.call k, c, c'⟩ =
      if k.number = number then say c k.call else none := rfl
  rw [said?, List.reverse_concat, List.findSome?_cons, ← hsaid]
  cases Moment.said? say number ⟨.call k, c, c'⟩ <;> rfl

end Said

/-! ### Runs -/

theorem run_concat (h : Host) (actions : List Action) (a : Action) :
    h.run (actions ++ [a]) = (h.run actions).act a := List.foldl_concat ..

theorem history_concat (h : Host) (actions : List Action) (a : Action) :
    h.history (actions ++ [a]) = h.history actions ++ (h.run actions).moments a := by
  induction actions generalizing h with
  | nil => simp [history, run]
  | cons b rest ih =>
    rw [List.cons_append, history, history, ih, List.append_assoc]
    rfl

/-- No two calls have one number. -/
theorem nodup_run (config : Config) (actions : List Action) :
    (((fresh config).run actions).calls.map PendingCall.number).Nodup :=
  (turns_run (fresh config) List.nodup_nil actions).nodup List.nodup_nil

/-- **Every step of a run** does one of the six. -/
theorem does_run (config : Config) (actions : List Action) (a : Action) :
    let h := (fresh config).run actions
    h.Does (h.moments a) (h.act a) := does_act (nodup_run config actions) a

end Host

end KnxIp
