import KnxIp.Host
import KnxIp.Proofs.Client.Quiet
import Mathlib.Data.List.Nodup

/-!
# The history of a host

An action of the world can have many effects: when it is the driver's turn, the dispatcher
receives what there is to receive, then the sender has its turn, then the heartbeat. The
*history* of a host (`KnxIp.Host.history`) takes the actions apart into *moments*, each of
which says whose turn it was and how the client looked before and after.

Proofs do not look into the moments. They go by *turns* (`KnxIp.Host.Turn`): what a moment
can do to the client, to the sender, if one runs, and to the calls that have not ended.
That what the world says is nothing but a sequence of turns, one for each moment, is
`KnxIp.Host.turns_run`. So a property of all runs is proved by an induction in which
each case is one turn.
-/

namespace KnxIp

/-- A call as its turn leaves it; nothing, if that was its last. -/
def PendingCall.rest (k : PendingCall) (c : Client) : List PendingCall :=
  ((k.call.poll c).1.rest?.map fun call => { k with call := call }).toList

/-- **A call that has not run yet.** -/
inductive Call.Fresh : Call → Prop
  | connect : Fresh (.connect .start)
  | disconnect : Fresh (.disconnect .start)
  | close : Fresh (.close .start)
  | send (message : Cemi) : Fresh (.send (.start message))
  | enqueue (message : Cemi) : Fresh (.enqueue (.start message))
  | refused (f : Fault) : Fresh (.refused f)
  | read (form : ReadForm) (address : GroupAddress) : Fresh (.read form (.start address))
  | write (p : Point) (setting : Setting) : Fresh (.write p (.start setting))
  | update (p : Point) (asNumber : Bool) : Fresh (.update p asNumber .start)

namespace Host

/-! ### Moments -/

/-- **Whose turn it was**, or whose end. -/
inductive Deed
  /-- The dispatcher received a datagram. -/
  | receive (datagram : Datagram)
  /-- The sender had its turn. -/
  | send (sender : Sender)
  /-- The sender was stopped. -/
  | stop (sender : Sender)
  /-- A call had its turn. -/
  | call (call : PendingCall)
  /-- A call was stopped. -/
  | cancel (call : PendingCall)
  /-- Something else. -/
  | other
  deriving DecidableEq

/-- **A moment** of a history. -/
structure Moment where
  deed : Deed
  before : Client
  after : Client
  deriving DecidableEq

/-- The fault with which the socket failed to receive, if it did. That a datagram is too long is
no such fault. -/
def Moment.failure? (m : Moment) : Option Fault :=
  match m.deed, m.before.socket.receive? with
  | .other, some (.error f, socket) =>
    if f ≠ .transport .bufferTooSmall ∧
        m.after = { m.before with socket := socket }.transportFailed f then some f
    else none
  | _, _ => none

/-- What a dispatcher receives in one turn, piece by piece. -/
def receipts (c : Client) : Nat → List Moment
  | 0 => []
  | attempts + 1 =>
    match c.socket.receive? with
    | none => []
    | some (.ok d, socket) =>
      let c' := { c with socket := socket }.onDatagram d
      ⟨.receive d, c, c'⟩ :: receipts c' attempts
    | some (.error f, socket) =>
      let b := { c with socket := socket }
      if f = .transport .bufferTooSmall then
        ⟨.other, c, b.publishFault f⟩ :: receipts (b.publishFault f) attempts
      else
        [⟨.other, c, b.transportFailed f⟩]

/-- The moments of a turn of the dispatcher. -/
def dispatcherMoments (d : Dispatcher) (c : Client) : List Moment :=
  match d with
  | .receiving => receipts c c.socket.waiting
  | .resting deadline => if deadline ≤ c.now then receipts c c.socket.waiting else []

/-- The moments of a turn of the driver. -/
def driverMoments (d : Driver) (c : Client) : List Moment :=
  let c₁ := (d.dispatcher.poll c).2
  let (sender, c₂) := d.sender.poll c₁
  let c₃ := (d.heartbeat.poll c₂).2
  let stop : Moment := ⟨.stop sender, c₃, sender.cancel { c₃ with shutdown := false }⟩
  dispatcherMoments d.dispatcher c ++ ⟨.send d.sender, c₁, c₂⟩ :: ⟨.other, c₂, c₃⟩ ::
    if c₃.shutdown then [stop] else []

/-- The moments of stopping calls, one after the other. -/
def cancelMoments : List PendingCall → Client → List Moment
  | [], _ => []
  | k :: rest, c => ⟨.cancel k, c, k.call.cancel c⟩ :: cancelMoments rest (k.call.cancel c)

/-- The moments of stopping the driver, if one runs. -/
def stopMoments (h : Host) : List Moment :=
  match h.driver with
  | some d => [⟨.stop d.sender, h.client, d.cancel h.client⟩]
  | none => []

/-- **The moments of an action.** -/
def moments (h : Host) : Action → List Moment
  | .startDriver => h.stopMoments ++ [⟨.other, h.stopDriver.client, h.stopDriver.client⟩]
  | .stopDriver => h.stopMoments
  | .pollDriver =>
    match h.driver with
    | some d => driverMoments d h.client
    | none => []
  | .pollCall number =>
    match h.calls.find? fun k => k.number = number with
    | some k => [⟨.call k, h.client, (k.call.poll h.client).2⟩]
    | none => []
  | .cancelCall number => cancelMoments (h.calls.filter fun k => k.number = number) h.client
  | .release number =>
    match h.device? number with
    | some d =>
      let b := (h.cancelCalls fun k => k.device = some number).client
      cancelMoments (h.calls.filter fun k => k.device = some number) h.client ++
        [⟨.other, b, b.release d.point⟩]
    | none => []
  | a => [⟨.other, h.client, (h.act a).client⟩]

/-- **The history of a host** to which the world says one thing after the other. -/
def history (h : Host) : List Action → List Moment
  | [] => []
  | a :: rest => h.moments a ++ (h.act a).history rest

/-! ### What is received -/

theorem deed_of_mem_cancelMoments {m : Moment} {ks : List PendingCall} {c : Client}
    (h : m ∈ cancelMoments ks c) : ∃ k, m.deed = .cancel k := by
  induction ks generalizing c with
  | nil => cases h
  | cons k ks ih =>
    obtain rfl | h := List.mem_cons.mp h
    · exact ⟨k, rfl⟩
    · exact ih h

theorem deed_of_mem_stopMoments {m : Moment} {h : Host} (hm : m ∈ h.stopMoments) :
    ∃ s, m.deed = .stop s := by
  unfold stopMoments at hm
  split at hm
  · obtain rfl := List.mem_singleton.mp hm
    exact ⟨_, rfl⟩
  · cases hm

/-- Only in the driver's turn is something received, and only in a call's turn does one run. -/
theorem mem_moments_cases {m : Moment} {h : Host} {a : Action} (hm : m ∈ h.moments a) :
    (a = .pollDriver ∧
        ∃ driver, h.driver = some driver ∧ m ∈ dispatcherMoments driver.dispatcher h.client) ∨
      (∃ number k, a = .pollCall number ∧ m.deed = .call k) ∨
        (∀ d, m.deed ≠ .receive d) ∧ ∀ k, m.deed ≠ .call k := by
  have hcancel : ∀ ks c, m ∈ cancelMoments ks c →
      (∀ d, m.deed ≠ .receive d) ∧ ∀ k, m.deed ≠ .call k := by
    intro ks c hm
    obtain ⟨k, hk⟩ := deed_of_mem_cancelMoments hm
    simp [hk]
  have hstop : m ∈ h.stopMoments → (∀ d, m.deed ≠ .receive d) ∧ ∀ k, m.deed ≠ .call k := by
    intro hm
    obtain ⟨s, hs⟩ := deed_of_mem_stopMoments hm
    simp [hs]
  have hother : ∀ b c : Client, m ∈ [⟨.other, b, c⟩] →
      (∀ d, m.deed ≠ .receive d) ∧ ∀ k, m.deed ≠ .call k := by
    intro b c hm
    simp [List.mem_singleton.mp hm]
  cases a with
  | startDriver => exact .inr (.inr ((List.mem_append.mp hm).elim hstop (hother _ _)))
  | stopDriver => exact .inr (.inr (hstop hm))
  | pollDriver =>
    simp only [moments] at hm
    split at hm
    · rename_i driver hdriver
      simp only [driverMoments, List.mem_append, List.mem_cons] at hm
      rcases hm with hm | rfl | rfl | hm
      · exact .inl ⟨rfl, driver, hdriver, hm⟩
      · exact .inr (.inr (by simp))
      · exact .inr (.inr (by simp))
      · split at hm
        · obtain rfl := List.mem_singleton.mp hm
          exact .inr (.inr (by simp))
        · cases hm
    · cases hm
  | pollCall number =>
    simp only [moments] at hm
    split at hm
    · obtain rfl := List.mem_singleton.mp hm
      exact .inr (.inl ⟨number, _, rfl, rfl⟩)
    · cases hm
  | cancelCall number => exact .inr (.inr (hcancel _ _ hm))
  | release number =>
    simp only [moments] at hm
    split at hm
    · exact .inr (.inr ((List.mem_append.mp hm).elim (hcancel _ _) (hother _ _)))
    · cases hm
  | _ => exact .inr (.inr (hother _ _ hm))

/-- Only the dispatcher receives, when it is the driver's turn. -/
theorem mem_dispatcherMoments_of_receive {m : Moment} {d : Datagram} {h : Host} {a : Action}
    (hm : m ∈ h.moments a) (hd : m.deed = .receive d) :
    a = .pollDriver ∧
      ∃ driver, h.driver = some driver ∧ m ∈ dispatcherMoments driver.dispatcher h.client := by
  rcases mem_moments_cases hm with h | ⟨_, k, -, hk⟩ | ⟨hreceive, -⟩
  · exact h
  · cases hk.symm.trans hd
  · exact absurd hd (hreceive d)

/-! ### Turns -/

/-- **What a history is about**: the client, the sender, if a driver runs, and the calls
that have not ended. -/
structure Stage where
  client : Client
  sender : Option Sender
  calls : List PendingCall

/-- The stage that a host is at. -/
def stage (h : Host) : Stage := ⟨h.client, h.driver.map Driver.sender, h.calls⟩

/-- **A turn**, of which this is the moment. -/
inductive Turn : Stage → Moment → Stage → Prop
  /-- The dispatcher takes a datagram from the socket. -/
  | receive (c : Client) (s : Option Sender) (ks : List PendingCall) (d : Datagram)
      (socket : Socket) :
      Turn ⟨c, s, ks⟩ ⟨.receive d, c, { c with socket := socket }.onDatagram d⟩
        ⟨{ c with socket := socket }.onDatagram d, s, ks⟩
  /-- The sender has its turn. -/
  | send (c : Client) (s : Sender) (ks : List PendingCall) :
      Turn ⟨c, some s, ks⟩ ⟨.send s, c, (s.poll c).2⟩ ⟨(s.poll c).2, some (s.poll c).1, ks⟩
  /-- The driver, and with it the sender, is stopped. -/
  | stop {c b : Client} (s : Sender) (ks : List PendingCall) (h : c.Aside b)
      (hq : Client.Quiet false false c b) (hu : c.Untouched b) :
      Turn ⟨c, some s, ks⟩ ⟨.stop s, c, s.cancel b⟩ ⟨s.cancel b, none, ks⟩
  /-- A driver is started. -/
  | start (c : Client) (ks : List PendingCall) :
      Turn ⟨c, none, ks⟩ ⟨.other, c, c⟩ ⟨c, some .idle, ks⟩
  /-- A call begins. -/
  | begin (c : Client) (s : Option Sender) (ks : List PendingCall) (k : PendingCall)
      (hn : k.number ∉ ks.map PendingCall.number) (hk : k.call.slot? = none)
      (hq : k.call.isQueueing = false) (hf : k.call.Fresh) :
      Turn ⟨c, s, ks⟩ ⟨.other, c, c⟩ ⟨c, s, ks ++ [k]⟩
  /-- A call has its turn. -/
  | call (c : Client) (s : Option Sender) (pre : List PendingCall) (k : PendingCall)
      (post : List PendingCall) :
      Turn ⟨c, s, pre ++ k :: post⟩ ⟨.call k, c, (k.call.poll c).2⟩
        ⟨(k.call.poll c).2, s, pre ++ (k.rest c ++ post)⟩
  /-- A call is stopped. -/
  | cancel (c : Client) (s : Option Sender) (pre : List PendingCall) (k : PendingCall)
      (post : List PendingCall) :
      Turn ⟨c, s, pre ++ k :: post⟩ ⟨.cancel k, c, k.call.cancel c⟩
        ⟨k.call.cancel c, s, pre ++ post⟩
  /-- Somebody else moves the client, and begins nothing. A session that was being opened still
  is, unless the socket has failed. -/
  | move {c c' : Client} (s : Option Sender) (ks : List PendingCall) (h : c.Moves c')
      (hq : Client.Quiet false false c c') (he : c.Effects c')
      (hf : Moment.failure? ⟨.other, c, c'⟩ = none → c.session.status = .connecting →
        c'.session.status = .connecting) :
      Turn ⟨c, s, ks⟩ ⟨.other, c, c'⟩ ⟨c', s, ks⟩

/-- Whatever happens by itself is a turn. -/
theorem Turn.effects {c c' : Client} (s : Option Sender) (ks : List PendingCall)
    (h : c.Effects c')
    (hf : Moment.failure? ⟨.other, c, c'⟩ = none → c.session.status = .connecting →
      c'.session.status = .connecting) : Turn ⟨c, s, ks⟩ ⟨.other, c, c'⟩ ⟨c', s, ks⟩ :=
  .move s ks h.moves h.quiet h hf

/-- What leaves the session alone is a turn. -/
theorem Turn.untouched {c c' : Client} (s : Option Sender) (ks : List PendingCall)
    (h : c.Untouched c') : Turn ⟨c, s, ks⟩ ⟨.other, c, c'⟩ ⟨c', s, ks⟩ :=
  .effects s ks h.effects fun _ hs => by rw [h.session, hs]

/-- To stop the driver is a turn, also after something that does not matter to requests. -/
theorem Turn.stopped {c b : Client} (s : Sender) (ks : List PendingCall) (h : c.Untouched b) :
    Turn ⟨c, some s, ks⟩ ⟨.stop s, c, s.cancel b⟩ ⟨s.cancel b, none, ks⟩ :=
  .stop s ks h.toAside (.of_eq h.session h.connectDone h.ackDone h.confirmation) h

/-- **Turns, one after the other**, with their moments. -/
inductive Turns (S : Stage) : List Moment → Stage → Prop
  | nil : Turns S [] S
  | snoc {ms : List Moment} {m : Moment} {S' S'' : Stage} (h : Turns S ms S')
      (t : Turn S' m S'') : Turns S (ms ++ [m]) S''

theorem Turns.single {S S' : Stage} {m : Moment} (t : Turn S m S') : Turns S [m] S' :=
  .snoc .nil t

theorem Turns.append {S S' S'' : Stage} {ms ns : List Moment} (h : Turns S ms S')
    (h' : Turns S' ns S'') : Turns S (ms ++ ns) S'' := by
  -- Turns are added at the end, so the induction is on those that come second.
  induction h' with
  | nil => simpa using h
  | snoc _ t ih =>
    rw [← List.append_assoc]
    exact .snoc ih t

theorem Turns.cons {S S' S'' : Stage} {m : Moment} {ms : List Moment} (t : Turn S m S')
    (h : Turns S' ms S'') : Turns S (m :: ms) S'' :=
  (Turns.single t).append h

/-! ### Every action is a sequence of turns -/

theorem turns_receipts (attempts : Nat) (c : Client) (s : Option Sender)
    (ks : List PendingCall) :
    Turns ⟨c, s, ks⟩ (receipts c attempts) ⟨(Dispatcher.receive c attempts).2, s, ks⟩ := by
  -- Each attempt begins with the client as the one before it has left it.
  induction attempts generalizing c with
  | zero => exact .nil
  | succ attempts ih =>
    unfold receipts Dispatcher.receive
    cases hr : c.socket.receive? with
    | none => exact .nil
    | some r =>
      obtain ⟨f | d, socket⟩ := r
      · have hb : c.Effects { c with socket := socket } :=
          Client.Untouched.effects ⟨⟨rfl, rfl, rfl, rfl, rfl, rfl, rfl⟩, rfl, rfl⟩
        simp only
        split
        · exact .cons (.effects s ks (hb.tail (.publish _ _ rfl)) fun _ hs => hs) (ih _)
        · rename_i hf
          refine .single (.effects s ks (hb.tail (.fail _ _)) fun hnone => ?_)
          simp [Moment.failure?, hr, hf] at hnone
      · exact .cons (.receive c s ks _ socket) (ih _)

theorem turns_dispatcherMoments (d : Dispatcher) (c : Client) (s : Option Sender)
    (ks : List PendingCall) :
    Turns ⟨c, s, ks⟩ (dispatcherMoments d c) ⟨(d.poll c).2, s, ks⟩ := by
  cases d with
  | receiving => exact turns_receipts _ _ _ _
  | resting deadline =>
    unfold dispatcherMoments Dispatcher.poll
    simp only
    split
    · exact turns_receipts _ _ _ _
    · exact .nil

/-- **A turn of the driver** is a sequence of turns. -/
theorem turns_driverMoments (d : Driver) (c : Client) (ks : List PendingCall) :
    Turns ⟨c, some d.sender, ks⟩ (driverMoments d c)
      ⟨(d.poll c).2, (d.poll c).1.map Driver.sender, ks⟩ := by
  have hd := turns_dispatcherMoments d.dispatcher c (some d.sender) ks
  have hs := Turn.send (d.dispatcher.poll c).2 d.sender ks
  have hh := Turn.effects (some (d.sender.poll (d.dispatcher.poll c).2).1) ks
    (d.heartbeat.effects_poll (d.sender.poll (d.dispatcher.poll c).2).2) fun _ hs => by
      rw [d.heartbeat.session_poll (by rw [hs]; rfl), hs]
  unfold driverMoments Driver.poll Driver.advance
  simp only
  split
  · refine hd.append (.cons hs (.cons hh (.single ?_)))
    exact .stopped _ ks ⟨⟨rfl, rfl, rfl, rfl, rfl, rfl, rfl⟩, rfl, rfl⟩
  · exact hd.append (.cons hs (.single hh))

/-- To stop calls takes one turn for each. -/
theorem turns_cancelMoments (p : PendingCall → Bool) (ks pre : List PendingCall) (c : Client)
    (s : Option Sender) :
    Turns ⟨c, s, pre ++ ks⟩ (cancelMoments (ks.filter p) c)
      ⟨(ks.filter p).foldl (fun c k => k.call.cancel c) c, s, pre ++ ks.filter fun k => !p k⟩ := by
  induction ks generalizing pre c with
  | nil => exact .nil
  | cons k ks ih =>
    by_cases hk : p k
    · simp only [List.filter_cons_of_pos hk, cancelMoments, List.foldl_cons]
      rw [List.filter_cons_of_neg (by simpa using hk)]
      exact .cons (.cancel c s pre k ks) (ih pre _)
    · simp only [List.filter_cons_of_neg hk]
      rw [List.filter_cons_of_pos (by simpa using hk)]
      -- The call stays, so from here on it belongs to those that come first.
      simpa using ih (pre ++ [k]) c

theorem turns_stopMoments (h : Host) : Turns h.stage h.stopMoments h.stopDriver.stage := by
  cases hd : h.driver with
  | none => simpa [stopMoments, stopDriver, hd] using Turns.nil
  | some d =>
    have ht : Turns h.stage [⟨.stop d.sender, h.client, d.sender.cancel h.client⟩]
        ⟨d.sender.cancel h.client, none, h.calls⟩ := by
      simpa [stage, hd] using
        Turns.single (.stopped d.sender h.calls (.refl h.client))
    simpa [stopMoments, stopDriver, stage, hd, Driver.cancel] using ht

/-- The call with a number, among calls of which no two have the same number. -/
theorem calls_of_find? {ks : List PendingCall} {number : Nat} {k : PendingCall}
    (hn : (ks.map PendingCall.number).Nodup)
    (hk : ks.find? (fun k => k.number = number) = some k) :
    ∃ pre post, ks = pre ++ k :: post ∧ k.number = number ∧
      ∀ k' ∈ pre ++ post, k'.number ≠ number := by
  obtain ⟨hp, pre, post, rfl, hpre⟩ := List.find?_eq_some_iff_append.mp hk
  have hnum : k.number = number := by simpa using hp
  refine ⟨pre, post, rfl, hnum, ?_⟩
  intro k' hk'
  rcases List.mem_append.mp hk' with h | h
  · simpa using hpre k' h
  · have := (List.nodup_middle (a := k.number)).mp (by simpa using hn)
    rintro rfl
    exact (List.nodup_cons.mp this).1
      (List.mem_append_right _ (by rw [hnum]; exact List.mem_map_of_mem h))

/-- A call's turn replaces it by what is left of it, and concerns no other call. -/
theorem stage_pollCall (h : Host) (hn : (h.calls.map PendingCall.number).Nodup) {number : Nat}
    {k : PendingCall} (hk : h.calls.find? (fun k => k.number = number) = some k) :
    ∃ pre post, h.calls = pre ++ k :: post ∧ k.number = number ∧
      (∀ k' ∈ pre ++ post, k'.number ≠ number) ∧
        (h.pollCall number).stage =
          ⟨(k.call.poll h.client).2, h.driver.map Driver.sender,
            pre ++ (k.rest h.client ++ post)⟩ := by
  obtain ⟨pre, post, hcalls, hnum, hother⟩ := calls_of_find? hn hk
  have hpre : ∀ k' ∈ pre, k'.number ≠ number := fun k' h' =>
    hother k' (List.mem_append_left _ h')
  have hpost : ∀ k' ∈ post, k'.number ≠ number := fun k' h' =>
    hother k' (List.mem_append_right _ h')
  refine ⟨pre, post, hcalls, hnum, hother, ?_⟩
  simp only [pollCall, hk]
  -- The other calls have other numbers, so that only this one is replaced or left out.
  rcases hp : k.call.poll h.client with ⟨result | call, c⟩
  · have hfilter : (h.calls.filter fun k => k.number ≠ number) = pre ++ post := by
      rw [hcalls, List.filter_append, List.filter_cons_of_neg (by simp [hnum]),
        List.filter_eq_self.mpr (by simpa using hpre),
        List.filter_eq_self.mpr (by simpa using hpost)]
    simp only [stage, hfilter]
    simp [PendingCall.rest, hp]
  · have hmap : (h.calls.map fun k => if k.number = number then { k with call := call } else k) =
        pre ++ { k with call := call } :: post := by
      have hid : ∀ l : List PendingCall, (∀ k' ∈ l, k'.number ≠ number) →
          (l.map fun k => if k.number = number then { k with call := call } else k) = l := by
        intro l hl
        exact (List.map_congr_left fun k' h' => if_neg (hl k' h')).trans (List.map_id _)
      rw [hcalls, List.map_append, List.map_cons, if_pos hnum, hid pre hpre, hid post hpost]
    simp [stage, PendingCall.rest, hp, hmap]

theorem turns_pollCall (h : Host) (hn : (h.calls.map PendingCall.number).Nodup) (number : Nat) :
    Turns h.stage (h.moments (.pollCall number)) (h.pollCall number).stage := by
  cases hk : h.calls.find? fun k => k.number = number with
  | none => simpa [moments, pollCall, hk] using Turns.nil
  | some k =>
    obtain ⟨pre, post, hcalls, -, -, hstage⟩ := h.stage_pollCall hn hk
    rw [hstage, stage, hcalls]
    simpa only [moments, hk] using
      Turns.single (Turn.call h.client (h.driver.map Driver.sender) pre k post)

theorem turns_cancelCalls (h : Host) (p : PendingCall → Bool) :
    Turns h.stage (cancelMoments (h.calls.filter p) h.client) (h.cancelCalls p).stage :=
  turns_cancelMoments p h.calls [] h.client (h.driver.map Driver.sender)

end Host

namespace Request

variable {handle : Type} {config : Config} {find : handle → Option Device} {r : Request handle}
  {k : Call}

theorem fresh_of_call? (h : r.call? config find = some k) : k.Fresh := by
  -- A value that cannot be encoded makes a call that is refused at once.
  have hvalue : ∀ address dpt v, (Call.writeValue config address dpt v).Fresh := by
    intro address dpt v
    unfold Call.writeValue
    split
    · exact .enqueue _
    · exact .refused _
  have hrespond : ∀ p v, (Call.respondPoint config p v).Fresh := by
    intro p v
    unfold Call.respondPoint
    split
    · exact .enqueue _
    · exact .refused _
  cases r with
  | device d request =>
    simp only [call?, Option.map_eq_some_iff] at h
    obtain ⟨d, -, rfl⟩ := h
    cases request with
    | respond v => exact hrespond d.point v
    | write | toggle => exact .write _ _
    | read => exact .read _ _
    | waitUpdate => exact .update _ _
  | writeValue address dpt v =>
    cases h
    exact hvalue address dpt v
  | _ =>
    cases h
    constructor

/-- A call that begins holds no place, and does not wait for room in the queue yet. -/
theorem begins_of_call? (h : r.call? config find = some k) :
    k.slot? = none ∧ k.isQueueing = false := by
  cases fresh_of_call? h <;> exact ⟨rfl, rfl⟩

end Request

namespace Host

theorem turns_begin (h : Host) (number : Nat) (r : Request Nat) :
    Turns h.stage [⟨.other, h.client, (h.begin number r).client⟩] (h.begin number r).stage := by
  have hstay : Turns h.stage [⟨.other, h.client, h.client⟩] h.stage :=
    .single (.untouched _ _ (.refl _))
  unfold begin
  split
  · exact hstay
  · rename_i hp
    split
    · rename_i call hr
      obtain ⟨hslot, hqueueing⟩ := Request.begins_of_call? hr
      refine .single (.begin h.client _ h.calls ⟨number, r.device?, call⟩ ?_ hslot hqueueing
        (Request.fresh_of_call? hr))
      simpa [isPending] using hp
    · exact hstay

theorem turns_bind (h : Host) (kind : DeviceKind) (address : GroupAddress) :
    Turns h.stage [⟨.other, h.client, (h.act (.bind kind address)).client⟩]
      (h.act (.bind kind address)).stage := by
  -- To bind a device changes nothing of the client but its registry.
  have hb : ∀ n h', h.bind kind address = .ok (n, h') → ∃ registry,
      h'.client = { h.client with registry := registry } ∧ h'.driver = h.driver ∧
        h'.calls = h.calls := by
    intro n h' heq
    simp only [bind, Client.bindDevice, Client.bindPoint] at heq
    cases hk : kind.dpt with
    | error f => simp [hk, Bind.bind, Except.bind] at heq
    | ok dpt =>
      cases hr : h.client.registry.bind address dpt with
      | error f => simp [hk, hr, Bind.bind, Except.bind] at heq
      | ok r =>
        simp only [hk, hr, Bind.bind, Except.bind, pure, Except.pure, Except.ok.injEq,
          Prod.mk.injEq] at heq
        obtain ⟨-, rfl⟩ := heq
        exact ⟨r.2, rfl, rfl, rfl⟩
  simp only [act]
  cases heq : h.bind kind address with
  | error f => exact .single (.untouched _ _ (.refl _))
  | ok r =>
    obtain ⟨registry, hc, hd, hk⟩ := hb r.1 r.2 heq
    have hbound : h.client.Untouched { h.client with registry := registry } :=
      ⟨⟨rfl, rfl, rfl, rfl, rfl, rfl, rfl⟩, rfl, rfl⟩
    simp only [stage, hc, hd, hk]
    exact .single (.untouched _ _ hbound)

/-- **An action is a sequence of turns.** -/
theorem turns_act (h : Host) (hn : (h.calls.map PendingCall.number).Nodup) (a : Action) :
    Turns h.stage (h.moments a) (h.act a).stage := by
  have haside : ∀ c : Client, h.client.Untouched c →
      Turns h.stage [⟨.other, h.client, c⟩] ({ h with client := c } : Host).stage :=
    fun c hc => .single (.untouched _ _ hc)
  cases a with
  | startDriver =>
    refine h.turns_stopMoments.snoc ?_
    have hnone : h.stopDriver.driver = none := by
      cases hd : h.driver <;> simp [stopDriver, hd]
    have := Turn.start h.stopDriver.client h.stopDriver.calls
    simpa [act, startDriver, stage, hnone, Driver.fresh] using this
  | stopDriver => exact h.turns_stopMoments
  | pollDriver =>
    cases hd : h.driver with
    | none => simpa [moments, act, pollDriver, hd] using Turns.nil
    | some d =>
      have ht := turns_driverMoments d h.client h.calls
      rcases hp : d.poll h.client with ⟨_ | d', c⟩ <;>
        simpa [moments, act, pollDriver, stage, hd, hp] using ht
  | begin number r => exact h.turns_begin number r
  | pollCall number => exact h.turns_pollCall hn number
  | cancelCall number => exact h.turns_cancelCalls _
  | bind kind address => exact h.turns_bind kind address
  | release number =>
    cases hd : h.device? number with
    | none => simpa [moments, act, release, hd] using Turns.nil
    | some d =>
      simp only [moments, act, release, hd]
      refine (h.turns_cancelCalls _).snoc (.untouched _ _ ?_)
      exact ⟨⟨rfl, rfl, rfl, rfl, rfl, rfl, rfl⟩, rfl, rfl⟩
  | arrive d =>
    simp only [moments, act, arrive?]
    cases h.client.socket.arrive? d with
    | none => exact .single (.untouched _ _ (.refl _))
    | some socket => exact haside _ ⟨⟨rfl, rfl, rfl, rfl, rfl, rfl, rfl⟩, rfl, rfl⟩
  | failReceive f => exact haside _ ⟨⟨rfl, rfl, rfl, rfl, rfl, rfl, rfl⟩, rfl, rfl⟩
  | refuse refusing => exact haside _ ⟨⟨rfl, rfl, rfl, rfl, rfl, rfl, rfl⟩, rfl, rfl⟩
  | elapse ms => exact haside _ ⟨⟨rfl, rfl, rfl, rfl, rfl, rfl, rfl⟩, rfl, rfl⟩

/-! ### Every run is a sequence of turns -/

/-- A turn gives no number twice. -/
theorem Turn.nodup {S S' : Stage} {m : Moment} (t : Turn S m S')
    (h : (S.calls.map PendingCall.number).Nodup) : (S'.calls.map PendingCall.number).Nodup := by
  cases t with
  | begin c s ks k hn hk =>
    rw [List.map_append, List.nodup_append]
    refine ⟨h, by simp, ?_⟩
    rintro n hn' m hm rfl
    simp only [List.map_cons, List.map_nil, List.mem_singleton] at hm
    subst hm
    exact hn hn'
  | call c s pre k post =>
    cases hp : (k.call.poll c).1.rest? with
    | none =>
      simp only [PendingCall.rest, hp, Option.map_none, Option.toList_none, List.nil_append]
      exact h.sublist ((List.Sublist.append_left (List.sublist_cons_self _ _) _).map _)
    | some call => simpa [PendingCall.rest, hp] using h
  | cancel c s pre k post =>
    exact h.sublist ((List.Sublist.append_left (List.sublist_cons_self _ _) _).map _)
  | _ => exact h

/-- Each moment is that of a turn. -/
theorem Turns.exists_turn {S S' : Stage} {ms : List Moment} (t : Turns S ms S') {m : Moment}
    (hm : m ∈ ms) : ∃ S₁ S₂, Turn S₁ m S₂ := by
  induction t with
  | nil => cases hm
  | snoc _ t ih =>
    rcases List.mem_append.mp hm with hm | hm
    · exact ih hm
    · obtain rfl := List.mem_singleton.mp hm
      exact ⟨_, _, t⟩

theorem Turns.nodup {S S' : Stage} {ms : List Moment} (t : Turns S ms S')
    (h : (S.calls.map PendingCall.number).Nodup) : (S'.calls.map PendingCall.number).Nodup := by
  induction t with
  | nil => exact h
  | snoc _ t ih => exact t.nodup ih

/-- **Whatever the world says is a sequence of turns**, of which the history tells the
moments. -/
theorem turns_run (h : Host) (hn : (h.calls.map PendingCall.number).Nodup)
    (actions : List Action) : Turns h.stage (h.history actions) (h.run actions).stage := by
  -- That numbers are given once is what the induction carries from action to action.
  induction actions generalizing h with
  | nil => exact .nil
  | cons a rest ih =>
    have ht := h.turns_act hn a
    exact ht.append (ih (h.act a) (ht.nodup hn))

/-- **What every turn preserves holds after every run**: of what is gathered from the moments,
one after the other, and of the stage that the host is at. -/
theorem fold_induction {α : Type} {note : α → Moment → α} {empty : α} {P : α → Stage → Prop}
    (config : Config) (init : P empty (fresh config).stage)
    (turn : ∀ {a S S' m}, Turn S m S' → P a S → P (note a m) S') (actions : List Action) :
    P (((fresh config).history actions).foldl note empty)
      ((fresh config).run actions).stage := by
  have ht := turns_run (fresh config) List.nodup_nil actions
  -- Nothing is needed of the actions but that they are turns, one for each moment.
  generalize (fresh config).history actions = ms at ht ⊢
  generalize ((fresh config).run actions).stage = S at ht ⊢
  induction ht with
  | nil => exact init
  | snoc _ t ih =>
    rw [List.foldl_concat]
    exact turn t ih

end Host

end KnxIp
