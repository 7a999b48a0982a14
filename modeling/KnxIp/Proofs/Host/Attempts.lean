import KnxIp.Proofs.Host.History

/-!
# Attempts to open and to close a session

To open a session, and to close one, takes a request and an answer. While the answer is
awaited the session has a status of its own, in which nobody else can open or close it
(`KnxIp.Attempt.status`). What leads out of this status when the gateway stays silent is a
timer, and the timer belongs to the call that waits for the answer. So an attempt has to be
*attended* by a call (`KnxIp.Host.Attended`); if it is not, it may last forever, and whoever
wants to connect is refused.

Calls can be stopped where they are, and a call that is stopped takes its timer with it. What
it has begun goes on: the session keeps its status. This module proves that attempts are
attended except for that reason. An attempt that nobody attends to was left behind by a call
that was stopped while it waited, and nothing has ended the attempt since.

## Main statements

* `KnxIp.Host.attended_run_iff`: after a run every attempt is attended if and only if none was
  left behind by a call that was stopped.
* `KnxIp.Host.exists_not_attended`: a run after which an attempt is not attended, and a client
  that refuses to connect for this reason alone.
-/

namespace KnxIp

/-- **What somebody attempts to do with a session.** -/
inductive Attempt
  | opening
  | closing
  deriving DecidableEq

/-- The status of a session while the attempt lasts. -/
def Attempt.status : Attempt → Status
  | .opening => .connecting
  | .closing => .disconnecting

theorem Attempt.status_ne_disconnected (a : Attempt) : a.status ≠ .disconnected := by
  cases a <;> simp [status]

/-- Whether a call waits for the outcome of the attempt, with the timer that ends it. -/
def Call.attends (a : Attempt) : Call → Bool
  | .connect (.awaiting _) => a = .opening
  | .disconnect (.awaiting _) => a = .closing
  | .close (.disconnecting (.awaiting _)) => a = .closing
  | _ => false

/-! ### What calls do about attempts -/

namespace Client

/-- **No answer waits** for a call that opens a session, as long as the session is being
opened. -/
def Unanswered (c : Client) : Prop := c.session.status = .connecting → c.connectDone = none

variable {c c' : Client}

theorem NoAttempt.unanswered (h : NoAttempt c c') (hc : c.Unanswered) : c'.Unanswered := by
  intro hs
  obtain ⟨hs', hd⟩ := h.connecting hs
  rw [hd]
  exact hc hs'

/-- Where none begins, an attempt that lasts was under way. -/
theorem NoAttempt.status (h : NoAttempt c c') {a : Attempt} (ha : c'.session.status = a.status) :
    c.session.status = a.status := by
  cases a with
  | opening => exact (h.connecting ha).1
  | closing => exact h.disconnecting ha

theorem unanswered_of_status_ne (h : c.session.status ≠ .connecting) : c.Unanswered :=
  fun hs => absurd hs h

/-- A socket that fails leaves no session. -/
theorem status_transportFailed (c : Client) (f : Fault) :
    (c.transportFailed f).session.status = .disconnected := by
  unfold transportFailed
  cases c.session.status with
  | disconnected => rfl
  | connecting => rfl
  | _ =>
    simp only
    rw [sessionLost_eq]
    rfl

end Client

open Client

/-- **A turn of a call settles an attempt**: if it still lasts after the turn, then it was
under way and is not the business of this call, or the call waits for its outcome. -/
def Call.Settles (k : Call) (c c' : Client) (rest : Option Call) : Prop :=
  ∀ a : Attempt, c'.session.status = a.status →
    (c.session.status = a.status ∧ k.attends a = false) ∨ ∃ k', rest = some k' ∧ k'.attends a

/-- Where the time to connect is over, a session that is not being opened stays as it is. -/
theorem Session.status_connectExpired (s : Session) :
    s.status ≠ .connecting ∧ s.connectExpired.status = s.status ∨
      s.connectExpired.status = .disconnected := by
  unfold connectExpired
  split
  · exact Or.inr rfl
  · rename_i hs
    exact Or.inl ⟨hs, rfl⟩

namespace Connecting

/-- A call that begins to open a session waits for the answer, or there is no attempt. -/
theorem settles_begin {c : Client} (hc : c.Unanswered) :
    (Call.connect .start).Settles c (begin c).2 ((begin c).1.rest?.map .connect) ∧
      (begin c).2.Unanswered := by
  unfold begin
  rcases c.session.connectRequest_cases with h | ⟨-, h⟩
  · simp only [h]
    exact ⟨fun a ha => Or.inl ⟨ha, rfl⟩, hc⟩
  · simp only [h, transmitFrame]
    generalize hb : (publish _ _ : Client) = b
    have hstatus : b.session.status = .connecting := by
      subst hb
      rfl
    have hnone : b.connectDone = none := by
      subst hb
      rfl
    rcases b.transmit_cases ⟨(Frame.connectRequest ⟨c.session.control, c.session.control,
        .tunnel⟩).octets, c.config.gateway⟩ with ⟨f, ht⟩ | ht
    · simp only [ht]
      have hs := b.status_transportFailed f
      refine ⟨fun a ha => absurd (ha.symm.trans hs) a.status_ne_disconnected, ?_⟩
      exact unanswered_of_status_ne (by simp [hs])
    · simp only [ht]
      refine ⟨fun a ha => Or.inr ⟨_, rfl, ?_⟩, fun _ => hnone⟩
      cases a with
      | opening => rfl
      | closing => cases hstatus.symm.trans ha

/-- A call whose time is over leaves no session that is being opened. -/
theorem settles_expired {c : Client} (deadline : Nat) :
    (Call.connect (.awaiting deadline)).Settles c (expired c).2 none ∧
      (expired c).2.Unanswered := by
  have hs : c.session.connectExpired.status ≠ .connecting := by
    rcases c.session.status_connectExpired with ⟨hne, h⟩ | h
    · rwa [h]
    · simp [h]
  have hsettles : ∀ a : Attempt, c.session.connectExpired.status = a.status →
      c.session.status = a.status ∧ (Call.connect (.awaiting deadline)).attends a = false := by
    intro a ha
    rcases c.session.status_connectExpired with ⟨-, h⟩ | h
    · refine ⟨h.symm.trans ha, ?_⟩
      cases a with
      | opening => exact absurd ha hs
      | closing => rfl
    · exact absurd (ha.symm.trans h) a.status_ne_disconnected
  unfold expired
  simp only
  split <;> exact ⟨fun a ha => Or.inl (hsettles a ha), unanswered_of_status_ne hs⟩

/-- The outcome of a turn of a call that opens a session. -/
theorem settles_poll (k : Connecting) {c : Client} (hc : c.Unanswered) :
    (Call.connect k).Settles c (k.poll c).2 ((k.poll c).1.rest?.map .connect) ∧
      (k.poll c).2.Unanswered := by
  cases k with
  | start => exact settles_begin hc
  | awaiting deadline =>
    unfold poll
    cases hd : c.connectDone with
    | some result =>
      refine ⟨fun a ha => Or.inl ⟨ha, ?_⟩, fun _ => rfl⟩
      -- An answer is there only once the client has ceased to connect.
      cases a with
      | opening => cases hd.symm.trans (hc ha)
      | closing => rfl
    | none =>
      simp only
      split
      · exact settles_expired deadline
      · refine ⟨fun a ha => ?_, hc⟩
        cases a with
        | opening => exact Or.inr ⟨_, rfl, rfl⟩
        | closing => exact Or.inl ⟨ha, rfl⟩

end Connecting

namespace Disconnecting

/-- After a wait for the end of a session there is none. -/
theorem status_conclude (c : Client) : (conclude c).session.status = .disconnected := by
  unfold conclude Session.forceDisconnected
  simp only
  split
  · rw [sessionLost_eq]
    rfl
  · rfl

/-- The outcome of a turn of a call that closes a session. -/
theorem settles_poll (k : Disconnecting) {c : Client} (hc : c.Unanswered) :
    (Call.disconnect k).Settles c (k.poll c).2 ((k.poll c).1.rest?.map .disconnect) ∧
      (k.poll c).2.Unanswered := by
  have hended : ∀ (b : Client) (rest : Option Call), b.session.status = .disconnected →
      (Call.disconnect k).Settles c b rest ∧ b.Unanswered := fun b rest hs =>
    ⟨fun a ha => absurd (ha.symm.trans hs) a.status_ne_disconnected,
      unanswered_of_status_ne (by simp [hs])⟩
  cases k with
  | start =>
    unfold poll begin
    rcases c.session.disconnectRequest_cases with h | ⟨-, h⟩
    · simp only [h]
      exact ⟨fun a ha => Or.inl ⟨ha, rfl⟩, hc⟩
    · simp only [h, transmitFrame]
      generalize hb : ({ c with session := _, disconnectDone := _, ackDone := _ } : Client) = b
      have hstatus : b.session.status = .disconnecting := by
        subst hb
        rfl
      rcases b.transmit_cases ⟨(Frame.disconnectRequest
          ⟨c.session.channel, c.session.control⟩).octets, c.config.gateway⟩ with ⟨f, ht⟩ | ht
      · simp only [ht]
        exact hended _ _ (b.status_transportFailed f)
      · simp only [ht]
        refine ⟨fun a ha => Or.inr ⟨_, rfl, ?_⟩, unanswered_of_status_ne (by simp [hstatus])⟩
        cases a with
        | opening => cases hstatus.symm.trans ha
        | closing => rfl
  | awaiting deadline =>
    unfold poll
    simp only
    split
    · exact hended _ _ (status_conclude _)
    · split
      · exact hended _ _ (status_conclude _)
      · refine ⟨fun a ha => ?_, hc⟩
        cases a with
        | opening => exact Or.inl ⟨ha, rfl⟩
        | closing => exact Or.inr ⟨_, rfl, rfl⟩

end Disconnecting

namespace Closing

/-- A call that stops a client attends to an attempt if the call in it does. -/
theorem attends_disconnecting (a : Attempt) (stage : Disconnecting) :
    (Call.close (.disconnecting stage)).attends a = (Call.disconnect stage).attends a := by
  cases stage <;> rfl

/-- The outcome of a turn of a call that stops a client is that of the call in it. -/
theorem settles_conclude {k : Closing} {stage : Disconnecting} {c : Client}
    (hk : ∀ a, (Call.close k).attends a = (Call.disconnect stage).attends a)
    (hc : c.Unanswered) :
    (Call.close k).Settles c (conclude (stage.poll c)).2
        ((conclude (stage.poll c)).1.rest?.map .close) ∧
      (conclude (stage.poll c)).2.Unanswered := by
  obtain ⟨hs, hu⟩ := stage.settles_poll hc
  rcases hp : stage.poll c with ⟨result | stage', b⟩
  · rw [hp] at hs hu
    refine ⟨fun a ha => Or.inl ?_, hu⟩
    rcases hs a ha with ⟨hb, hattends⟩ | ⟨k', hk', -⟩
    · exact ⟨hb, (hk a).trans hattends⟩
    · cases hk'
  · rw [hp] at hs hu
    refine ⟨fun a ha => ?_, hu⟩
    rcases hs a ha with ⟨hb, hattends⟩ | ⟨k', hk', hattends⟩
    · exact Or.inl ⟨hb, (hk a).trans hattends⟩
    · cases hk'
      exact Or.inr ⟨_, rfl, (attends_disconnecting a stage').trans hattends⟩

/-- The outcome of a turn of a call that stops a client. -/
theorem settles_poll (k : Closing) {c : Client} (hc : c.Unanswered) :
    (Call.close k).Settles c (k.poll c).2 ((k.poll c).1.rest?.map .close) ∧
      (k.poll c).2.Unanswered := by
  cases k with
  | start =>
    unfold poll
    simp only
    split
    · exact settles_conclude (fun a => rfl) hc
    · exact ⟨fun a ha => Or.inl ⟨ha, rfl⟩, hc⟩
  | disconnecting stage => exact settles_conclude (attends_disconnecting · stage) hc

end Closing

namespace Call

/-- **The outcome of a turn of any call**: no attempt is left that was this call's and that it
does not wait for. -/
theorem settles_poll (k : Call) {c : Client} (hc : c.Unanswered) :
    k.Settles c (k.poll c).2 (k.poll c).1.rest? ∧ (k.poll c).2.Unanswered := by
  have hquiet (hk : k.isLifecycle = false) :
      k.Settles c (k.poll c).2 (k.poll c).1.rest? ∧ (k.poll c).2.Unanswered := by
    have hno := (still_poll hk c).quiet.toNoAttempt
    refine ⟨fun a ha => Or.inl ⟨hno.status ha, ?_⟩, hno.unanswered hc⟩
    cases k <;> first | rfl | cases hk
  cases k with
  | connect stage =>
    simp only [poll, Prod.map_fst, Prod.map_snd, Progress.rest?_map, id]
    exact stage.settles_poll hc
  | disconnect stage =>
    simp only [poll, Prod.map_fst, Prod.map_snd, Progress.rest?_map, id]
    exact stage.settles_poll hc
  | close stage =>
    simp only [poll, Prod.map_fst, Prod.map_snd, Progress.rest?_map, id]
    exact stage.settles_poll hc
  | _ => exact hquiet rfl

end Call

namespace Host

/-! ### Every run -/

/-- **Every attempt is attended**: while a session is being opened, or closed, there is a call
that waits for the outcome. -/
def Attended (h : Host) : Prop :=
  ∀ a : Attempt, h.client.session.status = a.status → ∃ k ∈ h.calls, k.call.attends a

/-- **An attempt was left behind**: in one of these moments a call was stopped that waited for
the outcome, and from then on the session has kept the status. -/
def LeftBehind (a : Attempt) (ms : List Moment) : Prop :=
  ∃ pre m post k, ms = pre ++ m :: post ∧ m.deed = .cancel k ∧ k.call.attends a ∧
    ∀ m' ∈ m :: post, m'.after.session.status = a.status

/-- **Attempts are attended, or were left behind.** -/
structure Minded (ms : List Moment) (S : Stage) : Prop where
  unanswered : S.client.Unanswered
  attempt : ∀ a : Attempt, S.client.session.status = a.status →
    (∃ k ∈ S.calls, k.call.attends a) ∨ LeftBehind a ms

variable {S S' : Stage} {m : Moment} {ms : List Moment} {a : Attempt}

/-- What was left behind stays so as long as the session keeps the status. -/
theorem LeftBehind.concat (h : LeftBehind a ms) (hm : m.after.session.status = a.status) :
    LeftBehind a (ms ++ [m]) := by
  obtain ⟨pre, n, post, k, rfl, hn, hk, hpost⟩ := h
  refine ⟨pre, n, post ++ [m], k, by simp, hn, hk, ?_⟩
  rw [← List.cons_append, List.forall_mem_append, List.forall_mem_singleton]
  exact ⟨hpost, hm⟩

/-- The client after a turn is that of the moment. -/
theorem Turn.after_eq (t : Turn S m S') : m.after = S'.client := by
  cases t <;> rfl

/-- The client after some turns is that of the last moment. -/
theorem Turns.last_after_eq (t : Turns S ms S') (h : ms.getLast? = some m) :
    m.after = S'.client := by
  cases t with
  | nil => cases h
  | snoc _ t =>
    rw [List.getLast?_concat, Option.some.injEq] at h
    rw [← h]
    exact t.after_eq

/-- A turn in which nobody begins or ends an attempt, and no call has its turn or is
stopped. -/
theorem Minded.noAttempt (h : Minded ms S) (hno : S.client.NoAttempt S'.client)
    (hcalls : ∀ k ∈ S.calls, k ∈ S'.calls) (hm : m.after = S'.client) : Minded (ms ++ [m]) S' := by
  refine ⟨hno.unanswered h.unanswered, fun a ha => ?_⟩
  rcases h.attempt a (hno.status ha) with ⟨k, hk, hattends⟩ | hleft
  · exact Or.inl ⟨k, hcalls k hk, hattends⟩
  · exact Or.inr (hleft.concat (by rw [hm, ha]))

/-- **A turn** leaves no attempt without a call, unless it stops the call. -/
theorem Minded.turn (t : Turn S m S') (h : Minded ms S) : Minded (ms ++ [m]) S' := by
  cases t with
  | receive c s ks d socket =>
    have hb : c.NoAttempt { c with socket := socket } := .of_eq rfl rfl
    exact h.noAttempt (hb.trans (quiet_onDatagram _ d).toNoAttempt) (fun _ => id) rfl
  | send c s ks => exact h.noAttempt (s.standsBy_poll c).toNoAttempt (fun _ => id) rfl
  | stop s ks hb hq =>
    exact h.noAttempt (hq.toNoAttempt.trans (s.quiet_cancel _).toNoAttempt) (fun _ => id) rfl
  | start c ks => exact h.noAttempt (.refl c) (fun _ => id) rfl
  | begin c s ks k hn hk =>
    exact h.noAttempt (.refl c) (fun _ => List.mem_append_left _) rfl
  | call c s pre k post =>
    obtain ⟨hs, hu⟩ := k.call.settles_poll h.unanswered
    refine ⟨hu, fun a ha => ?_⟩
    rcases hs a ha with ⟨hb, hattends⟩ | ⟨call, hrest, hattends⟩
    · -- The attempt is not the business of this call, so somebody else attends to it.
      rcases h.attempt a hb with ⟨k', hk', hattends'⟩ | hleft
      · refine Or.inl ⟨k', ?_, hattends'⟩
        have hne : k' ≠ k := by
          rintro rfl
          rw [hattends] at hattends'
          cases hattends'
        simp only [List.mem_append, List.mem_cons] at hk' ⊢
        tauto
      · exact Or.inr (hleft.concat ha)
    · exact Or.inl ⟨{ k with call := call }, by simp [PendingCall.rest, hrest], hattends⟩
  | cancel c s pre k post =>
    have hno := (k.call.still_cancel c).quiet.toNoAttempt
    refine ⟨hno.unanswered h.unanswered, fun a ha => ?_⟩
    by_cases hattends : k.call.attends a
    · exact Or.inr ⟨ms, _, [], k, rfl, rfl, hattends, by simpa using ha⟩
    · rcases h.attempt a (hno.status ha) with ⟨k', hk', hattends'⟩ | hleft
      · refine Or.inl ⟨k', ?_, hattends'⟩
        have hne : k' ≠ k := by
          rintro rfl
          exact hattends hattends'
        simp only [List.mem_append, List.mem_cons] at hk' ⊢
        tauto
      · exact Or.inr (hleft.concat ha)
  | move s ks hm hq => exact h.noAttempt hq.toNoAttempt (fun _ => id) rfl

theorem Turns.minded (t : Turns S ms S') (h : Minded [] S) : Minded ms S' := by
  induction t with
  | nil => exact h
  | snoc _ t ih => exact ih.turn t

/-- **After a run every attempt is attended if and only if none was left behind** by a call
that was stopped, or if somebody else attends to it all the same. -/
theorem attended_run_iff (config : Config) (actions : List Action) :
    ((fresh config).run actions).Attended ↔
      ∀ a, LeftBehind a ((fresh config).history actions) →
        ∃ k ∈ ((fresh config).run actions).calls, k.call.attends a := by
  have ht := turns_run (fresh config) List.nodup_nil actions
  have hminded := ht.minded ⟨fun _ => rfl, fun a ha => absurd ha.symm a.status_ne_disconnected⟩
  constructor
  · rintro h a ⟨pre, m, post, k, hms, -, -, hpost⟩
    -- The status has been kept to the last moment, so that the run has ended with it.
    refine h a ?_
    have hlast : (m :: post).getLast? = some ((m :: post).getLast (by simp)) :=
      List.getLast?_eq_getLast_of_ne_nil _
    rw [hms] at ht
    have hafter := ht.last_after_eq (m := (m :: post).getLast (by simp)) (by
      rw [List.getLast?_append, hlast]; rfl)
    have hstatus := hpost _ (List.getLast_mem (by simp))
    rw [hafter] at hstatus
    exact hstatus
  · intro h a ha
    rcases hminded.attempt a ha with hcall | hleft
    · exact hcall
    · exact h a hleft

/-- A call that opens a session is stopped while it waits for the answer. -/
def stoppedDial : List Action :=
  [.begin 0 .connect, .pollCall 0, .cancelCall 0, .begin 1 .connect, .pollCall 1]

/-- **It does happen that nobody attends to an attempt**, and who wants to connect is refused
though no call is under way. -/
theorem exists_not_attended : ∃ (config : Config) (actions : List Action),
    ¬ ((fresh config).run actions).Attended ∧ ((fresh config).run actions).calls = [] ∧
      ((fresh config).run actions).finished =
        [.call 1 (.error (.connection .invalidState))] := by
  have hnil : ((fresh (.ofGateway ⟨⟨192, 168, 1, 10⟩, 3671⟩)).run stoppedDial).calls = [] := by
    decide +kernel
  refine ⟨.ofGateway ⟨⟨192, 168, 1, 10⟩, 3671⟩, stoppedDial, fun h => ?_, hnil, ?_⟩
  · obtain ⟨k, hk, -⟩ := h .opening (by decide +kernel)
    rw [hnil] at hk
    cases hk
  · decide +kernel

end Host

end KnxIp
