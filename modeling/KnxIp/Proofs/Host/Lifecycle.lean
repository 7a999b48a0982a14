import KnxIp.Proofs.Host.History

/-!
# What listeners hear of sessions

A client publishes that a session begins and that it ends, and whoever listens may expect to
hear the two in turn. Six activities can end a session, each of which decides for itself
whether it is the one to say so. The listener's part is `KnxIp.hear`: he remembers whether a
session is announced, and loses track if a session begins that has begun already, or one
ends that has not.

As long as nobody overtakes, the status of the session is what the listener remembers
(`KnxIp.Client.Reports`): every move reports what it does to the session, and so do the
requests, which do nothing to it. A call that closes a session and resumes only when the next
one is about to be opened reports the end of a session that was never announced. So
overtaking is not one way among others to lose track, it is the only one.

## Main statements

* `KnxIp.heard_run`: after every run in which nobody overtakes, the listener knows the status
  of the session, and after all others he has lost track.
* `KnxIp.alternates_run_iff`: in a run sessions begin and end in turn if and only if nobody
  overtakes.
* `KnxIp.exists_not_alternates`: a run in which somebody does.
-/

namespace KnxIp

/-! ### Listening -/

/-- Whether an output tells that a session begins, or ends. -/
def Output.begins? : Output → Option Bool
  | .event (.connected _) => some true
  | .event (.disconnected _) => some false
  | _ => none

/-- **Sessions begin and end in turn**, and none ends before the first begins. -/
def Alternates (outbox : List Output) : Prop :=
  (false :: outbox.filterMap Output.begins?).IsChain (· ≠ ·)

/-- What a listener remembers after another output, unless he loses track: whether a session
is announced. -/
def hear (announced : Bool) (o : Output) : Option Bool :=
  match o.begins? with
  | some b => if b = announced then none else some b
  | none => some announced

/-- What a listener remembers who has heard everything. -/
def heard (outbox : List Output) : Option Bool := outbox.foldlM hear false

theorem foldlM_hear_isSome_iff (announced : Bool) (os : List Output) :
    (os.foldlM hear announced).isSome ↔
      (announced :: os.filterMap Output.begins?).IsChain (· ≠ ·) := by
  -- After an event the listener remembers the event, as the chain does.
  induction os generalizing announced with
  | nil => simp
  | cons o os ih =>
    cases ho : o.begins? with
    | none => simpa [hear, ho] using ih announced
    | some b =>
      by_cases hb : b = announced
      · simp [hear, ho, hb]
      · simpa [hear, ho, hb, Ne.symm hb] using ih b

/-- A listener keeps track if sessions begin and end in turn. -/
theorem heard_isSome_iff (outbox : List Output) : (heard outbox).isSome ↔ Alternates outbox :=
  foldlM_hear_isSome_iff false outbox

/-- What neither begins nor ends a session tells a listener nothing. -/
theorem foldlM_hear_of_quiet {os : List Output} (h : ∀ o ∈ os, o.begins? = none)
    (announced : Bool) : os.foldlM hear announced = some announced := by
  induction os with
  | nil => rfl
  | cons o os ih =>
    have ho := h o List.mem_cons_self
    have hos := ih fun o' ho' => h o' (List.mem_cons_of_mem o ho')
    simpa [hear, ho] using hos

theorem Session.Keeps.isAnnounced_eq {s t : Session} (h : s.Keeps t) :
    t.status.isAnnounced = s.status.isAnnounced := by
  rcases h.status with hs | ⟨hs, ht⟩
  · rw [hs]
  · rw [Status.isAnnounced_of_isConnected hs, Status.isAnnounced_of_isConnected ht]

namespace Client

/-! ### Reporting -/

/-- **What is published from one state of a client to another** tells a listener what has
become of the session. -/
def Reports (c c' : Client) : Prop :=
  ∃ os, c'.outbox = c.outbox ++ os ∧
    os.foldlM hear c.session.status.isAnnounced = some c'.session.status.isAnnounced

/-- **What is published makes a listener lose track.** -/
def Misleads (c c' : Client) : Prop :=
  ∃ os, c'.outbox = c.outbox ++ os ∧ os.foldlM hear c.session.status.isAnnounced = none

variable {c c' c'' : Client}

theorem Reports.trans (h : Reports c c') (h' : Reports c' c'') : Reports c c'' := by
  obtain ⟨os, ho, hh⟩ := h
  obtain ⟨os', ho', hh'⟩ := h'
  refine ⟨os ++ os', by rw [ho', ho, List.append_assoc], ?_⟩
  rw [List.foldlM_append, hh]
  exact hh'

/-- Whoever has lost track does not find it again. -/
theorem Misleads.trans (h : Misleads c c') (h' : Reports c' c'') : Misleads c c'' := by
  obtain ⟨os, ho, hh⟩ := h
  obtain ⟨os', ho', -⟩ := h'
  refine ⟨os ++ os', by rw [ho', ho, List.append_assoc], ?_⟩
  rw [List.foldlM_append, hh]
  rfl

/-- As long as no session is announced or ends, nothing is to be told. -/
theorem Reports.of_quiet (os : List Output) (ho : c'.outbox = c.outbox ++ os)
    (hq : ∀ o ∈ os, o.begins? = none)
    (hs : c'.session.status.isAnnounced = c.session.status.isAnnounced) : Reports c c' :=
  ⟨os, ho, by rw [foldlM_hear_of_quiet hq, hs]⟩

theorem Reports.refl (c : Client) : Reports c c := .of_quiet [] (by simp) (by simp) rfl

theorem Apart.reports (h : Apart c c') : Reports c c' :=
  .of_quiet [] (by simp [h.outbox]) (by simp) (by rw [h.session])

theorem Silent.reports (h : Silent c c') : Reports c c' :=
  .of_quiet [] (by simp [h.outbox]) (by simp) h.session.isAnnounced_eq

/-- **Every move reports** what it does to the session. -/
theorem Move.reports (h : Move c c') : Reports c c' := by
  cases h with
  | aside h => exact h.apart.reports
  | publish e h =>
    refine .of_quiet [.event e] rfl ?_ rfl
    intro o ho
    rw [List.mem_singleton.mp ho]
    cases e with
    | connected channel => cases h
    | disconnected reason => cases h
    | _ => rfl
  | send d h => exact .of_quiet [.datagram d] rfl (by simp [Output.begins?]) rfl
  | keep t h ho => exact .of_quiet [] (by simp) (by simp) h.isAnnounced_eq
  | dial t hs ht => exact .of_quiet [] (by simp) (by simp) (by simp [hs, ht, Status.isAnnounced])
  | hangUp t hs ht => exact .of_quiet [] (by simp) (by simp) (by simp [hs, ht, Status.isAnnounced])
  | refuse t f h ho => exact .of_quiet [] (by simp) (by simp) h.isAnnounced_eq
  | leave t f hs ht =>
    -- A session that is being closed is still announced.
    refine .of_quiet [] (by simp) (by simp) ?_
    rw [Status.isAnnounced_of_isConnected hs]
    simp [ht, Status.isAnnounced]
  | lose t reason hs ht =>
    rw [sessionLost_eq]
    refine ⟨_, rfl, ?_⟩
    rw [hs]
    simp [hear, Output.begins?, ht, Status.isAnnounced]

theorem Moves.reports (h : Moves c c') : Reports c c' := by
  induction h with
  | refl => exact .refl c
  | tail _ h ih => exact ih.trans h.reports

/-- A session that is granted is announced. -/
theorem Grants.reports {response : ConnectResponse} (h : Grants response c c') :
    Reports c c' := by
  refine ⟨_, h.outbox, ?_⟩
  simp [hear, Output.begins?, h.connecting, h.status, Status.isAnnounced]

theorem Accepts.reports (h : Accepts c c') : Reports c c' :=
  .of_quiet [] (by simp [h.outbox]) (by simp) (by rw [h.status])

/-- **Whoever overtakes misleads**: a session ends that was not announced. -/
theorem Overtakes.misleads (h : Overtakes c c') : Misleads c c' := by
  obtain ⟨t, hb, hs, -⟩ := h
  rw [sessionLost_eq]
  refine ⟨_, congrArg (· ++ _) hb.outbox, ?_⟩
  simp [hear, Output.begins?, hs, Status.isAnnounced]

theorem reports_onDatagram (c : Client) (d : Datagram) : Reports c (c.onDatagram d) := by
  rcases c.onDatagram_cases d with ⟨frame, -, h⟩ | ⟨-, h⟩
  · rw [h]
    rcases c.onFrame_cases frame with ⟨response, -, -, h⟩ | ⟨-, -, h⟩ | ⟨-, -, h⟩
    · exact h.reports
    · exact h.reports
    · exact h.reports
  · exact h.reports

end Client

/-! ### Requests tell nothing of the session -/

namespace Sender

open Client

theorem reports_finish (job : Job) (result : Except Fault Unit) (c : Client) :
    Reports c (finish job result c).2 := by
  obtain ⟨m, _ | id⟩ := job
  · cases result with
    | ok u => exact .refl c
    | error f => exact .of_quiet [.event (.fault f)] rfl (by simp [Output.begins?]) rfl
  · simp only [finish]
    rw [c.completeSlot_eq]
    exact .of_quiet [] (by simp [Client.setSlot]) (by simp) rfl

/-- What a turn makes of a delivery reports what it does to the session. -/
theorem reports_of_work? {s : Sender} {c : Client} {job : Job}
    {p : Progress (Except Fault Unit) Transfer × Client} (h : s.work? c = some (job, p)) :
    Reports c p.2 := by
  obtain ⟨progress, c'⟩ := p
  rcases work?_cases h with ⟨t, -, ht⟩ | ⟨q, -, -, -, ho⟩
  · cases ht with
    | wait => exact .refl _
    | again copy attempt deadline ha hr =>
      exact .of_quiet [.datagram copy] rfl (by simp [Output.begins?]) rfl
    | confirm _ deadline hc => exact hc.reports
    | ended _ result hb hc => exact hb.reports.trans hc.reports
  · have hq : Reports c { c with queue := q } := Apart.reports ⟨rfl, rfl, rfl, rfl, rfl⟩
    cases ho with
    | sent hc => exact hq.trans (.of_quiet [.datagram _] rfl (by simp [Output.begins?]) rfl)
    | ended f hb hc => exact hq.trans (hb.reports.trans hc.reports)

/-- **A turn of the sender** reports what it does to the session. -/
theorem reports_poll (s : Sender) (c : Client) : Reports c (s.poll c).2 := by
  cases h : s.work? c with
  | none =>
    rw [(poll_of_work?_eq_none h).1]
    exact .refl c
  | some r =>
    obtain ⟨job, result | t, c'⟩ := r
    · rw [poll_of_work? h]
      exact (reports_of_work? h).trans (reports_finish job result c')
    · rw [poll_of_work? h]
      exact reports_of_work? h

theorem reports_cancel (s : Sender) (c : Client) : Reports c (s.cancel c) := by
  unfold cancel
  cases s.job? with
  | none => exact .refl c
  | some job =>
    simp only [Client.dropJob_eq]
    exact .of_quiet [] (by simp) (by simp) rfl

end Sender

namespace Host

open Client

/-! ### Every run -/

/-- Whether a call overtakes in a moment. -/
def Moment.overtakes (m : Moment) : Bool :=
  match m.deed with
  | .call k => k.call.overtakes m.before
  | _ => false

/-- **A turn reports** what it does to the session, unless a call overtakes in it. -/
theorem Turn.reports {S S' : Stage} {m : Moment} (t : Turn S m S') :
    m.overtakes = false ∧ Reports S.client S'.client ∨
      m.overtakes = true ∧ Misleads S.client S'.client := by
  cases t with
  | receive c s ks d socket =>
    have hb : Reports c { c with socket := socket } := Apart.reports ⟨rfl, rfl, rfl, rfl, rfl⟩
    exact Or.inl ⟨rfl, hb.trans (reports_onDatagram _ d)⟩
  | send c s ks => exact Or.inl ⟨rfl, s.reports_poll c⟩
  | stop s ks hb => exact Or.inl ⟨rfl, hb.apart.reports.trans (s.reports_cancel _)⟩
  | start c ks => exact Or.inl ⟨rfl, .refl c⟩
  | begin c s ks k hn hk => exact Or.inl ⟨rfl, .refl c⟩
  | call c s pre k post =>
    rcases k.call.poll_apart_or_moves c with ⟨ho, ha | hm⟩ | ⟨ho, b, hov, hm⟩
    · exact Or.inl ⟨ho, ha.reports⟩
    · exact Or.inl ⟨ho, hm.reports⟩
    · exact Or.inr ⟨ho, hov.misleads.trans hm.reports⟩
  | cancel c s pre k post => exact Or.inl ⟨rfl, (k.call.apart_cancel c).reports⟩
  | move s ks hm => exact Or.inl ⟨rfl, hm.reports⟩

/-- **After so many turns** a listener knows the status of the session, or has lost track. -/
theorem Turns.heard_eq {S S' : Stage} {ms : List Moment} (t : Turns S ms S')
    (h : heard S.client.outbox = some S.client.session.status.isAnnounced) :
    heard S'.client.outbox =
      if ms.any Moment.overtakes then none else some S'.client.session.status.isAnnounced := by
  induction t with
  | nil => simpa using h
  | snoc _ t ih =>
    rename_i ms m S₁ S₂ _
    -- A listener goes on from where he was, and if he has lost track, he stays lost.
    have happend : ∀ os, S₂.client.outbox = S₁.client.outbox ++ os →
        heard S₂.client.outbox = (heard S₁.client.outbox).bind fun b => os.foldlM hear b := by
      intro os hos
      rw [heard, hos, List.foldlM_append]
      rfl
    rcases t.reports with ⟨ho, os, hos, hh⟩ | ⟨ho, os, hos, hh⟩
    · rw [happend os hos, ih]
      by_cases hms : ms.any Moment.overtakes
      · simp [hms]
      · simp [hms, ho, hh]
    · rw [happend os hos, ih]
      by_cases hms : ms.any Moment.overtakes
      · simp [hms]
      · simp [hms, ho, hh]

end Host

open Host

/-- **What a listener knows after a run**: the status of the session, unless somebody has
overtaken. -/
theorem heard_run (config : Config) (actions : List Action) :
    heard ((Host.fresh config).run actions).client.outbox =
      if ((Host.fresh config).history actions).any Moment.overtakes then none
      else some ((Host.fresh config).run actions).client.session.status.isAnnounced :=
  (turns_run (Host.fresh config) List.nodup_nil actions).heard_eq rfl

/-- **In a run sessions begin and end in turn if and only if nobody overtakes.** -/
theorem alternates_run_iff (config : Config) (actions : List Action) :
    Alternates ((Host.fresh config).run actions).client.outbox ↔
      ∀ m ∈ (Host.fresh config).history actions, m.overtakes = false := by
  rw [← heard_isSome_iff, heard_run]
  split
  · rename_i h
    obtain ⟨m, hm, ho⟩ := List.any_eq_true.mp h
    constructor
    · rintro ⟨⟩
    · intro hall
      rw [hall m hm] at ho
      cases ho
  · rename_i h
    simpa using h

/-- The gateway confirms that the session has ended, and before the call that waits for this
has its turn, another call begins to open the next session. -/
def lateTurn (gateway : Endpoint) : List Action :=
  let granted : Frame := .connectResponse
    ⟨7, 0, some (Hpai.ofEndpoint gateway), some (Crd.tunnel ⟨0x11FF⟩)⟩
  let ended : Frame := .disconnectResponse ⟨7, 0⟩
  [.startDriver, .begin 0 .connect, .pollCall 0, .arrive ⟨granted.octets, gateway⟩, .pollDriver,
    .pollCall 0, .begin 1 .disconnect, .pollCall 1, .arrive ⟨ended.octets, gateway⟩, .pollDriver,
    .begin 2 .connect, .pollCall 2, .pollCall 1]

/-- **It does happen that somebody overtakes.** -/
theorem exists_not_alternates : ∃ (config : Config) (actions : List Action),
    ¬ Alternates ((Host.fresh config).run actions).client.outbox := by
  refine ⟨.ofGateway ⟨⟨192, 168, 1, 10⟩, 3671⟩, lateTurn ⟨⟨192, 168, 1, 10⟩, 3671⟩, fun h => ?_⟩
  rw [← heard_isSome_iff] at h
  revert h
  decide +kernel

end KnxIp
