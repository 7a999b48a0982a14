import KnxIp.Proofs.Host.Lifecycle
import KnxIp.Proofs.Host.Wire

/-!
# How one session follows another

Sessions have no name: the gateway may grant the same channel twice. They are told apart here
by what was published, which is how many sessions have begun and how many have ended
(`KnxIp.Client.sessions`, `KnxIp.Client.ends`). Since a moment in which there was a session,
either it goes on, or it has ended and at most other sessions have begun (`KnxIp.Since`); so
whoever finds a session now finds the same one if and only if none has ended.

Whoever ends a session lets the queue go, and leaves something in the mailbox of the sender
(`KnxIp.Client.Clears`).

## Main statements

* `KnxIp.Host.Turn.advances`: no turn makes a session come back.
* `KnxIp.Sender.ends_poll`, `KnxIp.Call.clears_poll`, `KnxIp.Client.clears_onDatagram`: who
  ends a session lets the queue go.
-/

namespace KnxIp

namespace Client

/-- How many sessions have been announced. -/
def sessions (c : Client) : Nat := c.outbox.countP fun o => o.begins? = some true

/-- How many sessions have been said to end. -/
def ends (c : Client) : Nat := c.outbox.countP fun o => o.begins? = some false

end Client

/-! ### What has happened to the sessions since -/

/-- How many of these outputs announce a session, or say that one ends. -/
def countBegins (begins : Bool) (os : List Output) : Nat :=
  os.countP fun o => o.begins? = some begins

/-- **From a moment when there was a session**, after so many ends and sessions: it goes on, or
it has ended, and then only another one can be announced. -/
inductive Since (ends₀ sessions₀ : Nat) (announced : Bool) (ends sessions : Nat) : Prop
  | same (he : ends = ends₀) (hs : sessions = sessions₀) (ha : announced = true)
  | later (he : ends₀ < ends) (hs : sessions₀ ≤ sessions)
      (ha : announced = true → sessions₀ < sessions)

namespace Since

variable {ends₀ sessions₀ ends sessions : Nat} {announced announced' : Bool}

/-- An end that nobody expected is one more. -/
theorem end_of_not_announced (h : Since ends₀ sessions₀ false ends sessions) :
    Since ends₀ sessions₀ false (ends + 1) sessions := by
  cases h with
  | same he hs ha => cases ha
  | later he hs ha => exact .later (by omega) hs (by simp)

/-- What a listener hears. -/
theorem hear {o : Output} (h : Since ends₀ sessions₀ announced ends sessions)
    (ho : KnxIp.hear announced o = some announced') :
    Since ends₀ sessions₀ announced' (ends + countBegins false [o])
      (sessions + countBegins true [o]) := by
  unfold KnxIp.hear at ho
  cases hb : o.begins? with
  | none =>
    simp only [hb, Option.some.injEq] at ho
    subst ho
    simpa [countBegins, hb] using h
  | some b =>
    simp only [hb] at ho
    split at ho
    · cases ho
    · rename_i hne
      obtain rfl := Option.some.inj ho
      cases b with
      | true =>
        obtain rfl : announced = false := by simpa using Ne.symm hne
        cases h with
        | same he hs ha => cases ha
        | later he hs ha => simpa [countBegins, hb] using .later he (by omega) fun _ => by omega
      | false =>
        have hend : countBegins false [o] = 1 := by simp [countBegins, hb]
        have hbegin : countBegins true [o] = 0 := by simp [countBegins, hb]
        rw [hend, hbegin]
        cases h with
        | same he hs ha => exact .later (by omega) (by omega) (by simp)
        | later he hs ha => exact .later (by omega) (by omega) (by simp)

/-- What a listener hears one after the other. -/
theorem foldlM_hear {os : List Output} (h : Since ends₀ sessions₀ announced ends sessions)
    (ho : os.foldlM KnxIp.hear announced = some announced') :
    Since ends₀ sessions₀ announced' (ends + countBegins false os)
      (sessions + countBegins true os) := by
  induction os generalizing announced ends sessions with
  | nil =>
    obtain rfl := Option.some.inj ho
    simpa [countBegins] using h
  | cons o os ih =>
    rw [List.foldlM_cons] at ho
    cases hh : KnxIp.hear announced o with
    | none => simp [hh] at ho
    | some b =>
      have := ih (h.hear hh) (by simpa [hh] using ho)
      have hsplit : ∀ b, countBegins b (o :: os) = countBegins b [o] + countBegins b os := by
        intro b
        rw [← List.singleton_append, countBegins, List.countP_append]
        rfl
      rwa [hsplit, hsplit, ← Nat.add_assoc, ← Nat.add_assoc]

end Since

namespace Client

/-- What has happened from a moment when there was a session to this one. -/
def Follows (c c₀ : Client) : Prop :=
  Since c₀.ends c₀.sessions c.session.status.isAnnounced c.ends c.sessions

/-- **Time goes on**: what followed some moment still does. -/
def Advances (c c' : Client) : Prop := ∀ c₀, c.Follows c₀ → c'.Follows c₀

variable {c c' c'' c₀ : Client}

theorem Follows.refl (h : c.isConnected) : c.Follows c :=
  .same rfl rfl (Status.isAnnounced_of_isConnected h)

/-- While there is a session, it is the same one if and only if none has ended. -/
theorem Follows.sessions_eq_iff (h : c.Follows c₀) (hc : c.isConnected) :
    c₀.sessions = c.sessions ↔ c₀.ends = c.ends := by
  have ha := Status.isAnnounced_of_isConnected hc
  cases h with
  | same he hs _ => simp [he, hs]
  | later he hs hlater =>
    have := hlater ha
    omega

theorem Advances.trans (h : Advances c c') (h' : Advances c' c'') : Advances c c'' :=
  fun c₀ hc => h' c₀ (h c₀ hc)

theorem ends_of_append {os : List Output} (h : c'.outbox = c.outbox ++ os) :
    c'.ends = c.ends + countBegins false os := by
  simp [ends, h, countBegins]

theorem sessions_of_append {os : List Output} (h : c'.outbox = c.outbox ++ os) :
    c'.sessions = c.sessions + countBegins true os := by
  simp [sessions, h, countBegins]

/-- Where a listener keeps track, time goes on. -/
theorem Reports.advances (h : Reports c c') : Advances c c' := by
  obtain ⟨os, ho, hh⟩ := h
  intro c₀ hc
  rw [Follows, ends_of_append ho, sessions_of_append ho]
  exact Since.foldlM_hear hc hh

/-- It does so also where somebody overtakes. -/
theorem Overtakes.advances (h : Overtakes c c') : Advances c c' := by
  obtain ⟨t, hb, hs, ht⟩ := h
  rename_i b
  have ho : ({ b with session := t }.sessionLost .requested).outbox =
      c.outbox ++ [.event (.disconnected .requested)] := by
    rw [sessionLost_eq]
    exact congrArg (· ++ _) hb.outbox
  have hstatus : ({ b with session := t }.sessionLost .requested).session.status =
      .disconnected := by
    rw [sessionLost_eq]
    exact ht
  intro c₀ hc
  rw [Follows, hs] at hc
  rw [Follows, ends_of_append ho, sessions_of_append ho, hstatus]
  exact Since.end_of_not_announced hc

/-! ### What the end of a session does to the requests -/

/-- **Whoever ends a session** lets the queue go, and leaves something in the mailbox of the
sender. -/
structure Clears (c c' : Client) : Prop where
  ackDone : c'.ackDone = none → c.ackDone = none
  ends : c'.ends = c.ends ∨ c'.queue.toList = [] ∧ c'.ackDone ≠ none

/-- Where no end is published, none has to be noticed. -/
theorem ends_eq_of_append (os : List Output) (h : c'.outbox = c.outbox ++ os)
    (hq : ∀ o ∈ os, o.begins? ≠ some false) : c'.ends = c.ends := by
  rw [ends_of_append h, countBegins, List.countP_eq_zero.mpr (by simpa using hq)]
  rfl

theorem ends_eq_of_outbox_eq (h : c'.outbox = c.outbox) : c'.ends = c.ends :=
  ends_eq_of_append [] (by simp [h]) (by simp)

theorem Apart.clears (h : Apart c c') : Clears c c' :=
  ⟨h.calm.ackDone, Or.inl (ends_eq_of_outbox_eq h.outbox)⟩

theorem Clears.trans (h : Clears c c') (h' : Clears c' c'') (hd : Drops c' c'') :
    Clears c c'' := by
  refine ⟨fun hnone => h.ackDone (h'.ackDone hnone), ?_⟩
  rcases h'.ends with he' | hcleared
  · rcases h.ends with he | ⟨hq, ha⟩
    · exact Or.inl (he'.trans he)
    · refine Or.inr ⟨?_, fun hnone => ha (h'.ackDone hnone)⟩
      rcases hd.toList with h | h
      · rw [h, hq]
      · exact h
  · exact Or.inr hcleared

theorem clears_sessionLost (c b : Client) (reason : EndReason) :
    Clears c (b.sessionLost reason) := by
  rw [sessionLost_eq]
  exact ⟨by rintro ⟨⟩, Or.inr ⟨rfl, by simp⟩⟩

theorem Move.clears (h : Move c c') : Clears c c' := by
  refine ⟨h.calm.ackDone, ?_⟩
  cases h with
  | aside h => exact Or.inl (ends_eq_of_outbox_eq h.outbox)
  | publish e h =>
    refine Or.inl (ends_eq_of_append [.event e] rfl ?_)
    cases e with
    | disconnected reason => cases h
    | _ => simp [Output.begins?]
  | send d h => exact Or.inl (ends_eq_of_append [.datagram d] rfl (by simp [Output.begins?]))
  | lose t reason hs ht => exact (clears_sessionLost c _ reason).ends
  | _ => exact Or.inl rfl

theorem Moves.clears (h : Moves c c') : Clears c c' := by
  induction h with
  | refl => exact ⟨id, Or.inl rfl⟩
  | tail _ h ih => exact ih.trans h.clears h.drops

theorem Overtakes.clears (h : Overtakes c c') : Clears c c' := by
  obtain ⟨t, -, -, -⟩ := h
  exact clears_sessionLost c _ .requested

/-- A datagram clears what it has to. -/
theorem clears_onDatagram (c : Client) (d : Datagram) : Clears c (c.onDatagram d) := by
  rcases c.onDatagram_cases d with ⟨frame, -, h⟩ | ⟨-, h⟩
  · rw [h]
    rcases c.onFrame_cases frame with ⟨response, -, -, h⟩ | ⟨-, -, h⟩ | ⟨-, -, h⟩
    · exact ⟨fun hnone => h.ackDone.symm.trans hnone,
        Or.inl (ends_eq_of_append _ h.outbox (by simp [Output.begins?]))⟩
    · exact ⟨fun hnone => absurd (h.ackDone.symm.trans hnone) (by simp),
        Or.inl (ends_eq_of_outbox_eq h.outbox)⟩
    · exact h.clears
  · exact h.clears

end Client

open Client

/-- A call clears what it has to. -/
theorem Call.clears_poll (k : Call) (c : Client) : Clears c (k.poll c).2 := by
  rcases k.poll_apart_or_moves c with ⟨-, ha | hm⟩ | ⟨-, b, ho, hm⟩
  · exact ha.clears
  · exact hm.clears
  · exact ho.clears.trans hm.clears hm.drops

theorem Call.advances_poll (k : Call) (c : Client) : Advances c (k.poll c).2 := by
  rcases k.poll_apart_or_moves c with ⟨-, ha | hm⟩ | ⟨-, b, ho, hm⟩
  · exact ha.reports.advances
  · exact hm.reports.advances
  · exact ho.advances.trans hm.reports.advances

namespace Sender

theorem ends_finish (job : Job) (result : Except Fault Unit) (c : Client) :
    (finish job result c).2.ends = c.ends := by
  obtain ⟨m, _ | id⟩ := job
  · cases result with
    | ok u => rfl
    | error f => exact ends_eq_of_append [.event (.fault f)] rfl (by simp [Output.begins?])
  · simp only [finish]
    rw [c.completeSlot_eq]
    rfl

theorem ends_cancel (s : Sender) (c : Client) : (s.cancel c).ends = c.ends := by
  unfold cancel
  cases s.job? with
  | none => rfl
  | some job =>
    simp only [dropJob_eq]
    rfl

theorem ends_follow (job : Job) (p : Progress (Except Fault Unit) Transfer × Client) :
    (follow job p).2.ends = p.2.ends := by
  obtain ⟨result | t, c⟩ := p
  · exact ends_finish job result c
  · rfl

/-- What the sender works on goes on only while no session ends, and if one ends the queue is
let go. -/
theorem ends_of_work? {s : Sender} {c : Client} {job : Job}
    {p : Progress (Except Fault Unit) Transfer × Client} (h : s.work? c = some (job, p)) :
    p.2.ends = c.ends ∨ p.2.queue.toList = [] ∧ p.1.rest? = none := by
  obtain ⟨progress, c'⟩ := p
  -- A delivery that has ended is silent until then, and what may end a session lets the queue go.
  have hended : ∀ {b : Client} {result}, progress = .done result → b.ends = c.ends →
      b.Moves c' → c'.ends = c.ends ∨ c'.queue.toList = [] ∧ progress.rest? = none := by
    rintro b result rfl hb hm
    exact hm.clears.ends.imp (fun he => he.trans hb) fun hcleared => ⟨hcleared.1, rfl⟩
  rcases work?_cases h with ⟨t, -, ht⟩ | ⟨q, -, -, -, ho⟩
  · cases ht with
    | wait => exact Or.inl rfl
    | again copy attempt deadline ha hr =>
      exact Or.inl (ends_eq_of_append [.datagram copy] rfl (by simp [Output.begins?]))
    | confirm _ deadline hc => exact Or.inl (ends_eq_of_outbox_eq hc.outbox)
    | ended _ result hb hc => exact hended rfl (ends_eq_of_outbox_eq hb.outbox) hc
  · cases ho with
    | sent hc => exact Or.inl (ends_eq_of_append [.datagram _] rfl (by simp [Output.begins?]))
    | ended f hb hc => exact hended rfl (ends_eq_of_outbox_eq hb.outbox) hc

/-- If a session ends in a turn of the sender, the queue is let go. -/
theorem ends_poll (s : Sender) (c : Client) :
    (s.poll c).2.ends = c.ends ∨ (s.poll c).2.queue.toList = [] := by
  cases hw : s.work? c with
  | none =>
    obtain ⟨hc, -, -, -⟩ := poll_of_work?_eq_none hw
    exact Or.inl (by rw [hc])
  | some r =>
    obtain ⟨job, p⟩ := r
    rw [poll_of_work? hw, queue_follow, ends_follow]
    exact (ends_of_work? hw).imp_right And.left

end Sender

/-- **Time goes on** with every turn. -/
theorem Host.Turn.advances {S S' : Host.Stage} {m : Host.Moment} (t : Host.Turn S m S') :
    Advances S.client S'.client := by
  rcases t.reports with ⟨-, h⟩ | ⟨ho, -⟩
  · exact h.advances
  · cases t with
    | call c s pre k post => exact k.call.advances_poll c
    | _ => cases ho

end KnxIp
