import KnxIp.Proofs.Session.Outstanding

/-!
# A session is lost with the last heartbeat of a streak

A heartbeat whose answer does not come is *missed*, and a session that misses as many of them in a
row as it may is lost. What "in a row" means is read off a history of the session
(`KnxIp.Session.steps`), in which each operation stands between the sessions before and after it:

* a step is a *miss* if a wait ran out while a heartbeat was pending;
* a step *ends the streak* if the gateway grants a session, or answers a heartbeat and knows the
  channel, or if the session goes down in it.

The *streak* (`KnxIp.Session.streak`) is the number of misses behind the last step that ends one.
Nothing else counts: whatever is sent, acknowledged or received while the gateway is silent leaves
the streak as it is, and so do questions that are repeated and answers that do not fit.

The main statement is `KnxIp.Session.heartbeats_run`: after any sequence of operations the session
has counted its streak, the next miss loses the session if and only if it is the last one that the
limit allows, and no session is lost twice.
-/

namespace KnxIp.Session

/-! ### Steps -/

/-- **A step of a session**: an operation with its outcome, and the sessions around it. -/
structure Step where
  operation : Operation
  outcome : Outcome
  before : Session
  after : Session

/-- The step that an operation is. -/
def step (s : Session) (op : Operation) : Step := ⟨op, (s.perform op).1, s, (s.perform op).2⟩

/-- **The steps of a sequence of operations.** -/
def steps (s : Session) : List Operation → List Step
  | [] => []
  | op :: ops => s.step op :: (s.perform op).2.steps ops

theorem steps_append (s : Session) (ops more : List Operation) :
    s.steps (ops ++ more) = s.steps ops ++ (s.run ops).steps more := by
  induction ops generalizing s with
  | nil => rfl
  | cons op ops ih =>
    have hrun : s.run (op :: ops) = (s.perform op).2.run ops := rfl
    simp [steps, ih, hrun]

namespace Step

/-- **A miss**: the wait ran out while a heartbeat was pending. -/
def isMiss (e : Step) : Bool :=
  match e.operation with
  | .heartbeatMissed => e.before.status = .heartbeatPending
  | _ => false

/-- Whether the gateway granted a session. -/
def isGrant (e : Step) : Bool :=
  match e.operation, e.outcome with
  | .connectResponse _ _, .opened _ => true
  | _, _ => false

/-- Whether the gateway answered a heartbeat with status zero, and was heard. -/
def isAnswer (e : Step) : Bool :=
  match e.operation, e.outcome with
  | .heartbeatResponse response _, .done => response.status = 0
  | _, _ => false

/-- Whether the session went down. -/
def isFall (e : Step) : Bool := e.before.status ≠ .disconnected ∧ e.after.status = .disconnected

/-- **A step ends the streak.** -/
def endsStreak (e : Step) : Bool := e.isGrant || e.isAnswer || e.isFall

/-- The streak after a step. -/
def count (e : Step) (n : Nat) : Nat :=
  if e.endsStreak then 0 else if e.isMiss then n + 1 else n

variable {e : Step} {n : Nat}

theorem count_of_endsStreak (h : e.endsStreak) : e.count n = 0 := if_pos h

/-- **An idle step**: neither end is near, and nothing is missed. -/
theorem count_of_idle (hg : e.isGrant = false) (ha : e.isAnswer = false) (hm : e.isMiss = false)
    (hs : e.after.status = e.before.status ∨ e.after.status ≠ .disconnected) : e.count n = n := by
  have hf : e.isFall = false := by
    rcases hs with hs | hs <;> simp [isFall, hs]
  simp [count, endsStreak, hg, ha, hf, hm]

end Step

/-- **The streak of a history**: the misses since the last step that ended one. -/
def streak (l : List Step) : Nat := (l.rtakeWhile fun e => !e.endsStreak).countP Step.isMiss

theorem streak_concat (l : List Step) (e : Step) : streak (l ++ [e]) = e.count (streak l) := by
  by_cases he : e.endsStreak
  · simp [streak, Step.count, he]
  · by_cases hm : e.isMiss <;> simp [streak, Step.count, he, hm]

/-! ### What a session counts -/

section Counting

variable {maxMisses : UInt8} {s : Session} {op : Operation}

/-- A session that is down counts from the beginning, whether it went down just now or not. -/
theorem Patient.count_of_down (h : s.Patient maxMisses)
    (hs : (s.perform op).2.status = .disconnected) : (s.step op).count s.misses = 0 := by
  by_cases hd : s.status = .disconnected
  · have hm : s.misses = 0 := h.misses_eq (by simp [hd]) (by simp [hd])
    have hmiss : (s.step op).isMiss = false := by
      cases op <;> simp [step, Step.isMiss, hd]
    simp [Step.count, hmiss, hm]
  · have hfall : (s.step op).isFall = true := by
      simp [Step.isFall, step, hd, hs]
    exact Step.count_of_endsStreak (by simp [Step.endsStreak, hfall])

/-- **A miss loses the session** if it is the last one that the limit allows, and otherwise the
question is repeated. -/
theorem Patient.heartbeatMissed_eq (h : s.Patient maxMisses) (hs : s.status = .heartbeatPending) :
    s.heartbeatMissed =
      if s.misses + 1 = max 1 maxMisses.toNat then (.lost, s.closed)
      else (.retry s.stateRequest, { s with misses := s.misses + 1 }) := by
  have hlt := h.lt
  have hlast : s.missLimit ≤ s.misses + 1 ↔ s.misses + 1 = max 1 maxMisses.toNat := by
    rw [h.limit]
    omega
  simp only [heartbeatMissed, hs, hlast, ne_eq, not_true, if_false]

/-- An answer that is accepted says that the gateway knows the channel. -/
theorem status_of_onHeartbeatResponse {response : ChannelResponse} {now : Nat}
    (h : (s.onHeartbeatResponse response now).1 = .ok ()) : response.status = 0 := by
  unfold onHeartbeatResponse at h
  split_ifs at h with _ _ hz
  exact Decidable.of_not_not hz

/-- Where nothing is granted, answered or missed, a session that stays up keeps its count. -/
theorem count_of_up (hs : (s.perform op).2.status ≠ .disconnected)
    (hg : (s.step op).isGrant = false) (ha : (s.step op).isAnswer = false)
    (hm : (s.step op).isMiss = false) (hkeep : (s.perform op).2.misses = s.misses) :
    (s.perform op).2.misses = (s.step op).count s.misses :=
  hkeep.trans (Step.count_of_idle hg ha hm (Or.inr hs)).symm

/-- **An operation counts as its step says.** A session that goes down forgets what it missed, so
that only those outcomes are left in which it stays up. -/
theorem Patient.misses_perform (h : s.Patient maxMisses) (op : Operation) :
    (s.perform op).2.misses = (s.step op).count s.misses := by
  by_cases hdown : (s.perform op).2.status = .disconnected
  · rw [h.count_of_down hdown]
    exact (h.perform op).misses_eq (by simp [hdown]) (by simp [hdown])
  cases op with
  | connectRequest =>
    refine count_of_up hdown rfl rfl rfl ?_
    simp only [Session.perform]
    rcases s.connectRequest_cases with h' | ⟨-, h'⟩ <;> rw [h'] <;> rfl
  | connectResponse response now =>
    rcases s.onConnectResponse_cases response now with h' | ⟨-, h'⟩ | ⟨-, h'⟩
    · exact count_of_up hdown
        (by simp [step, Session.perform, h', Step.isGrant, Outcome.ofResult]) rfl rfl
        (by simp [Session.perform, h'])
    · exact absurd (by simp [Session.perform, h']) hdown
    · have hgrant : (s.step (.connectResponse response now)).isGrant = true := by
        simp [step, Session.perform, h', Step.isGrant, Outcome.ofResult]
      rw [Step.count_of_endsStreak (by simp [Step.endsStreak, hgrant])]
      simp [Session.perform, h', Session.granted]
  | connectExpired =>
    refine count_of_up hdown rfl rfl rfl ?_
    simp only [Session.perform]
    rcases s.connectExpired_cases with h' | ⟨-, h'⟩ <;> rw [h']
  | tunnelingRequest message =>
    refine count_of_up hdown rfl rfl rfl ?_
    simp only [Session.perform]
    rcases s.tunnelingRequest_cases message with ⟨f, h'⟩ | ⟨-, h'⟩ <;> rw [h'] <;> rfl
  | tunnelingAck ack now =>
    refine count_of_up hdown rfl rfl rfl ?_
    simp only [Session.perform]
    rcases s.onTunnelingAck_cases ack now with ⟨cause, t, rfl | rfl, h'⟩ | ⟨-, h'⟩ | ⟨-, -, h'⟩ <;>
      rw [h'] <;> rfl
  | abandonRequest => exact count_of_up hdown rfl rfl rfl rfl
  | inbound request now =>
    refine count_of_up hdown rfl rfl rfl ?_
    simp only [Session.perform]
    rcases s.onTunnelingRequest_cases request now with ⟨f, h'⟩ | ⟨-, h'⟩ <;> rw [h'] <;> rfl
  | heartbeatRequest =>
    refine count_of_up hdown rfl rfl rfl ?_
    simp only [Session.perform]
    rcases s.heartbeatRequest_cases with h' | ⟨-, h'⟩ <;> rw [h'] <;> rfl
  | heartbeatResponse response now =>
    rcases s.onHeartbeatResponse_cases response now with ⟨cause, h'⟩ | ⟨-, h'⟩ | ⟨-, h'⟩
    · exact count_of_up hdown rfl
        (by simp [step, Session.perform, h', Step.isAnswer, Outcome.ofResult]) rfl
        (by simp [Session.perform, h'])
    · have hz : response.status = 0 := status_of_onHeartbeatResponse (by rw [h'])
      have hanswer : (s.step (.heartbeatResponse response now)).isAnswer = true := by
        simp [step, Session.perform, h', Step.isAnswer, Outcome.ofResult, hz]
      rw [Step.count_of_endsStreak (by simp [Step.endsStreak, hanswer])]
      simp [Session.perform, h']
    · exact absurd (by simp [Session.perform, h', closed]) hdown
  | heartbeatMissed =>
    by_cases hs : s.status = .heartbeatPending
    · have hmiss : (s.step .heartbeatMissed).isMiss = true := by simp [step, Step.isMiss, hs]
      have hfall : (s.step .heartbeatMissed).isFall = false := by simp [Step.isFall, step, hdown]
      have hends : (s.step .heartbeatMissed).endsStreak = false := by
        rw [Step.endsStreak, hfall]
        rfl
      have hcount : (s.step .heartbeatMissed).count s.misses = s.misses + 1 := by
        simp [Step.count, hends, hmiss]
      rw [hcount]
      simp only [Session.perform, h.heartbeatMissed_eq hs] at hdown ⊢
      split_ifs at hdown ⊢
      · exact absurd rfl hdown
      · rfl
    · refine count_of_up hdown rfl rfl (by simp [step, Step.isMiss, hs]) ?_
      simp [Session.perform, heartbeatMissed, hs]
  | disconnectRequest =>
    refine count_of_up hdown rfl rfl rfl ?_
    simp only [Session.perform]
    rcases s.disconnectRequest_cases with h' | ⟨-, h'⟩ <;> rw [h'] <;> rfl
  | disconnectResponse response =>
    rcases s.onDisconnectResponse_cases response with ⟨f, h'⟩ | ⟨-, h'⟩
    · exact count_of_up hdown rfl rfl rfl (by simp [Session.perform, h'])
    · exact absurd (by simp [Session.perform, h', closed]) hdown
  | gatewayDisconnect request =>
    rcases s.onDisconnectRequest_cases request with ⟨f, h'⟩ | ⟨-, h'⟩
    · exact count_of_up hdown rfl rfl rfl (by simp [Session.perform, h'])
    · exact absurd (by simp [Session.perform, h', closed]) hdown
  | forceDisconnected => exact absurd rfl hdown
  | recordActivity now => exact count_of_up hdown rfl rfl rfl rfl

/-! ### What does not count -/

/-- **The traffic of a session**: whatever is sent, acknowledged or received, and a question that
is asked once more. -/
def Operation.isTraffic : Operation → Bool
  | .tunnelingRequest _ => true
  | .tunnelingAck _ _ => true
  | .abandonRequest => true
  | .inbound _ _ => true
  | .heartbeatRequest => true
  | .recordActivity _ => true
  | _ => false

/-- Traffic neither takes a session up nor down. -/
theorem status_of_isTraffic (h : op.isTraffic) :
    (s.perform op).2.status = s.status ∨ (s.perform op).2.status ≠ .disconnected := by
  cases op with
  | tunnelingRequest message =>
    simp only [perform]
    rcases s.tunnelingRequest_cases message with ⟨f, h'⟩ | ⟨-, h'⟩ <;> rw [h'] <;> exact Or.inl rfl
  | tunnelingAck ack now =>
    simp only [perform]
    rcases s.onTunnelingAck_cases ack now with ⟨cause, t, rfl | rfl, h'⟩ | ⟨-, h'⟩ | ⟨-, -, h'⟩ <;>
      rw [h'] <;> exact Or.inl rfl
  | abandonRequest => exact Or.inl rfl
  | inbound request now =>
    simp only [perform]
    rcases s.onTunnelingRequest_cases request now with ⟨f, h'⟩ | ⟨-, h'⟩ <;> rw [h'] <;>
      exact Or.inl rfl
  | heartbeatRequest =>
    simp only [perform]
    rcases s.heartbeatRequest_cases with h' | ⟨-, h'⟩ <;> rw [h']
    · exact Or.inl rfl
    · exact Or.inr (by simp)
  | recordActivity now => exact Or.inl rfl
  | _ => cases h

/-- **Traffic does not count.** -/
theorem count_of_isTraffic (h : op.isTraffic) (n : Nat) : (s.step op).count n = n := by
  have hs := status_of_isTraffic (s := s) h
  cases op <;> first | exact Step.count_of_idle rfl rfl rfl hs | cases h

/-- What does not fit the session leaves it alone, or at most tells when it came. -/
theorem perform_of_protocol {cause : ProtocolFault}
    (h : (s.perform op).1 = .failed (.protocol cause)) :
    (s.perform op).2 = s ∨ ∃ now, (s.perform op).2 = s.recordActivity now := by
  cases op with
  | connectRequest =>
    simp only [perform] at h ⊢
    rcases s.connectRequest_cases with h' | ⟨-, h'⟩ <;> rw [h'] at h ⊢ <;> cases h
  | connectResponse response now =>
    simp only [perform] at h ⊢
    rcases s.onConnectResponse_cases response now with h' | ⟨-, h'⟩ | ⟨-, h'⟩ <;> rw [h'] at h ⊢
    · exact Or.inl rfl
    · cases h
    · cases h
  | tunnelingRequest message =>
    simp only [perform] at h ⊢
    rcases s.tunnelingRequest_cases message with ⟨f, h'⟩ | ⟨-, h'⟩ <;> rw [h'] at h ⊢ <;> cases h
  | tunnelingAck ack now =>
    simp only [perform] at h ⊢
    rcases s.onTunnelingAck_cases ack now with ⟨cause, t, rfl | rfl, h'⟩ | ⟨-, h'⟩ | ⟨-, -, h'⟩ <;>
      rw [h'] at h ⊢
    · exact Or.inl rfl
    · exact Or.inr ⟨now, rfl⟩
    · cases h
    · cases h
  | inbound request now =>
    simp only [perform] at h ⊢
    rcases s.onTunnelingRequest_cases request now with ⟨f, h'⟩ | ⟨-, h'⟩ <;> rw [h'] at h ⊢
    · exact Or.inl rfl
    · cases h
  | heartbeatRequest =>
    simp only [perform] at h ⊢
    rcases s.heartbeatRequest_cases with h' | ⟨-, h'⟩ <;> rw [h'] at h ⊢ <;> cases h
  | heartbeatResponse response now =>
    simp only [perform] at h ⊢
    rcases s.onHeartbeatResponse_cases response now with ⟨cause, h'⟩ | ⟨-, h'⟩ | ⟨-, h'⟩ <;>
      rw [h'] at h ⊢
    · exact Or.inl rfl
    · cases h
    · cases h
  | disconnectRequest =>
    simp only [perform] at h ⊢
    rcases s.disconnectRequest_cases with h' | ⟨-, h'⟩ <;> rw [h'] at h ⊢ <;> cases h
  | disconnectResponse response =>
    simp only [perform] at h ⊢
    rcases s.onDisconnectResponse_cases response with ⟨f, h'⟩ | ⟨-, h'⟩ <;> rw [h'] at h ⊢
    · exact Or.inl rfl
    · cases h
  | gatewayDisconnect request =>
    simp only [perform] at h ⊢
    rcases s.onDisconnectRequest_cases request with ⟨f, h'⟩ | ⟨-, h'⟩ <;> rw [h'] at h ⊢
    · exact Or.inl rfl
    · cases h
  | _ => cases h

/-- **What does not fit the session does not count.** -/
theorem count_of_protocol {cause : ProtocolFault} (h : (s.perform op).1 = .failed (.protocol cause))
    (n : Nat) : (s.step op).count n = n := by
  have hs : (s.perform op).2.status = s.status := by
    rcases perform_of_protocol h with ht | ⟨now, ht⟩ <;> rw [ht]
    rfl
  refine Step.count_of_idle ?_ ?_ ?_ (Or.inl hs)
  · simp [Step.isGrant, step, h]
  · simp [Step.isAnswer, step, h]
  · cases op with
    | heartbeatMissed => cases h
    | _ => rfl

end Counting

/-! ### Lost sessions -/

section Losing

variable {s : Session} {op : Operation}

/-- Whether an entry says that the session is lost. -/
def Entry.isLost (e : Entry) : Bool := e.2 = .heartbeat .lost

/-- **A session is over**: it is down, at most with a request for another one. -/
def IsOver (s : Session) : Prop := s.status = .disconnected ∨ s.status = .connecting

/-- Where nothing is connected or to be closed, the status changes only with a request for a
session and with what comes of it. -/
theorem IsOver.perform (h : s.IsOver) (hg : Entry.grant? (op, (s.perform op).1) = none) :
    (s.perform op).2.IsOver := by
  have hc : s.status.isConnected = false := by rcases h with hs | hs <;> rw [hs] <;> rfl
  have hd : s.status ≠ .disconnecting := by rcases h with hs | hs <;> rw [hs] <;> decide
  have hp : s.status ≠ .heartbeatPending := by rcases h with hs | hs <;> rw [hs] <;> decide
  cases op with
  | connectRequest =>
    simp only [Session.perform]
    rcases s.connectRequest_cases with h' | ⟨-, h'⟩ <;> rw [h']
    · exact h
    · exact Or.inr rfl
  | connectResponse response now =>
    simp only [Session.perform] at hg ⊢
    rcases s.onConnectResponse_cases response now with h' | ⟨-, h'⟩ | ⟨-, h'⟩ <;> rw [h'] at hg ⊢
    · exact h
    · exact Or.inl rfl
    · cases hg
  | connectExpired =>
    simp only [Session.perform]
    rcases s.connectExpired_cases with h' | ⟨-, h'⟩ <;> rw [h']
    · exact h
    · exact Or.inl rfl
  | tunnelingRequest message => simpa [Session.perform, tunnelingRequest, hc] using h
  | tunnelingAck ack now => simpa [Session.perform, onTunnelingAck, hc] using h
  | abandonRequest => exact h
  | inbound request now => simpa [Session.perform, onTunnelingRequest, hc] using h
  | heartbeatRequest => simpa [Session.perform, heartbeatRequest, hc] using h
  | heartbeatResponse response now => simpa [Session.perform, onHeartbeatResponse, hp] using h
  | heartbeatMissed => simpa [Session.perform, heartbeatMissed, hp] using h
  | disconnectRequest => simpa [Session.perform, disconnectRequest, hc] using h
  | disconnectResponse response => simpa [Session.perform, onDisconnectResponse, hd] using h
  | gatewayDisconnect request => simpa [Session.perform, onDisconnectRequest, hc, hd] using h
  | forceDisconnected => exact Or.inl rfl
  | recordActivity now => exact h

/-- A session that is lost was up, and now it is over. -/
theorem closed_of_isLost (h : Entry.isLost (op, (s.perform op).1)) :
    s.status = .heartbeatPending ∧ (s.perform op).2 = s.closed := by
  have ho : (s.perform op).1 = .heartbeat .lost := of_decide_eq_true h
  cases op with
  | heartbeatMissed =>
    simp only [Session.perform] at ho ⊢
    rcases s.heartbeatMissed_cases with h' | ⟨hs, h'⟩ | ⟨-, h'⟩ <;> rw [h'] at ho ⊢
    · cases ho
    · exact ⟨hs, rfl⟩
    · cases ho
  | connectExpired => cases ho
  | abandonRequest => cases ho
  | forceDisconnected => cases ho
  | recordActivity now => cases ho
  | _ =>
    -- The other operations fail, or they succeed in their own way.
    simp only [Session.perform, Prod.map_fst, Outcome.ofResult] at ho
    split at ho <;> cases ho

end Losing

/-! ### A sequence of operations -/

theorem misses_run (control : Hpai) (maxMisses : UInt8) (ops : List Operation) :
    ((fresh control maxMisses).run ops).misses = streak ((fresh control maxMisses).steps ops) := by
  induction ops using List.reverseRecOn with
  | nil => rfl
  | append_singleton ops op ih =>
    rw [run_append, steps_append, steps, steps, streak_concat, ← ih]
    exact (patient_run control maxMisses ops).misses_perform op

/-- **Of each session only one loss is told**, and then it is over. -/
theorem countP_isLost_le (control : Hpai) (maxMisses : UInt8) (ops : List Operation) :
    let n := (sinceGrant ((fresh control maxMisses).log ops)).countP Entry.isLost
    n ≤ 1 ∧ (0 < n → ((fresh control maxMisses).run ops).IsOver) := by
  induction ops using List.reverseRecOn with
  | nil => simp [log, sinceGrant]
  | append_singleton ops op ih =>
    obtain ⟨hle, hover⟩ := ih
    generalize hs : (fresh control maxMisses).run ops = s at hover
    have hrun : (fresh control maxMisses).run (ops ++ [op]) = (s.perform op).2 := by
      rw [run_append, hs]
      rfl
    have hlog : (fresh control maxMisses).log (ops ++ [op]) =
        (fresh control maxMisses).log ops ++ [(op, (s.perform op).1)] := by
      rw [log_append, hs]
      rfl
    rw [hrun, hlog]
    cases hg : Entry.grant? (op, (s.perform op).1) with
    | some response => simp [sinceGrant, hg]
    | none =>
      have hsince : sinceGrant ((fresh control maxMisses).log ops ++ [(op, (s.perform op).1)]) =
          sinceGrant ((fresh control maxMisses).log ops) ++ [(op, (s.perform op).1)] := by
        simp [sinceGrant, hg]
      rw [hsince, List.countP_append, List.countP_singleton]
      split
      · rename_i hlost
        -- The session was up, so that its loss has not been told before.
        obtain ⟨hpending, hclosed⟩ := closed_of_isLost hlost
        have hzero : (sinceGrant ((fresh control maxMisses).log ops)).countP Entry.isLost = 0 := by
          by_contra hne
          rcases hover (Nat.pos_of_ne_zero hne) with hs | hs <;> rw [hpending] at hs <;> cases hs
        exact ⟨by omega, fun _ => Or.inl (by rw [hclosed]; rfl)⟩
      · exact ⟨by omega, fun hpos => (hover (by omega)).perform hg⟩

/-- **A session is lost with the last miss of a streak.** After any sequence of operations of a
fresh session, with the limit that it was made with, which is at least one,

* the session has counted the misses since the streak was ended last, and they stay below the
  limit;
* a miss while a heartbeat is pending loses the session if and only if it is the last that the
  limit allows, and otherwise the question is to be repeated on the channel of the session;
* in any other status there is nothing to miss, and nothing changes;
* traffic does not count, and neither does what does not fit the session;
* a session that is lost is down, with no request outstanding;
* since the last grant one loss has been told at most, and if it was, then the session is still
  over and no request is outstanding. -/
theorem heartbeats_run (control : Hpai) (maxMisses : UInt8) (ops : List Operation) :
    let s := (fresh control maxMisses).run ops
    let missed := streak ((fresh control maxMisses).steps ops)
    let limit := max 1 maxMisses.toNat
    let losses := (sinceGrant ((fresh control maxMisses).log ops)).countP Entry.isLost
    (s.misses = missed ∧ missed < limit) ∧
      (s.status = .heartbeatPending →
        (s.heartbeatMissed.1 = .lost ↔ missed + 1 = limit) ∧
        (missed + 1 ≠ limit → s.heartbeatMissed.1 = .retry ⟨s.channel, s.control⟩)) ∧
      (s.status ≠ .heartbeatPending → s.heartbeatMissed = (.stale, s)) ∧
      (∀ op, op.isTraffic ∨ (∃ cause, (s.perform op).1 = .failed (.protocol cause)) →
        streak ((fresh control maxMisses).steps (ops ++ [op])) = missed) ∧
      (s.heartbeatMissed.1 = .lost →
        s.heartbeatMissed.2.status = .disconnected ∧ s.heartbeatMissed.2.outstanding = none) ∧
      losses ≤ 1 ∧ (0 < losses → s.IsOver ∧ s.outstanding = none) := by
  intro s missed limit losses
  have hp : s.Patient maxMisses := patient_run control maxMisses ops
  have ht := tracks_run control maxMisses ops
  have hm : s.misses = missed := misses_run control maxMisses ops
  obtain ⟨hle, hover⟩ := countP_isLost_le control maxMisses ops
  refine ⟨⟨hm, hm ▸ hp.lt⟩, fun hs => ?_, fun hs => ?_, fun op hop => ?_, fun hlost => ?_, hle,
    fun hpos => ?_⟩
  · rw [hp.heartbeatMissed_eq hs, hm]
    constructor
    · split_ifs with hlast <;> simp [limit, hlast]
    · intro hne
      rw [if_neg hne]
      rfl
  · simp [heartbeatMissed, hs]
  · rw [steps_append, steps, steps, streak_concat]
    rcases hop with hop | ⟨cause, hop⟩
    · exact count_of_isTraffic hop missed
    · exact count_of_protocol hop missed
  · rcases s.heartbeatMissed_cases with h | ⟨-, h⟩ | ⟨-, h⟩ <;> rw [h] at hlost ⊢
    · cases hlost
    · exact ⟨rfl, rfl⟩
    · cases hlost
  · have hs := hover hpos
    refine ⟨hs, ?_⟩
    have hc : s.status.isConnected = false := by rcases hs with hs | hs <;> rw [hs] <;> rfl
    have hnone := ht.eq_none hc
    rw [ht.outstanding, hnone]
    rfl

end KnxIp.Session
