import KnxIp.Proofs.Session.Counters

/-!
# The outstanding request of a session

A session has at most one request outstanding, and remembers of it nothing but its number.
Fifteen operations work on a session, and each that forgot to let the outstanding request go
would block all requests that come after it; each that forgot the heartbeats that were missed
would end the next session too early. That none of them does is
`KnxIp.Session.Consistent`.

On the other side stands the log, as in `KnxIp.Session.counters_run_eq_ofLog`. A request is
*open* in a log (`KnxIp.Session.IsOpen`) if it is the last one that was handed out, and no
entry since then *releases* it: none *settles* it – an acknowledgement that accepts or refuses
it, or giving it up – and none *parts* the client from the session in which it was handed out.
`KnxIp.Session.awaited` reads the open request off a log, entry by entry.

The main statement is `KnxIp.Session.consistent_run`: after any sequence of operations
the session is consistent; it refuses a request because of another one if and only if one is
open; and it accepts an acknowledgement only if it fits the open request, so that no request is
acknowledged twice.
-/

namespace KnxIp.Session

/-! ### Consistency -/

/-- **A session is consistent.** -/
structure Consistent (maxMisses : UInt8) (s : Session) : Prop where
  /-- An outstanding request has the next number, and the session can carry it. -/
  outstanding : ∀ n, s.outstanding = some n → s.status.isConnected ∧ n = s.sendSequence
  /-- The session is not overdue. -/
  misses_lt : s.misses < max 1 maxMisses.toNat
  /-- Heartbeats are missed only while one is pending, or were before the session was to be
  closed. -/
  misses_pos : 0 < s.misses → s.status = .heartbeatPending ∨ s.status = .disconnecting

/-! ### Open requests -/

namespace Entry

/-- The request that an entry hands out. -/
def request? : Entry → Option TunnelingRequest
  | (.tunnelingRequest _, .send (.tunnelingRequest r)) => some r
  | _ => none

/-- Whether an entry settles the outstanding request: the gateway accepts it or refuses it, or
it is given up. -/
def settles : Entry → Bool
  | (.tunnelingAck _ _, .done) => true
  | (.tunnelingAck _ _, .failed (.tunneling _)) => true
  | (.abandonRequest, _) => true
  | _ => false

/-- Whether an entry parts the client from its session: the session ends or is to be closed, or
another one begins. -/
def parts : Entry → Bool
  | (.connectResponse _ _, .opened _) => true
  | (.heartbeatResponse _ _, .failed (.connection _)) => true
  | (.heartbeatMissed, .heartbeat .lost) => true
  | (.disconnectRequest, .send _) => true
  | (.disconnectResponse _, .done) => true
  | (.gatewayDisconnect _, .send _) => true
  | (.forceDisconnected, _) => true
  | _ => false

/-- Whether no request is outstanding after an entry, whatever was before. -/
def releases (e : Entry) : Bool := e.settles || e.parts

end Entry

/-- **A request is open in a log**: it was handed out last, and nothing has released it. -/
def IsOpen (l : List Entry) (r : TunnelingRequest) : Prop :=
  ∃ (pre : List Entry) (message : Cemi) (post : List Entry),
    l = pre ++ (.tunnelingRequest message, .send (.tunnelingRequest r)) :: post ∧
      ∀ e ∈ post, e.releases = false ∧ e.request? = none

/-- The open request after another entry. -/
def awaitedAfter (r? : Option TunnelingRequest) (e : Entry) : Option TunnelingRequest :=
  if e.releases then none else e.request?.or r?

/-- **The open request of a log.** -/
def awaited (l : List Entry) : Option TunnelingRequest := l.foldl awaitedAfter none

theorem awaited_concat (l : List Entry) (e : Entry) :
    awaited (l ++ [e]) = awaitedAfter (awaited l) e := by
  simp [awaited]

/-- An entry of a longer log is the last one, or was there before. -/
theorem split_concat {l pre post : List Entry} {e e' : Entry} (h : l ++ [e'] = pre ++ e :: post) :
    (pre = l ∧ e = e' ∧ post = []) ∨ ∃ post', post = post' ++ [e'] ∧ l = pre ++ e :: post' := by
  rcases List.eq_nil_or_concat post with rfl | ⟨post', e'', rfl⟩
  · obtain ⟨hl, he⟩ := List.append_inj' h rfl
    exact Or.inl ⟨hl.symm, (List.singleton_inj.mp he).symm, rfl⟩
  · rw [List.concat_eq_append] at h ⊢
    rw [← List.cons_append, ← List.append_assoc] at h
    obtain ⟨hl, he⟩ := List.append_inj' h rfl
    obtain rfl := List.singleton_inj.mp he
    exact Or.inr ⟨post', rfl, hl⟩

/-- Only a request is handed out. -/
theorem exists_of_request? {e : Entry} {r : TunnelingRequest} (h : e.request? = some r) :
    ∃ message, e = (.tunnelingRequest message, .send (.tunnelingRequest r)) := by
  unfold Entry.request? at h
  split at h
  · cases h
    exact ⟨_, rfl⟩
  · cases h

/-- **To read a log is to find its open request.** -/
theorem awaited_eq_some_iff {l : List Entry} {r : TunnelingRequest} :
    awaited l = some r ↔ IsOpen l r := by
  -- The log is read from its beginning, so the last entry is taken off.
  induction l using List.reverseRecOn with
  | nil => simp [awaited, IsOpen]
  | append_singleton l e ih =>
    rw [awaited_concat]
    constructor
    · intro h
      unfold awaitedAfter at h
      split at h
      · cases h
      · rename_i hrel
        cases hr : e.request? with
        | some r' =>
          obtain rfl : r' = r := by simpa [hr] using h
          obtain ⟨message, rfl⟩ := exists_of_request? hr
          exact ⟨l, message, [], rfl, by simp⟩
        | none =>
          obtain ⟨pre, message, post, rfl, hpost⟩ := ih.mp (by simpa [hr] using h)
          refine ⟨pre, message, post ++ [e], by simp, ?_⟩
          rw [List.forall_mem_append, List.forall_mem_singleton]
          exact ⟨hpost, by simpa using hrel, hr⟩
    · rintro ⟨pre, message, post, hl, hpost⟩
      rcases split_concat hl with ⟨-, rfl, -⟩ | ⟨post, rfl, rfl⟩
      · rfl
      · rw [List.forall_mem_append, List.forall_mem_singleton] at hpost
        rw [ih.mpr ⟨pre, message, post, rfl, hpost.1⟩]
        simp [awaitedAfter, hpost.2.1, hpost.2.2]

/-! ### One operation -/

/-- **A session tracks its open request.** -/
structure Tracks (s : Session) (r? : Option TunnelingRequest) : Prop where
  outstanding : s.outstanding = r?.map TunnelingRequest.sequence
  current : ∀ r, r? = some r →
    s.status.isConnected ∧ r.channel = s.channel ∧ r.sequence = s.sendSequence

section Tracking

variable {s t : Session} {r? : Option TunnelingRequest}

theorem Tracks.of_outstanding (h : t.outstanding = none) : Tracks t none :=
  ⟨h, by rintro r ⟨⟩⟩

/-- An open request stays open while the session goes on. -/
theorem Tracks.of_keeps (h : Tracks s r?) (hk : s.Keeps t) (ho : t.outstanding = s.outstanding) :
    Tracks t r? := by
  refine ⟨ho.trans h.outstanding, fun r hr => ?_⟩
  obtain ⟨hs, hc, hn⟩ := h.current r hr
  exact ⟨hk.isConnected_eq.trans hs, hc.trans hk.channel.symm, hn.trans hk.sendSequence.symm⟩

/-- Without a session no request is open. -/
theorem Tracks.eq_none (h : Tracks s r?) (hs : s.status.isConnected = false) : r? = none := by
  rw [Option.eq_none_iff_forall_ne_some]
  intro r hr
  rw [(h.current r hr).1] at hs
  cases hs

/-- While there is no session, the status may change as it likes. -/
theorem Tracks.of_not_isConnected (h : Tracks s r?) (hs : s.status.isConnected = false)
    (ho : t.outstanding = s.outstanding) : Tracks t r? := by
  obtain rfl := h.eq_none hs
  exact .of_outstanding (ho.trans h.outstanding)

/-- **An operation lets the session track what its entry says.** One case for each operation;
where it has several outcomes, one for each of them. -/
theorem Tracks.perform (h : Tracks s r?) (op : Operation) :
    Tracks (s.perform op).2 (awaitedAfter r? (op, (s.perform op).1)) := by
  cases op with
  | connectRequest =>
    simp only [Session.perform]
    rcases s.connectRequest_cases with h' | ⟨hs, h'⟩ <;> rw [h']
    · exact h
    · exact h.of_not_isConnected (by rw [hs]; rfl) rfl
  | connectResponse response now =>
    simp only [Session.perform]
    rcases s.onConnectResponse_cases response now with h' | ⟨hs, h'⟩ | ⟨hs, h'⟩ <;> rw [h']
    · exact h
    · exact h.of_not_isConnected (by rw [hs]; rfl) rfl
    · exact .of_outstanding rfl
  | connectExpired =>
    simp only [Session.perform]
    rcases s.connectExpired_cases with h' | ⟨hs, h'⟩ <;> rw [h']
    · exact h
    · exact h.of_not_isConnected (by rw [hs]; rfl) rfl
  | tunnelingRequest message =>
    simp only [Session.perform]
    rcases s.tunnelingRequest_cases message with ⟨f, h'⟩ | ⟨hs, h'⟩ <;> rw [h']
    · exact h
    · refine ⟨rfl, fun r hr => ?_⟩
      cases hr
      exact ⟨hs, rfl, rfl⟩
  | tunnelingAck ack now =>
    simp only [Session.perform]
    rcases s.onTunnelingAck_cases ack now with ⟨cause, t, ht, h'⟩ | ⟨-, h'⟩ | ⟨-, -, h'⟩ <;> rw [h']
    · rcases ht with rfl | rfl
      · exact h
      · exact h.of_keeps (.of_eq rfl rfl rfl) rfl
    · exact .of_outstanding rfl
    · exact .of_outstanding rfl
  | abandonRequest => exact .of_outstanding rfl
  | inbound request now =>
    simp only [Session.perform]
    rcases s.onTunnelingRequest_cases request now with ⟨f, h'⟩ | ⟨-, h'⟩ <;> rw [h']
    · exact h
    · exact h.of_keeps (.of_eq rfl rfl rfl) rfl
  | heartbeatRequest =>
    simp only [Session.perform]
    rcases s.heartbeatRequest_cases with h' | ⟨hs, h'⟩ <;> rw [h']
    · exact h
    · exact h.of_keeps ⟨Or.inr ⟨hs, rfl⟩, rfl, rfl⟩ rfl
  | heartbeatResponse response now =>
    simp only [Session.perform]
    rcases s.onHeartbeatResponse_cases response now with ⟨cause, h'⟩ | ⟨hs, h'⟩ | ⟨-, h'⟩ <;>
      rw [h']
    · exact h
    · exact h.of_keeps ⟨Or.inr ⟨by rw [hs]; rfl, rfl⟩, rfl, rfl⟩ rfl
    · exact .of_outstanding rfl
  | heartbeatMissed =>
    simp only [Session.perform]
    rcases s.heartbeatMissed_cases with h' | ⟨-, h'⟩ | ⟨-, h'⟩ <;> rw [h']
    · exact h
    · exact .of_outstanding rfl
    · exact h.of_keeps (.of_eq rfl rfl rfl) rfl
  | disconnectRequest =>
    simp only [Session.perform]
    rcases s.disconnectRequest_cases with h' | ⟨-, h'⟩ <;> rw [h']
    · exact h
    · exact .of_outstanding rfl
  | disconnectResponse response =>
    simp only [Session.perform]
    rcases s.onDisconnectResponse_cases response with ⟨f, h'⟩ | ⟨-, h'⟩ <;> rw [h']
    · exact h
    · exact .of_outstanding rfl
  | gatewayDisconnect request =>
    simp only [Session.perform]
    rcases s.onDisconnectRequest_cases request with ⟨f, h'⟩ | ⟨-, h'⟩ <;> rw [h']
    · exact h
    · exact .of_outstanding rfl
  | forceDisconnected => exact .of_outstanding rfl
  | recordActivity now => exact h.of_keeps (.of_eq rfl rfl rfl) rfl

end Tracking

/-! ### Missed heartbeats -/

/-- **A session is not overdue**, and where it was made to count misses from. -/
structure Patient (maxMisses : UInt8) (s : Session) : Prop where
  limit : s.missLimit = max 1 maxMisses.toNat
  lt : s.misses < max 1 maxMisses.toNat
  pos : 0 < s.misses → s.status = .heartbeatPending ∨ s.status = .disconnecting

namespace Patient

variable {maxMisses : UInt8} {s t : Session}

/-- With no misses there is nothing to be overdue with. -/
theorem of_misses (h : s.Patient maxMisses) (hl : t.missLimit = s.missLimit) (hm : t.misses = 0) :
    t.Patient maxMisses :=
  ⟨hl.trans h.limit, by omega, by omega⟩

/-- The misses are kept, and so is the status, or it is one in which they may be kept. -/
theorem of_status (h : s.Patient maxMisses) (hl : t.missLimit = s.missLimit)
    (hm : t.misses = s.misses)
    (hs : t.status = s.status ∨ t.status = .heartbeatPending ∨ t.status = .disconnecting) :
    t.Patient maxMisses := by
  refine ⟨hl.trans h.limit, by rw [hm]; exact h.lt, fun hpos => ?_⟩
  rcases hs with hs | hs
  · rw [hs]
    exact h.pos (by omega)
  · exact hs

/-- In any other status nothing has been missed. -/
theorem misses_eq (h : s.Patient maxMisses) (hp : s.status ≠ .heartbeatPending)
    (hd : s.status ≠ .disconnecting) : s.misses = 0 := by
  by_contra hne
  rcases h.pos (Nat.pos_of_ne_zero hne) with hs | hs
  · exact hp hs
  · exact hd hs

/-- **An operation leaves the session patient.** -/
theorem perform (h : s.Patient maxMisses) (op : Operation) :
    (s.perform op).2.Patient maxMisses := by
  cases op with
  | connectRequest =>
    simp only [Session.perform]
    rcases s.connectRequest_cases with h' | ⟨hs, h'⟩ <;> rw [h']
    · exact h
    · exact h.of_misses rfl (h.misses_eq (by simp [hs]) (by simp [hs]))
  | connectResponse response now =>
    simp only [Session.perform]
    rcases s.onConnectResponse_cases response now with h' | ⟨hs, h'⟩ | ⟨-, h'⟩ <;> rw [h']
    · exact h
    · exact h.of_misses rfl (h.misses_eq (by simp [hs]) (by simp [hs]))
    · exact h.of_misses rfl rfl
  | connectExpired =>
    simp only [Session.perform]
    rcases s.connectExpired_cases with h' | ⟨hs, h'⟩ <;> rw [h']
    · exact h
    · exact h.of_misses rfl (h.misses_eq (by simp [hs]) (by simp [hs]))
  | tunnelingRequest message =>
    simp only [Session.perform]
    rcases s.tunnelingRequest_cases message with ⟨f, h'⟩ | ⟨-, h'⟩ <;> rw [h']
    · exact h
    · exact h.of_status rfl rfl (Or.inl rfl)
  | tunnelingAck ack now =>
    simp only [Session.perform]
    rcases s.onTunnelingAck_cases ack now with ⟨cause, t, ht, h'⟩ | ⟨-, h'⟩ | ⟨-, -, h'⟩ <;> rw [h']
    · rcases ht with rfl | rfl
      · exact h
      · exact h.of_status rfl rfl (Or.inl rfl)
    · exact h.of_status rfl rfl (Or.inl rfl)
    · exact h.of_status rfl rfl (Or.inl rfl)
  | abandonRequest => exact h.of_status rfl rfl (Or.inl rfl)
  | inbound request now =>
    simp only [Session.perform]
    rcases s.onTunnelingRequest_cases request now with ⟨f, h'⟩ | ⟨-, h'⟩ <;> rw [h']
    · exact h
    · exact h.of_status rfl rfl (Or.inl rfl)
  | heartbeatRequest =>
    simp only [Session.perform]
    rcases s.heartbeatRequest_cases with h' | ⟨-, h'⟩ <;> rw [h']
    · exact h
    · exact h.of_status rfl rfl (Or.inr (Or.inl rfl))
  | heartbeatResponse response now =>
    simp only [Session.perform]
    rcases s.onHeartbeatResponse_cases response now with ⟨cause, h'⟩ | ⟨-, h'⟩ | ⟨-, h'⟩ <;> rw [h']
    · exact h
    · exact h.of_misses rfl rfl
    · exact h.of_misses rfl rfl
  | heartbeatMissed =>
    -- Here alone the misses grow, so that the test against the limit matters.
    simp only [Session.perform, Session.heartbeatMissed]
    split_ifs with hs hl
    · exact h
    · exact h.of_misses rfl rfl
    · have hlimit := h.limit
      refine ⟨hlimit, ?_, fun _ => Or.inl (Decidable.of_not_not hs)⟩
      change s.misses + 1 < max 1 maxMisses.toNat
      omega
  | disconnectRequest =>
    simp only [Session.perform]
    rcases s.disconnectRequest_cases with h' | ⟨-, h'⟩ <;> rw [h']
    · exact h
    · exact h.of_status rfl rfl (Or.inr (Or.inr rfl))
  | disconnectResponse response =>
    simp only [Session.perform]
    rcases s.onDisconnectResponse_cases response with ⟨f, h'⟩ | ⟨-, h'⟩ <;> rw [h']
    · exact h
    · exact h.of_misses rfl rfl
  | gatewayDisconnect request =>
    simp only [Session.perform]
    rcases s.onDisconnectRequest_cases request with ⟨f, h'⟩ | ⟨-, h'⟩ <;> rw [h']
    · exact h
    · exact h.of_misses rfl rfl
  | forceDisconnected => exact h.of_misses rfl rfl
  | recordActivity now => exact h.of_status rfl rfl (Or.inl rfl)

end Patient

/-! ### A sequence of operations -/

section Run

variable {s : Session} {r? : Option TunnelingRequest}

/-- **The session awaits what its log says.** -/
theorem tracks_run (control : Hpai) (maxMisses : UInt8) (ops : List Operation) :
    ((fresh control maxMisses).run ops).Tracks (awaited ((fresh control maxMisses).log ops)) := by
  induction ops using List.reverseRecOn with
  | nil => exact .of_outstanding rfl
  | append_singleton ops op ih =>
    rw [run_append, log_append]
    simp only [log]
    rw [awaited_concat]
    exact ih.perform op

theorem patient_run (control : Hpai) (maxMisses : UInt8) (ops : List Operation) :
    ((fresh control maxMisses).run ops).Patient maxMisses := by
  induction ops using List.reverseRecOn with
  | nil =>
    refine ⟨rfl, Nat.lt_of_lt_of_le Nat.one_pos (Nat.le_max_left _ _), fun hpos => ?_⟩
    exact absurd hpos (Nat.lt_irrefl 0)
  | append_singleton ops op ih =>
    rw [run_append]
    exact ih.perform op

/-- A request is refused because of another one if and only if one is awaited. -/
theorem Tracks.invalidState_iff (h : s.Tracks r?) (message : Cemi) :
    (s.tunnelingRequest message).1 = .error (.connection .invalidState) ↔ r?.isSome := by
  have hout : s.outstanding.isSome = r?.isSome := by simp [h.outstanding]
  cases hr : r? with
  | none =>
    unfold Session.tunnelingRequest
    simp only [hr] at hout
    split_ifs <;> simp_all
  | some r =>
    have hs := (h.current r hr).1
    simp [Session.tunnelingRequest, hs, hout, hr]

/-- What is accepted fits what is awaited. -/
theorem onTunnelingAck_eq_ok_iff (s : Session) (ack : TunnelingAck) (now : Nat) :
    (s.onTunnelingAck ack now).1 = .ok () ↔
      s.status.isConnected ∧ ack.channel = s.channel ∧ s.outstanding = some ack.sequence ∧
        ack.status = 0 := by
  unfold onTunnelingAck
  by_cases hs : s.status.isConnected
  · by_cases hc : ack.channel = s.channel
    · cases hout : s.outstanding with
      | none => simp [hs, hc, hout, recordActivity]
      | some n =>
        by_cases hn : ack.sequence = n
        · by_cases hz : ack.status = 0 <;> simp [hs, hc, hout, hn, hz, recordActivity]
        · simp [hs, hc, hout, hn, Ne.symm hn, recordActivity]
    · simp [hs, hc]
  · simp [hs]

/-- An acknowledgement is accepted only while a request is awaited, which it fits. -/
theorem Tracks.exists_of_ack (h : s.Tracks r?) {ack : TunnelingAck} {now : Nat}
    (hok : (s.onTunnelingAck ack now).1 = .ok ()) :
    ∃ r, r? = some r ∧ r.channel = ack.channel ∧ r.sequence = ack.sequence := by
  obtain ⟨-, hc, ho, -⟩ := (s.onTunnelingAck_eq_ok_iff ack now).mp hok
  rw [h.outstanding] at ho
  obtain ⟨r, hr, hn⟩ := Option.map_eq_some_iff.mp ho
  exact ⟨r, hr, (h.current r hr).2.1.trans hc.symm, hn⟩

/-- An entry of a log in which an acknowledgement was accepted. -/
theorem ok_of_isAck {op : Operation} (h : Entry.isAck (op, (s.perform op).1)) :
    ∃ ack now, op = .tunnelingAck ack now ∧ (s.onTunnelingAck ack now).1 = .ok () := by
  unfold Entry.isAck at h
  split at h
  · rename_i ack now heq
    obtain ⟨rfl, ho⟩ := Prod.mk.inj heq
    refine ⟨ack, now, rfl, ?_⟩
    simp only [Session.perform, Prod.map_fst] at ho
    cases hr : (s.onTunnelingAck ack now).1 with
    | ok u => rfl
    | error f => simp [hr, Outcome.ofResult] at ho
  · cases h

/-- An acknowledgement that was accepted releases the request. -/
theorem releases_of_isAck {e : Entry} (h : e.isAck) : e.releases = true := by
  unfold Entry.isAck at h
  split at h
  · rfl
  · cases h

/-- **Since a request was handed out**, and until the next one is, one acknowledgement is
accepted at most; and if one was, none is awaited any more. -/
theorem countP_isAck_le (control : Hpai) (maxMisses : UInt8) (ops : List Operation)
    {pre post : List Entry} {e : Entry}
    (hl : (fresh control maxMisses).log ops = pre ++ e :: post)
    (hpost : ∀ e' ∈ post, e'.request? = none) :
    post.countP Entry.isAck ≤ 1 ∧
      (0 < post.countP Entry.isAck → awaited ((fresh control maxMisses).log ops) = none) := by
  induction ops using List.reverseRecOn generalizing post with
  | nil => simp [log] at hl
  | append_singleton ops op ih =>
    have ht := tracks_run control maxMisses ops
    rw [log_append] at hl ⊢
    simp only [log] at hl ⊢
    rcases split_concat hl with ⟨-, -, rfl⟩ | ⟨post, rfl, hinit⟩
    · simp
    · rw [List.forall_mem_append, List.forall_mem_singleton] at hpost
      obtain ⟨hle, hnone⟩ := ih hinit hpost.1
      rw [awaited_concat, List.countP_append, List.countP_singleton]
      split
      · rename_i hack
        -- Something was awaited, so that nothing has been accepted before.
        obtain ⟨ack, now, rfl, hok⟩ := ok_of_isAck hack
        obtain ⟨r, hr, -⟩ := ht.exists_of_ack hok
        have hzero : post.countP Entry.isAck = 0 := by
          by_contra hne
          rw [hnone (Nat.pos_of_ne_zero hne)] at hr
          cases hr
        exact ⟨by omega, fun _ => by simp [awaitedAfter, releases_of_isAck hack]⟩
      · refine ⟨by omega, fun hpos => ?_⟩
        rw [hnone (by omega)]
        simp [awaitedAfter, hpost.2]

/-- **Every session is consistent, and answers for each request once.** After any sequence of
operations of a fresh session

* an outstanding request has the next number in a session that is connected, and heartbeats
  that were missed stay below the limit and do not outlive their session;
* another request is refused because of it if and only if a request is open, which is to say
  that it was neither accepted, refused nor given up in the session in which it was handed out;
* an acknowledgement is accepted only if it has the channel and the number of the open request;
* from the time when a request was handed out until the next one is, one acknowledgement is
  accepted at most. -/
theorem consistent_run (control : Hpai) (maxMisses : UInt8) (ops : List Operation) :
    let s := (fresh control maxMisses).run ops
    let l := (fresh control maxMisses).log ops
    s.Consistent maxMisses ∧
      (∀ message, (s.tunnelingRequest message).1 = .error (.connection .invalidState) ↔
        ∃ r, IsOpen l r) ∧
      (∀ ack now, (s.onTunnelingAck ack now).1 = .ok () →
        ∃ r, IsOpen l r ∧ r.channel = ack.channel ∧ r.sequence = ack.sequence) ∧
      ∀ (pre post : List Entry) (e : Entry), l = pre ++ e :: post → e.request?.isSome →
        (∀ e' ∈ post, e'.request? = none) → post.countP Entry.isAck ≤ 1 := by
  intro s l
  have ht : s.Tracks (awaited l) := tracks_run control maxMisses ops
  have hp : s.Patient maxMisses := patient_run control maxMisses ops
  refine ⟨⟨fun n hn => ?_, hp.lt, hp.pos⟩, fun message => ?_, fun ack now hok => ?_, ?_⟩
  · rw [ht.outstanding] at hn
    obtain ⟨r, hr, rfl⟩ := Option.map_eq_some_iff.mp hn
    obtain ⟨hs, -, hseq⟩ := ht.current r hr
    exact ⟨hs, hseq⟩
  · rw [ht.invalidState_iff, Option.isSome_iff_exists]
    exact exists_congr fun r => awaited_eq_some_iff
  · obtain ⟨r, hr, hfits⟩ := ht.exists_of_ack hok
    exact ⟨r, awaited_eq_some_iff.mp hr, hfits⟩
  · intro pre post e hl _ hpost
    exact (countP_isAck_le control maxMisses ops hl hpost).1

end Run

end KnxIp.Session
