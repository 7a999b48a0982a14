import KnxIp.Proofs.Session.Steps
import KnxIp.Session.Operation
import Mathlib.Data.List.DropRight

/-!
# The counters of a session are what its history says

Two numbers, a channel and an address are what a session has to keep in step with the
gateway: the number of the next request that it sends, the number that it expects of the
gateway, the channel that its requests name, and the address on the bus that it was
given. They are the *counters* of the session (`KnxIp.Session.counters`).

On the other side stands the *log* of a sequence of operations
(`KnxIp.Session.log`): the operations, each with its outcome. Only three kinds of entries
concern the counters, and everything else – heartbeats, frames of another channel,
acknowledgements that do not fit or that refuse, requests that are given up, the end of
the session, attempts to open another one that fail – is *idle*:

* a connect response that opened the session, the *grant*;
* an acknowledgement that was accepted;
* a message of the gateway that was accepted.

`KnxIp.Session.Counters.ofLog` reads the counters off a log: everything in front of the
last grant is forgotten, and behind it acknowledgements are counted modulo 256 and the
last message is remembered. The main statement,
`KnxIp.Session.counters_run_eq_ofLog`, is that this is what the session holds after any
sequence of operations whatsoever, and that its requests carry it.
-/

namespace KnxIp.Session

/-! ### The counters -/

/-- **What a session keeps in step with the gateway.** -/
structure Counters where
  sendSequence : UInt8
  recvSequence : UInt8
  channel : UInt8
  assigned : Option IndividualAddress
  deriving DecidableEq

/-- The counters of a session. -/
def counters (s : Session) : Counters where
  sendSequence := s.sendSequence
  recvSequence := s.recvSequence
  channel := s.channel
  assigned := s.assigned

/-- **A frame carries the counters.** The three requests of a client name the channel,
and a tunnelling request also has the number that is next; other frames are not
concerned. -/
def Counters.Carries (k : Counters) : Frame → Prop
  | .tunnelingRequest r => r.channel = k.channel ∧ r.sequence = k.sendSequence
  | .connectionStateRequest r => r.channel = k.channel
  | .disconnectRequest r => r.channel = k.channel
  | _ => True

/-! ### The log -/

/-- **An entry of a log**: an operation with its outcome. -/
abbrev Entry := Operation × Outcome

/-- **The log of a sequence of operations.** -/
def log (s : Session) : List Operation → List Entry
  | [] => []
  | op :: ops => (op, (s.perform op).1) :: (s.perform op).2.log ops

/-- The frame to send that an operation gave. -/
def Outcome.frame? : Outcome → Option Frame
  | .send frame => some frame
  | .heartbeat (.retry request) => some (.connectionStateRequest request)
  | _ => none

namespace Entry

/-- The response that opened the session, if the entry is a grant. -/
def grant? : Entry → Option ConnectResponse
  | (.connectResponse response _, .opened _) => some response
  | _ => none

/-- Whether the entry is an acknowledgement that was accepted. -/
def isAck : Entry → Bool
  | (.tunnelingAck _ _, .done) => true
  | _ => false

/-- The number of the message of the gateway, if the entry is one that was accepted. -/
def inbound? : Entry → Option UInt8
  | (.inbound request _, .send _) => some request.sequence
  | _ => none

/-- Whether the entry is of none of the three kinds. -/
def isIdle (e : Entry) : Bool := e.grant?.isNone && !e.isAck && e.inbound?.isNone

end Entry

/-- What follows the last grant in a log. -/
def sinceGrant (l : List Entry) : List Entry := l.rtakeWhile fun e => e.grant?.isNone

/-- **The counters that a log says.** Acknowledgements since the last grant are counted
modulo 256, and so is the number that follows the last message since then. -/
def Counters.ofLog (l : List Entry) : Counters where
  sendSequence := UInt8.ofNat ((sinceGrant l).countP Entry.isAck)
  recvSequence :=
    match ((sinceGrant l).filterMap Entry.inbound?).getLast? with
    | some sequence => sequence + 1
    | none => 0
  channel := ((l.filterMap Entry.grant?).getLast?.map ConnectResponse.channel).getD 0
  assigned := (l.filterMap Entry.grant?).getLast?.bind ConnectResponse.assigned?

/-! ### One operation

What an operation does to the counters depends on nothing but its entry in the log. -/

/-- The counters after an entry. -/
def Counters.after (k : Counters) (e : Entry) : Counters :=
  match e.grant? with
  | some response => ⟨0, 0, response.channel, response.assigned?⟩
  | none =>
    { k with
      sendSequence := if e.isAck then k.sendSequence + 1 else k.sendSequence
      recvSequence := (e.inbound?.map (· + 1)).getD k.recvSequence }

/-- An idle entry changes no counter. -/
theorem Counters.after_of_isIdle {k : Counters} {e : Entry} (h : e.isIdle) : k.after e = k := by
  simp only [Entry.isIdle, Bool.and_eq_true, Option.isNone_iff_eq_none, Bool.not_eq_true'] at h
  obtain ⟨⟨hg, ha⟩, hi⟩ := h
  simp [Counters.after, hg, ha, hi]

/-- **An operation changes the counters as its entry says.** One case for each
operation; where it has several outcomes, one for each of them. -/
theorem counters_perform (s : Session) (op : Operation) :
    (s.perform op).2.counters = s.counters.after (op, (s.perform op).1) := by
  cases op with
  | connectRequest =>
    simp only [perform, connectRequest]
    split <;> rfl
  | connectResponse response now =>
    simp only [perform, onConnectResponse]
    split_ifs <;> rfl
  | connectExpired =>
    simp only [perform, connectExpired]
    split <;> rfl
  | tunnelingRequest message =>
    simp only [perform, tunnelingRequest]
    split_ifs <;> rfl
  | tunnelingAck ack now =>
    -- The tests of an acknowledgement are nested, its outcomes are few.
    simp only [perform]
    rcases s.onTunnelingAck_cases ack now with ⟨cause, t, rfl | rfl, h⟩ | ⟨-, h⟩ | ⟨-, -, h⟩ <;>
      rw [h] <;> rfl
  | abandonRequest => rfl
  | inbound request now =>
    simp only [perform, onTunnelingRequest]
    split_ifs <;> rfl
  | heartbeatRequest =>
    simp only [perform, heartbeatRequest]
    split <;> rfl
  | heartbeatResponse response now =>
    simp only [perform, onHeartbeatResponse]
    split_ifs <;> rfl
  | heartbeatMissed =>
    simp only [perform, heartbeatMissed]
    split_ifs <;> rfl
  | disconnectRequest =>
    simp only [perform, disconnectRequest]
    split <;> rfl
  | disconnectResponse response =>
    simp only [perform, onDisconnectResponse]
    split_ifs <;> rfl
  | gatewayDisconnect request =>
    simp only [perform, onDisconnectRequest]
    split_ifs <;> rfl
  | forceDisconnected => rfl
  | recordActivity now => rfl

/-- **A frame that an operation gives carries the counters of the session.** -/
theorem carries_of_perform {s : Session} {op : Operation} {frame : Frame}
    (h : (s.perform op).1.frame? = some frame) : s.counters.Carries frame := by
  cases op with
  | connectRequest =>
    simp only [perform, connectRequest] at h
    split at h <;> cases h
    trivial
  | connectResponse response now =>
    simp only [perform, onConnectResponse] at h
    split_ifs at h <;> cases h
  | tunnelingRequest message =>
    simp only [perform, tunnelingRequest] at h
    split_ifs at h <;> cases h
    exact ⟨rfl, rfl⟩
  | tunnelingAck ack now =>
    simp only [perform] at h
    rcases s.onTunnelingAck_cases ack now with ⟨cause, t, -, h'⟩ | ⟨-, h'⟩ | ⟨-, -, h'⟩ <;>
      rw [h'] at h <;> cases h
  | inbound request now =>
    simp only [perform, onTunnelingRequest] at h
    split_ifs at h <;> cases h
    trivial
  | heartbeatRequest =>
    simp only [perform, heartbeatRequest] at h
    split at h <;> cases h
    rfl
  | heartbeatResponse response now =>
    simp only [perform, onHeartbeatResponse] at h
    split_ifs at h <;> cases h
  | heartbeatMissed =>
    simp only [perform, heartbeatMissed] at h
    split_ifs at h <;> cases h
    rfl
  | disconnectRequest =>
    simp only [perform, disconnectRequest] at h
    split at h <;> cases h
    rfl
  | disconnectResponse response =>
    simp only [perform, onDisconnectResponse] at h
    split_ifs at h <;> cases h
  | gatewayDisconnect request =>
    simp only [perform, onDisconnectRequest] at h
    split_ifs at h <;> cases h
    trivial
  | _ => cases h

/-! ### A sequence of operations -/

theorem run_append (s : Session) (ops more : List Operation) :
    s.run (ops ++ more) = (s.run ops).run more := by
  simp [run]

theorem log_append (s : Session) (ops more : List Operation) :
    s.log (ops ++ more) = s.log ops ++ (s.run ops).log more := by
  induction ops generalizing s with
  | nil => rfl
  | cons op ops ih =>
    have hrun : s.run (op :: ops) = (s.perform op).2.run ops := rfl
    simp [log, ih, hrun]

/-- Reading a log one entry further is reading the entry. -/
theorem Counters.ofLog_concat (l : List Entry) (e : Entry) :
    ofLog (l ++ [e]) = (ofLog l).after e := by
  cases hg : e.grant? with
  | some response =>
    -- A grant makes what comes before it irrelevant.
    have hsince : sinceGrant (l ++ [e]) = [] := by simp [sinceGrant, hg]
    simp [ofLog, Counters.after, hsince, hg]
  | none =>
    have hsince : sinceGrant (l ++ [e]) = sinceGrant l ++ [e] := by simp [sinceGrant, hg]
    by_cases ha : e.isAck <;> cases hi : e.inbound? <;>
      simp [ofLog, Counters.after, hsince, hg, ha, hi]

/-- **The counters are what the log says.** After any sequence of operations of a fresh
session the counters are those that `KnxIp.Session.Counters.ofLog` reads off the log. The
next operation, whichever it is, changes none of them unless it is one of the three that
`KnxIp.Session.Counters.ofLog` looks at, and a request that it gives to be sent carries
them. -/
theorem counters_run_eq_ofLog (control : Hpai) (maxMisses : UInt8) (ops : List Operation)
    (op : Operation) :
    let s := (fresh control maxMisses).run ops
    let k := Counters.ofLog ((fresh control maxMisses).log ops)
    s.counters = k ∧
      (Entry.isIdle (op, (s.perform op).1) → (s.perform op).2.counters = k) ∧
      ∀ frame, (s.perform op).1.frame? = some frame → k.Carries frame := by
  intro s k
  have hrun : s.counters = k := by
    -- The log grows at its end, so the last operation is taken off and not the first.
    induction ops using List.reverseRecOn with
    | nil => rfl
    | append_singleton ops last ih =>
      have hstep := counters_perform ((fresh control maxMisses).run ops) last
      rw [ih] at hstep
      simp only [s, k, run_append, log_append]
      rw [log, log, Counters.ofLog_concat]
      exact hstep
  refine ⟨hrun, fun hidle => ?_, fun frame hframe => ?_⟩
  · rw [counters_perform, hrun]
    exact Counters.after_of_isIdle hidle
  · rw [← hrun]
    exact carries_of_perform hframe

end KnxIp.Session
