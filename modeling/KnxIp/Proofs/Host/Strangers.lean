import KnxIp.Proofs.Client.Inbox
import KnxIp.Proofs.Host.History

/-!
# Strangers

A datagram that does not come from the gateway is passed over. The gateway is known by its
internet address or by the endpoint that tunnelling frames go to, and that endpoint changes with
every session; so who is a *stranger* is not said once and for all, but at the moment at which a
datagram is received.

* `KnxIp.Client.foldl_fromGateway`: any datagrams do the same without those of strangers.
* `KnxIp.Dispatcher.poll_receiving`: all datagrams that wait are handled, if the socket does not
  fail, and the dispatcher goes on.
* `KnxIp.Dispatcher.exists_thinned_poll`: a turn of the dispatcher does the same without strangers.

The last is not the first two together. A turn can be broken off by a failing socket, with
datagrams left in the inbox, and which of these are a stranger's only a later turn can tell. So
what is left in the inbox is given beforehand (`KnxIp.Dispatcher.Thinned`), and the lemma finds
what has to wait there when the turn begins.
-/

namespace KnxIp

/-! ### Another inbox -/

/-- The socket with another inbox. -/
def Socket.withInbox (s : Socket) (q : Queue Datagram datagramQueueDepth) : Socket :=
  { s with inbox := q }

namespace Client

variable {α : Type} {c : Client} {q : Queue Datagram datagramQueueDepth}

/-- The client with another inbox. -/
def withInbox (c : Client) (q : Queue Datagram datagramQueueDepth) : Client :=
  c.withSocket (c.socket.withInbox q)

theorem withInbox_inbox (c : Client) : c.withInbox c.socket.inbox = c := rfl

theorem Steady.withInbox {f : Client → Client} (h : Steady f) (c : Client)
    (q : Queue Datagram datagramQueueDepth) : f (c.withInbox q) = (f c).withInbox q := by
  rw [Client.withInbox, Client.withInbox, h.socket_eq]
  exact h rfl

theorem Overlooks.withInbox {f : Client → α × Client} (h : Overlooks f) (c : Client)
    (q : Queue Datagram datagramQueueDepth) :
    f (c.withInbox q) = ((f c).1, (f c).2.withInbox q) := by
  rw [Client.withInbox, Client.withInbox, h.socket_eq]
  exact h rfl

/-! ### Datagrams, one after the other -/

/-- A stranger's datagram does nothing. -/
theorem onDatagram_of_not_isGateway {d : Datagram} (h : c.isGateway d.peer = false) :
    c.onDatagram d = c := by
  simp [onDatagram, h]

/-- **A datagram from the gateway that cannot be read** does nothing but publish why. -/
theorem onDatagram_of_decode_error {d : Datagram} {f : Fault} (h : c.isGateway d.peer = true)
    (hd : Frame.decode d.octets.toList = .error f) :
    c.onDatagram d = { c with outbox := c.outbox ++ [.event (.fault f)] } := by
  simp only [onDatagram, h, hd, if_true]
  rfl

/-- **The datagrams that come from the gateway**, among those that are received one after the
other: each as the client sees it that has received the others before it. -/
def fromGateway (c : Client) : List Datagram → List Datagram
  | [] => []
  | d :: ds =>
    if c.isGateway d.peer then d :: (c.onDatagram d).fromGateway ds else c.fromGateway ds

/-- Without the datagrams of strangers it all is the same. -/
theorem foldl_fromGateway (c : Client) (ds : List Datagram) :
    (c.fromGateway ds).foldl onDatagram c = ds.foldl onDatagram c := by
  induction ds generalizing c with
  | nil => rfl
  | cons d ds ih =>
    rw [fromGateway, List.foldl_cons]
    split
    · exact ih (c.onDatagram d)
    · rw [onDatagram_of_not_isGateway (Bool.eq_false_iff.mpr ‹_›)]
      exact ih c

end Client

/-! ### What can be seen of a history -/

namespace Host

namespace Moment

/-- The moment with another inbox before and after. -/
def withInbox (m : Moment) (q : Queue Datagram datagramQueueDepth) : Moment :=
  ⟨m.deed, m.before.withInbox q, m.after.withInbox q⟩

/-- Whether a datagram of a stranger is received. -/
def isStrange (m : Moment) : Bool :=
  match m.deed with
  | .receive d => !m.before.isGateway d.peer
  | _ => false

/-- **Whether something can be seen** at a moment, the inbox apart: that somebody had a turn, or a
datagram was received from the gateway, or the client has changed. -/
def isSeen (m : Moment) : Bool :=
  match m.deed with
  | .receive d => m.before.isGateway d.peer
  | .other => m.before.withInbox .empty ≠ m.after.withInbox .empty
  | _ => true

theorem isSeen_withInbox (m : Moment) (q : Queue Datagram datagramQueueDepth) :
    (m.withInbox q).isSeen = m.isSeen := rfl

end Moment

/-- **What can be seen** of a history, the inbox apart. -/
def seen (ms : List Moment) : List Moment :=
  (ms.filter Moment.isSeen).map fun m => m.withInbox .empty

theorem seen_append (ms ns : List Moment) : seen (ms ++ ns) = seen ms ++ seen ns := by
  simp [seen]

/-- Moments that are the same, the inbox apart, can be added where the same is seen. -/
theorem seen_cons_congr {m m' : Moment} {ms ms' : List Moment}
    (hm : m'.withInbox .empty = m.withInbox .empty) (h : seen ms' = seen ms) :
    seen (m' :: ms') = seen (m :: ms) := by
  have hseen : m'.isSeen = m.isSeen := by
    rw [← m'.isSeen_withInbox .empty, ← m.isSeen_withInbox .empty, hm]
  simp only [seen, List.filter_cons, hseen]
  split
  · rw [List.map_cons, List.map_cons, hm]
    exact congrArg (m.withInbox .empty :: ·) h
  · exact h

theorem seen_map_withInbox (ms : List Moment) (q : Queue Datagram datagramQueueDepth) :
    seen (ms.map fun m => m.withInbox q) = seen ms := by
  simp only [seen, List.filter_map, List.map_map]
  rfl

end Host

/-! ### What is received -/

theorem Queue.eq_empty_of_toList {α : Type} {capacity : Nat} {q : Queue α capacity}
    (h : q.toList = []) : q = .empty := by
  obtain ⟨entries, hle⟩ := q
  obtain rfl : entries = [] := h
  rfl

namespace Socket

variable {s : Socket}

/-- To receive does not close a socket. -/
theorem closed_of_receive? {s' : Socket} {r : Except Fault Datagram}
    (h : s.receive? = some (r, s')) : s'.closed = s.closed := by
  unfold receive? at h
  split at h
  · cases h
    rfl
  · cases hf : s.failures with
    | cons f rest =>
      simp only [hf] at h
      cases h
      rfl
    | nil =>
      simp only [hf] at h
      cases hp : s.inbox.pop? with
      | none => simp [hp] at h
      | some r =>
        simp only [hp] at h
        cases h
        rfl

theorem receive?_of_failure {f : Fault} {fs : List Fault} (hopen : s.closed = false)
    (hf : s.failures = f :: fs) : s.receive? = some (.error f, { s with failures := fs }) := by
  simp [receive?, hopen, hf]

/-- The next datagram is received, and the others go on waiting. -/
theorem receive?_of_inbox {d : Datagram} {q : Queue Datagram datagramQueueDepth}
    (hopen : s.closed = false) (hf : s.failures = []) (hq : s.inbox.pop? = some (d, q)) :
    s.receive? = some (.ok d, s.withInbox q) := by
  simp [receive?, hopen, hf, hq, withInbox]

end Socket

/-- The client whose next attempts to receive will fail with these faults. -/
def Client.withFailures (c : Client) (fs : List Fault) : Client :=
  c.withSocket { c.socket with failures := fs }

namespace Dispatcher

open Host

variable {c : Client} {q q₁ : Queue Datagram datagramQueueDepth}

/-- Nothing waits, and nothing is received. -/
theorem poll_of_waiting (h : c.socket.waiting = 0) :
    poll .receiving c = (.receiving, c) ∧ dispatcherMoments .receiving c = [] := by
  rw [poll, dispatcherMoments, h]
  exact ⟨rfl, rfl⟩

theorem waiting_of_failures {f : Fault} {fs : List Fault} (hf : c.socket.failures = f :: fs) :
    c.socket.waiting = (c.withFailures fs).socket.waiting + 1 := by
  simp only [Client.withFailures, Client.withSocket, Socket.waiting, hf, List.length_cons]
  omega

/-- A datagram that is too long is done with. -/
theorem poll_of_tooSmall {fs : List Fault} (hopen : c.socket.closed = false)
    (hf : c.socket.failures = .transport .bufferTooSmall :: fs) :
    let b := (c.withFailures fs).publishFault (.transport .bufferTooSmall)
    poll .receiving c = poll .receiving b ∧
      dispatcherMoments .receiving c = ⟨.other, c, b⟩ :: dispatcherMoments .receiving b := by
  rw [poll, dispatcherMoments, waiting_of_failures hf, receive, receipts,
    Socket.receive?_of_failure hopen hf]
  exact ⟨rfl, rfl⟩

/-- Another failure fails the socket. -/
theorem poll_of_failure {f : Fault} {fs : List Fault} (hopen : c.socket.closed = false)
    (hf : c.socket.failures = f :: fs) (hne : f ≠ .transport .bufferTooSmall) :
    let b := (c.withFailures fs).transportFailed f
    poll .receiving c = (.resting (c.now + receiveBackoff), b) ∧
      dispatcherMoments .receiving c = [⟨.other, c, b⟩] := by
  rw [poll, dispatcherMoments, waiting_of_failures hf, receive, receipts,
    Socket.receive?_of_failure hopen hf]
  exact ⟨if_neg hne, if_neg hne⟩

/-- A datagram is received, and then the others. -/
theorem poll_of_inbox {d : Datagram} (hopen : c.socket.closed = false)
    (hf : c.socket.failures = []) (hq : c.socket.inbox.pop? = some (d, q)) :
    let b := (c.withInbox q).onDatagram d
    poll .receiving c = poll .receiving b ∧
      dispatcherMoments .receiving c = ⟨.receive d, c, b⟩ :: dispatcherMoments .receiving b := by
  have hwaiting : c.socket.waiting = q.toList.length + 1 := by
    rw [Socket.waiting, hf, Queue.toList_of_pop? hq, List.length_nil, Nat.zero_add,
      List.length_cons]
  have hrest : ((c.withInbox q).onDatagram d).socket.waiting = q.toList.length := by
    rw [(Client.steady_onDatagram d).socket_eq]
    simp [Client.withInbox, Client.withSocket, Socket.withInbox, Socket.waiting, hf]
  intro b
  rw [poll, dispatcherMoments, hwaiting, receive, receipts, Socket.receive?_of_inbox hopen hf hq]
  exact ⟨congrArg (receive b) hrest.symm, congrArg (_ :: receipts b ·) hrest.symm⟩

/-- **A client that receives less**: if it has only these datagrams in its inbox, and is left with
only those, the dispatcher receives nothing of a stranger and does the same, the inbox apart. -/
structure Thinned (k : Dispatcher) (c : Client) (q q₁ : Queue Datagram datagramQueueDepth) :
    Prop where
  sublist : q.toList.Sublist c.socket.inbox.toList
  poll_eq : k.poll (c.withInbox q) = ((k.poll c).1, (k.poll c).2.withInbox q₁)
  friendly : ∀ m ∈ dispatcherMoments k (c.withInbox q), m.isStrange = false
  seen_eq : seen (dispatcherMoments k (c.withInbox q)) = seen (dispatcherMoments k c)

theorem Thinned.of_tooSmall {fs : List Fault} (hopen : c.socket.closed = false)
    (hf : c.socket.failures = .transport .bufferTooSmall :: fs)
    (h : Thinned .receiving ((c.withFailures fs).publishFault (.transport .bufferTooSmall))
      q q₁) : Thinned .receiving c q q₁ := by
  obtain ⟨hpoll, hmoments⟩ := poll_of_tooSmall hopen hf
  obtain ⟨hpoll', hmoments'⟩ := poll_of_tooSmall (c := c.withInbox q) hopen hf
  constructor
  case sublist => exact h.sublist
  case poll_eq =>
    rw [hpoll, hpoll']
    exact h.poll_eq
  case friendly =>
    rw [hmoments']
    exact List.forall_mem_cons.mpr ⟨rfl, h.friendly⟩
  case seen_eq =>
    rw [hmoments, hmoments']
    exact seen_cons_congr rfl h.seen_eq

theorem thinned_of_failure {f : Fault} {fs : List Fault} (hopen : c.socket.closed = false)
    (hf : c.socket.failures = f :: fs) (hne : f ≠ .transport .bufferTooSmall)
    (hq : q.toList.Sublist (poll .receiving c).2.socket.inbox.toList) :
    Thinned .receiving c q q := by
  obtain ⟨hpoll, hmoments⟩ := poll_of_failure hopen hf hne
  obtain ⟨hpoll', hmoments'⟩ := poll_of_failure (c := c.withInbox q) hopen hf hne
  have hsteady := Client.steady_transportFailed f
  have hfailed : ((c.withInbox q).withFailures fs).transportFailed f =
      ((c.withFailures fs).transportFailed f).withInbox q :=
    hsteady.withInbox (c.withFailures fs) q
  rw [hfailed] at hpoll' hmoments'
  constructor
  case sublist =>
    rw [hpoll, hsteady.socket_eq] at hq
    exact hq
  case poll_eq =>
    rw [hpoll, hpoll']
    rfl
  case friendly =>
    intro m hm
    rw [hmoments', List.mem_singleton] at hm
    rw [hm]
    rfl
  case seen_eq =>
    rw [hmoments, hmoments']
    exact seen_cons_congr rfl rfl

/-- A datagram of the gateway is received in both cases. -/
theorem Thinned.of_gateway {d : Datagram} {q₀ q' : Queue Datagram datagramQueueDepth}
    (hopen : c.socket.closed = false) (hf : c.socket.failures = [])
    (hp : c.socket.inbox.pop? = some (d, q₀)) (hg : c.isGateway d.peer = true)
    (hp' : q'.pop? = some (d, q))
    (h : Thinned .receiving ((c.withInbox q₀).onDatagram d) q q₁) : Thinned .receiving c q' q₁ := by
  obtain ⟨hpoll, hmoments⟩ := poll_of_inbox hopen hf hp
  obtain ⟨hpoll', hmoments'⟩ := poll_of_inbox (c := c.withInbox q') hopen hf hp'
  have hsteady := Client.steady_onDatagram d
  have hafter : ((c.withInbox q').withInbox q).onDatagram d =
      ((c.withInbox q₀).onDatagram d).withInbox q :=
    hsteady.withInbox (c.withInbox q₀) q
  rw [hafter] at hpoll' hmoments'
  constructor
  case sublist =>
    have hsub := h.sublist
    rw [hsteady.socket_eq] at hsub
    rw [Queue.toList_of_pop? hp, Queue.toList_of_pop? hp']
    exact hsub.cons_cons d
  case poll_eq =>
    rw [hpoll, hpoll']
    exact h.poll_eq
  case friendly =>
    rw [hmoments']
    exact List.forall_mem_cons.mpr ⟨congrArg (!·) hg, h.friendly⟩
  case seen_eq =>
    rw [hmoments, hmoments']
    exact seen_cons_congr rfl h.seen_eq

/-- A datagram of a stranger is received in one case only, and is not seen. -/
theorem Thinned.of_stranger {d : Datagram} {q₀ : Queue Datagram datagramQueueDepth}
    (hopen : c.socket.closed = false) (hf : c.socket.failures = [])
    (hp : c.socket.inbox.pop? = some (d, q₀)) (hg : c.isGateway d.peer = false)
    (h : Thinned .receiving (c.withInbox q₀) q q₁) : Thinned .receiving c q q₁ := by
  obtain ⟨hpoll, hmoments⟩ := poll_of_inbox hopen hf hp
  rw [Client.onDatagram_of_not_isGateway (c := c.withInbox q₀) hg] at hpoll hmoments
  constructor
  case sublist =>
    rw [Queue.toList_of_pop? hp]
    exact h.sublist.trans (List.sublist_cons_self _ _)
  case poll_eq =>
    rw [hpoll]
    exact h.poll_eq
  case friendly => exact h.friendly
  case seen_eq =>
    have hnot : ¬ (⟨.receive d, c, c.withInbox q₀⟩ : Moment).isSeen = true := by
      simp [Moment.isSeen, hg]
    rw [hmoments, seen, seen, List.filter_cons_of_neg hnot]
    exact h.seen_eq

/-- **Strangers can be left out of an inbox**: whatever is left of the inbox in the end, less can
be in it to begin with. -/
theorem exists_thinned (q₁ : Queue Datagram datagramQueueDepth) (c : Client)
    (hopen : c.socket.closed = false)
    (hq₁ : q₁.toList.Sublist (poll .receiving c).2.socket.inbox.toList) :
    ∃ q, Thinned .receiving c q q₁ := by
  -- Every attempt to receive leaves one less to wait.
  generalize hn : c.socket.waiting = n
  induction n generalizing c with
  | zero =>
    obtain ⟨hpoll, hmoments⟩ := poll_of_waiting hn
    rw [hpoll] at hq₁
    have hn' : (c.withInbox q₁).socket.waiting = 0 := by
      have hle : q₁.toList.length ≤ c.socket.inbox.toList.length := hq₁.length_le
      simp only [Socket.waiting, Client.withInbox, Client.withSocket, Socket.withInbox] at hn ⊢
      omega
    obtain ⟨hpoll', hmoments'⟩ := poll_of_waiting hn'
    exact ⟨q₁, hq₁, by rw [hpoll, hpoll'], by simp [hmoments'], by rw [hmoments, hmoments']⟩
  | succ n ih =>
    cases hf : c.socket.failures with
    | cons f fs =>
      by_cases hne : f = .transport .bufferTooSmall
      · subst hne
        obtain ⟨hpoll, -⟩ := poll_of_tooSmall hopen hf
        rw [hpoll] at hq₁
        rw [waiting_of_failures hf] at hn
        obtain ⟨q, h⟩ := ih ((c.withFailures fs).publishFault _) hopen hq₁ (Nat.succ.inj hn)
        exact ⟨q, h.of_tooSmall hopen hf⟩
      · exact ⟨q₁, thinned_of_failure hopen hf hne hq₁⟩
    | nil =>
      cases hp : c.socket.inbox.pop? with
      | none =>
        rw [Socket.waiting, hf, Queue.pop?_eq_none_iff.mp hp] at hn
        cases hn
      | some r =>
        obtain ⟨d, q₀⟩ := r
        obtain ⟨hpoll, -⟩ := poll_of_inbox hopen hf hp
        rw [hpoll] at hq₁
        have hsocket : ((c.withInbox q₀).onDatagram d).socket = c.socket.withInbox q₀ :=
          (Client.steady_onDatagram d).socket_eq _
        have hwaiting : ((c.withInbox q₀).onDatagram d).socket.waiting = n := by
          rw [Socket.waiting, hf, Queue.toList_of_pop? hp] at hn
          simp only [List.length_nil, List.length_cons] at hn
          rw [hsocket, Socket.waiting]
          simp only [Socket.withInbox, hf, List.length_nil]
          omega
        obtain ⟨q, h⟩ := ih _ (by rw [hsocket]; exact hopen) hq₁ hwaiting
        cases hg : c.isGateway d.peer with
        | true =>
          have hle : (d :: q.toList).length ≤ datagramQueueDepth := by
            have hsub := h.sublist.length_le
            have hmax := c.socket.inbox.length_le
            rw [hsocket] at hsub
            rw [Queue.toList_of_pop? hp] at hmax
            exact Nat.le_trans (Nat.succ_le_succ hsub) hmax
          exact ⟨⟨d :: q.toList, hle⟩, h.of_gateway hopen hf hp hg rfl⟩
        | false =>
          rw [Client.onDatagram_of_not_isGateway (c := c.withInbox q₀) hg] at h
          exact ⟨q, h.of_stranger hopen hf hp hg⟩

theorem poll_of_rested {deadline : Nat} (h : deadline ≤ c.now) :
    poll (.resting deadline) c = poll .receiving c ∧
      dispatcherMoments (.resting deadline) c = dispatcherMoments .receiving c :=
  ⟨if_pos h, if_pos h⟩

theorem poll_of_not_rested {deadline : Nat} (h : ¬ deadline ≤ c.now) :
    poll (.resting deadline) c = (.resting deadline, c) ∧
      dispatcherMoments (.resting deadline) c = [] :=
  ⟨if_neg h, if_neg h⟩

/-- A dispatcher that rests receives nothing, or it receives as if it did not rest. -/
theorem exists_thinned_poll (k : Dispatcher) (q₁ : Queue Datagram datagramQueueDepth) (c : Client)
    (hopen : c.socket.closed = false)
    (hq₁ : q₁.toList.Sublist (k.poll c).2.socket.inbox.toList) : ∃ q, Thinned k c q q₁ := by
  cases k with
  | receiving => exact exists_thinned q₁ c hopen hq₁
  | resting deadline =>
    by_cases hd : deadline ≤ c.now
    · obtain ⟨hpoll, hmoments⟩ := poll_of_rested hd
      rw [hpoll] at hq₁
      obtain ⟨q, h⟩ := exists_thinned q₁ c hopen hq₁
      obtain ⟨hpoll', hmoments'⟩ := poll_of_rested (c := c.withInbox q) hd
      refine ⟨q, h.sublist, ?_, ?_, ?_⟩
      · rw [hpoll, hpoll', h.poll_eq]
      · rw [hmoments']
        exact h.friendly
      · rw [hmoments, hmoments', h.seen_eq]
    · obtain ⟨hpoll, hmoments⟩ := poll_of_not_rested hd
      obtain ⟨hpoll', hmoments'⟩ := poll_of_not_rested (c := c.withInbox q₁) hd
      rw [hpoll] at hq₁
      exact ⟨q₁, hq₁, by rw [hpoll, hpoll'], by simp [hmoments'], by rw [hmoments, hmoments']⟩

/-- Nothing closes a socket. -/
theorem closed_poll (k : Dispatcher) (c : Client) :
    (k.poll c).2.socket.closed = c.socket.closed := by
  have hreceive : ∀ attempts (c : Client),
      (receive c attempts).2.socket.closed = c.socket.closed := by
    intro attempts
    induction attempts with
    | zero => exact fun _ => rfl
    | succ attempts ih =>
      intro c
      unfold receive
      cases hr : c.socket.receive? with
      | none => rfl
      | some r =>
        obtain ⟨result, socket⟩ := r
        have hclosed : socket.closed = c.socket.closed := Socket.closed_of_receive? hr
        cases result with
        | ok d =>
          simp only [ih, (Client.steady_onDatagram d).socket_eq]
          exact hclosed
        | error f =>
          simp only
          split
          · rw [ih, (Client.steady_publishFault f).socket_eq]
            exact hclosed
          · rw [(Client.steady_transportFailed f).socket_eq]
            exact hclosed
  cases k with
  | receiving => exact hreceive _ _
  | resting deadline =>
    by_cases hd : deadline ≤ c.now
    · rw [(poll_of_rested hd).1]
      exact hreceive _ _
    · rw [(poll_of_not_rested hd).1]

/-- **Every datagram that waits is received** and has its effect, if the socket does not fail; and
the dispatcher goes on, whatever the datagrams were. -/
theorem poll_receiving (c : Client) (hopen : c.socket.closed = false)
    (hf : c.socket.failures = []) :
    poll .receiving c =
      (.receiving, c.socket.inbox.toList.foldl Client.onDatagram (c.withInbox .empty)) := by
  -- Every datagram that is received leaves one less to wait.
  generalize hn : c.socket.inbox.toList = ds
  induction ds generalizing c with
  | nil =>
    have hwaiting : c.socket.waiting = 0 := by rw [Socket.waiting, hf, hn]; rfl
    rw [(poll_of_waiting hwaiting).1, ← Queue.eq_empty_of_toList hn, c.withInbox_inbox]
    rfl
  | cons d ds ih =>
    cases hp : c.socket.inbox.pop? with
    | none =>
      rw [Queue.pop?_eq_none_iff.mp hp] at hn
      cases hn
    | some r =>
      obtain ⟨d', q⟩ := r
      obtain ⟨rfl, rfl⟩ := List.cons.inj (hn.symm.trans (Queue.toList_of_pop? hp))
      have hsteady := Client.steady_onDatagram d
      have hsocket : ((c.withInbox q).onDatagram d).socket = c.socket.withInbox q :=
        hsteady.socket_eq _
      rw [(poll_of_inbox hopen hf hp).1, ih _ (by rw [hsocket]; exact hopen)
        (by rw [hsocket]; exact hf) (by rw [hsocket]; rfl), List.foldl_cons]
      rw [← hsteady.withInbox (c.withInbox q) .empty]
      rfl

end Dispatcher

end KnxIp
