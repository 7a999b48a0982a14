import KnxIp.Client.Dispatcher
import KnxIp.Client.Driver
import KnxIp.Client.Lifecycle
import KnxIp.Proofs.Client.Slots
import KnxIp.Proofs.Frame.Header
import KnxIp.Proofs.Session.Steps
import Mathlib.Logic.Relation

/-!
# What changes a client

Many activities work on a client, but all that any of them does is put together from a few
*moves* (`KnxIp.Client.Move`): to publish an event, to send a datagram, to go on with the
session, to begin or to end one, and to change something that no request depends on. This
module decomposes every activity but those that make requests – the sender, and the calls
that enter the queue or hold a place – into moves, once and for all
(`KnxIp.Client.Moves`). A property that every move respects is then respected by all that
these activities do.

Three things are not moves, because what they do matters too much to be one among others:

* `KnxIp.Client.Grants`, the gateway grants a session;
* `KnxIp.Client.Accepts`, the gateway accepts the request that is outstanding;
* `KnxIp.Client.Overtakes`, a call that closes a session resumes when somebody has already
  begun to open the next one, and ends that.

## Main statements

* `KnxIp.Client.onDatagram_cases`: a datagram grants a session, accepts a request, or moves
  the client.
* `KnxIp.Heartbeat.effects_poll`, `KnxIp.Connecting.moves_poll`: the heartbeat, and a call that
  opens a session, move the client.
* `KnxIp.Disconnecting.poll_cases`: a call that closes a session moves the client, or
  overtakes.
-/

namespace KnxIp

/-- Whether a session has been announced, and its end has not. -/
def Status.isAnnounced : Status → Bool
  | .disconnected => false
  | .connecting => false
  | _ => true

theorem Status.isAnnounced_of_isConnected {s : Status} (h : s.isConnected) :
    s.isAnnounced = true := by
  cases s with
  | connected => rfl
  | heartbeatPending => rfl
  | _ => cases h

/-- Whether an event tells that a session begins or ends. -/
def Event.isLifecycle : Event → Bool
  | .connected _ => true
  | .disconnected _ => true
  | _ => false

/-- Where a granted session says that its tunnelling frames go: to the gateway, if it does
not say. -/
def ConnectResponse.dataEndpoint (response : ConnectResponse) (gateway : Endpoint) : Endpoint :=
  match response.data with
  | some data => if data.isUnspecified then gateway else data.endpoint
  | none => gateway

namespace Client

/-! ### Moves -/

/-- **Nothing has changed that a request depends on.** -/
structure Aside (c c' : Client) : Prop where
  config : c'.config = c.config
  session : c'.session = c.session
  dataEndpoint : c'.dataEndpoint = c.dataEndpoint
  ackDone : c'.ackDone = c.ackDone
  queue : c'.queue = c.queue
  slots : c'.slots = c.slots
  outbox : c'.outbox = c.outbox

/-- **A move**: one thing that an activity does to a client. -/
inductive Move : Client → Client → Prop
  /-- Something else than the requests is concerned. -/
  | aside {c c' : Client} (h : Aside c c') : Move c c'
  /-- An event is published, but not that a session begins or ends. -/
  | publish (c : Client) (e : Event) (h : e.isLifecycle = false) : Move c (c.publish e)
  /-- A datagram is sent, but not a tunnelling request. -/
  | send (c : Client) (d : Datagram) (h : d.isRequest = false) :
      Move c { c with outbox := c.outbox ++ [.datagram d] }
  /-- The session goes on, with at most the request that was outstanding. -/
  | keep (c : Client) (t : Session) (h : c.session.Keeps t)
      (ho : c.session.outstanding = none → t.outstanding = none) : Move c { c with session := t }
  /-- Somebody begins to open a session. -/
  | dial (c : Client) (t : Session) (hs : c.session.status = .disconnected)
      (ht : t.status = .connecting) :
      Move c { c with session := t, connectDone := none, dataEndpoint := c.config.gateway }
  /-- The session that was to be opened is not. -/
  | hangUp (c : Client) (t : Session) (hs : c.session.status = .connecting)
      (ht : t.status = .disconnected) : Move c { c with session := t }
  /-- The outstanding request is refused. -/
  | refuse (c : Client) (t : Session) (f : Fault) (h : c.session.Keeps t)
      (ho : c.session.outstanding ≠ none) :
      Move c { c with session := t, ackDone := some (.error f) }
  /-- Somebody begins to close the session. -/
  | leave (c : Client) (t : Session) (f : Fault) (hs : c.session.status.isConnected)
      (ht : t.status = .disconnecting) :
      Move c { c with session := t, disconnectDone := false, ackDone := some (.error f) }
  /-- A session that has been announced ends. -/
  | lose (c : Client) (t : Session) (reason : EndReason) (hs : c.session.status.isAnnounced)
      (ht : t.status = .disconnected) : Move c ({ c with session := t }.sessionLost reason)

/-- One move after the other. -/
abbrev Moves : Client → Client → Prop := Relation.ReflTransGen Move

/-- **Nothing has changed that a request or an attempt to open a session depends on.** -/
structure Untouched (c c' : Client) : Prop extends Aside c c' where
  connectDone : c'.connectDone = c.connectDone
  confirmation : c'.confirmation = c.confirmation

/-- **An effect**: what may happen to a client whatever the application wants of it. An effect is
a move, and more is known of it than of a move in general: it leaves a request outstanding, or ends
the session; and it leaves the mailboxes alone, unless the session ends. -/
inductive Effect : Client → Client → Prop
  | untouched {c c' : Client} (h : Untouched c c') : Effect c c'
  | publish (c : Client) (e : Event) (h : e.isLifecycle = false) : Effect c (c.publish e)
  | send (c : Client) (d : Datagram) (h : d.isRequest = false) :
      Effect c { c with outbox := c.outbox ++ [.datagram d] }
  /-- The session goes on, with the request that is outstanding. -/
  | keep (c : Client) (t : Session) (h : c.session.Keeps t)
      (ho : t.outstanding = c.session.outstanding) : Effect c { c with session := t }
  /-- A session that has been announced ends. -/
  | lose (c : Client) (t : Session) (reason : EndReason) (hs : c.session.status.isAnnounced)
      (ht : t.status = .disconnected) (ho : t.outstanding = none) :
      Effect c ({ c with session := t }.sessionLost reason)
  /-- The socket fails. -/
  | fail (c : Client) (f : Fault) : Effect c (c.transportFailed f)

/-- One effect after the other. -/
abbrev Effects : Client → Client → Prop := Relation.ReflTransGen Effect

/-- **The gateway grants a session** with a response. -/
structure Grants (response : ConnectResponse) (c c' : Client) : Prop where
  connecting : c.session.status = .connecting
  config : c'.config = c.config
  status : c'.session.status = .connected
  channel : c'.session.channel = response.channel
  sendSequence : c'.session.sendSequence = 0
  dataEndpoint : c'.dataEndpoint = response.dataEndpoint c.config.gateway
  ackDone : c'.ackDone = c.ackDone
  queue : c'.queue = c.queue
  slots : c'.slots = c.slots
  outbox : c'.outbox = c.outbox ++ [.event (.connected response.channel)]

/-- **The gateway accepts the outstanding request.** -/
structure Accepts (c c' : Client) : Prop where
  connected : c.session.status.isConnected
  config : c'.config = c.config
  status : c'.session.status = c.session.status
  channel : c'.session.channel = c.session.channel
  sendSequence : c'.session.sendSequence = c.session.sendSequence + 1
  dataEndpoint : c'.dataEndpoint = c.dataEndpoint
  ackDone : c'.ackDone = some (.ok ())
  queue : c'.queue = c.queue
  slots : c'.slots = c.slots
  outbox : c'.outbox = c.outbox

/-- **A session that is only about to be opened is ended**, as if it were the one that was
to be closed. -/
inductive Overtakes : Client → Client → Prop
  | intro {c b : Client} (t : Session) (h : Aside c b) (hs : c.session.status = .connecting)
      (ht : t.status = .disconnected) :
      Overtakes c ({ b with session := t }.sessionLost .requested)

variable {c c' : Client}

theorem Aside.refl (c : Client) : Aside c c := ⟨rfl, rfl, rfl, rfl, rfl, rfl, rfl⟩

theorem Aside.moves (h : Aside c c') : Moves c c' := .single (.aside h)

theorem Untouched.refl (c : Client) : Untouched c c := ⟨.refl c, rfl, rfl⟩

theorem Untouched.effects (h : Untouched c c') : Effects c c' := .single (.untouched h)

/-! ### What moves do to the queue -/

/-- **The queue stays, or is let go** together with the requests in it. -/
inductive Drops (c c' : Client) : Prop
  | none (queue : c'.queue = c.queue) (slots : c'.slots = c.slots)
  | all (queue : c'.queue = .empty) (slots : c'.slots = c.queue.toList.foldl dropSlot c.slots)

theorem Drops.trans {c'' : Client} (h : Drops c c') (h' : Drops c' c'') : Drops c c'' := by
  rcases h with ⟨hq, hs⟩ | ⟨hq, hs⟩
  · rcases h' with ⟨hq', hs'⟩ | ⟨hq', hs'⟩
    · exact .none (hq'.trans hq) (hs'.trans hs)
    · exact .all hq' (by rw [hs', hq, hs])
  · rcases h' with ⟨hq', hs'⟩ | ⟨hq', hs'⟩
    · exact .all (hq'.trans hq) (hs'.trans hs)
    · refine .all hq' ?_
      rw [hs', hq, hs]
      rfl

theorem Drops.toList (h : Drops c c') :
    c'.queue.toList = c.queue.toList ∨ c'.queue.toList = [] := by
  rcases h with ⟨hq, -⟩ | ⟨hq, -⟩
  · exact Or.inl (by rw [hq])
  · exact Or.inr (by rw [hq]; rfl)

theorem drops_sessionLost (c : Client) (t : Session) (reason : EndReason) :
    Drops c ({ c with session := t }.sessionLost reason) := by
  rw [sessionLost_eq]
  exact .all rfl rfl

theorem Move.drops (h : Move c c') : Drops c c' := by
  cases h with
  | aside h => exact .none h.queue h.slots
  | lose t reason hs ht => exact drops_sessionLost c t reason
  | _ => exact .none rfl rfl

theorem Moves.drops (h : Moves c c') : Drops c c' := by
  induction h with
  | refl => exact .none rfl rfl
  | tail _ h ih => exact ih.trans h.drops

theorem Overtakes.drops (h : Overtakes c c') : Drops c c' := by
  obtain ⟨t, hb, -, -⟩ := h
  exact .trans (.none hb.queue hb.slots) (drops_sessionLost _ _ _)

/-! ### Sending -/

/-- A socket that fails while a session is announced ends it. -/
theorem transportFailed_of_isAnnounced (f : Fault) (h : c.session.status.isAnnounced) :
    c.transportFailed f =
      { c.publishFault f with session := c.session.closed }.sessionLost .transportError := by
  unfold transportFailed
  cases hs : c.session.status with
  | disconnected => simp [hs, Status.isAnnounced] at h
  | connecting => simp [hs, Status.isAnnounced] at h
  | _ => rfl

/-- **A socket that fails** moves the client: whatever session there was ends. -/
theorem moves_transportFailed (c : Client) (f : Fault) : Moves c (c.transportFailed f) := by
  have hp : Moves c (c.publishFault f) := .single (.publish c _ rfl)
  refine hp.trans ?_
  by_cases ha : c.session.status.isAnnounced
  · rw [transportFailed_of_isAnnounced f ha]
    exact .single (.lose (c.publishFault f) _ _ ha rfl)
  · unfold transportFailed
    -- No session is announced: there is none, or one is about to be opened and then is not.
    cases hs : c.session.status with
    | disconnected => exact .single (.keep _ _ (.of_eq hs.symm rfl rfl) fun _ => rfl)
    | connecting =>
      refine .tail (.single (.hangUp _ c.session.closed hs rfl)) (.aside ?_)
      exact ⟨rfl, rfl, rfl, rfl, rfl, rfl, rfl⟩
    | _ => simp [hs, Status.isAnnounced] at ha

/-- To send a datagram fails the socket, or the datagram is out. -/
theorem transmit_cases (c : Client) (d : Datagram) :
    (∃ f, c.transmit d = (.error f, c.transportFailed f)) ∨
      c.transmit d = (.ok (), { c with outbox := c.outbox ++ [.datagram d] }) := by
  unfold transmit
  cases c.socket.sendFault? with
  | some f => exact Or.inl ⟨f, rfl⟩
  | none => exact Or.inr rfl

/-- Effects are moves. -/
theorem Effects.moves (h : Effects c c') : Moves c c' := by
  induction h with
  | refl => exact .refl
  | tail _ h ih =>
    refine ih.trans ?_
    cases h with
    | untouched h => exact h.toAside.moves
    | publish e h => exact .single (.publish _ e h)
    | send d h => exact .single (.send _ d h)
    | keep t h ho => exact .single (.keep _ t h fun hnone => ho.trans hnone)
    | lose t reason hs ht ho => exact .single (.lose _ t reason hs ht)
    | fail f => exact moves_transportFailed _ f

theorem effects_transmit (c : Client) {d : Datagram} (h : d.isRequest = false) :
    Effects c (c.transmit d).2 := by
  rcases c.transmit_cases d with ⟨f, hf⟩ | hok
  · rw [hf]
    exact .single (.fail c f)
  · rw [hok]
    exact .single (.send c d h)

/-- To send a frame has its effects, unless the frame is a tunnelling request. -/
theorem effects_transmitFrame (c : Client) {f : Frame} (h : f.service ≠ .tunnelingRequest)
    (peer : Endpoint) : Effects c (c.transmitFrame f peer).2 :=
  c.effects_transmit (by simpa [Datagram.isRequest_octets] using h)

/-! ### Receiving -/

/-- A telegram from the bus has its effects. -/
theorem effects_route (c : Client) (t : Telegram) : Effects c (c.route t) := by
  unfold route
  cases t.apci with
  | none => exact .refl
  | some apci =>
    refine .tail (.single (.untouched ?_)) (.publish _ _ rfl)
    exact ⟨⟨rfl, rfl, rfl, rfl, rfl, rfl, rfl⟩, rfl, rfl⟩

end Client

/-- What a confirmation says of the request that it confirms. -/
def Cemi.verdict (m : Cemi) : Except Fault Unit :=
  if m.telegram.control1.hasError then .error (.tunneling .negativeConfirmation) else .ok ()

/-- The confirmation that a request of the gateway brings, if it brings one. -/
def TunnelingRequest.confirmation? (request : TunnelingRequest) : Option Cemi :=
  request.cemi.toOption.filter fun m => m.code = .confirmation

namespace Client

variable {c c' : Client}

/-- **A message** has its effects, or it is a confirmation, of which the verdict is kept. -/
theorem onMessage_cases (c : Client) (request : TunnelingRequest) :
    request.confirmation? = none ∧ Effects c (c.onMessage request.cemi) ∨
      ∃ m, request.confirmation? = some m ∧
        c.onMessage request.cemi = { c with confirmation := some m.verdict } := by
  unfold TunnelingRequest.confirmation? onMessage
  cases request.cemi with
  | error f => exact Or.inl ⟨rfl, .single (.publish c _ rfl)⟩
  | ok m =>
    cases hm : m.code with
    | request =>
      refine Or.inl ⟨by simp [Except.toOption, hm], ?_⟩
      simpa only [hm] using Relation.ReflTransGen.refl
    | confirmation =>
      refine Or.inr ⟨m, by simp [Except.toOption, hm], ?_⟩
      simp only [hm, Cemi.verdict]
    | indication =>
      refine Or.inl ⟨by simp [Except.toOption, hm], ?_⟩
      simpa only [hm] using c.effects_route m.telegram

/-- **A request of the gateway** is passed over if there is no session for it; otherwise it is
acknowledged, which has its effects, and its message goes where it belongs. -/
theorem onTunnelingRequest_cases (c : Client) (request : TunnelingRequest) :
    (c.session.onTunnelingRequest request c.now).1.isOk = false ∧
        Effects c (c.onTunnelingRequest request) ∨
      (c.session.onTunnelingRequest request c.now).1.isOk = true ∧
        ∃ b, Effects c b ∧ c.onTunnelingRequest request = b.onMessage request.cemi := by
  unfold onTunnelingRequest
  rcases c.session.onTunnelingRequest_cases request c.now with ⟨f, h⟩ | ⟨-, h⟩
  · refine Or.inl ⟨by rw [h]; rfl, ?_⟩
    simp only [h]
    exact .single (.keep c _ (.refl _) rfl)
  · have hk : c.session.Keeps
        { c.session.recordActivity c.now with recvSequence := request.sequence + 1 } :=
      .of_eq rfl rfl rfl
    refine Or.inr ⟨by rw [h]; rfl, ?_⟩
    simp only [h]
    refine ⟨_, .trans (.single (.keep c _ hk rfl)) ?_, rfl⟩
    exact effects_transmitFrame _ (by simp [Frame.service]) _

/-- A request of the gateway moves the client. -/
theorem moves_onTunnelingRequest (c : Client) (request : TunnelingRequest) :
    Moves c (c.onTunnelingRequest request) := by
  rcases c.onTunnelingRequest_cases request with ⟨-, h⟩ | ⟨-, b, hb, h⟩
  · exact h.moves
  · rw [h]
    refine hb.moves.trans ?_
    rcases b.onMessage_cases request with ⟨-, h⟩ | ⟨m, -, h⟩
    · exact h.moves
    · rw [h]
      exact Aside.moves ⟨rfl, rfl, rfl, rfl, rfl, rfl, rfl⟩

theorem effects_onHeartbeatResponse (c : Client) (response : ChannelResponse) :
    Effects c (c.onHeartbeatResponse response) := by
  unfold onHeartbeatResponse
  rcases c.session.onHeartbeatResponse_cases response c.now with ⟨cause, h⟩ | ⟨hs, h⟩ | ⟨hs, h⟩
  · simp only [h, Fault.isProtocol, if_true]
    exact .single (.keep c _ (.refl _) rfl)
  · have hk : c.session.Keeps
        { c.session.recordActivity c.now with misses := 0, status := .connected } :=
      ⟨Or.inr ⟨by rw [hs]; rfl, rfl⟩, rfl, rfl⟩
    simp only [h]
    refine .tail (.single (.keep c _ hk rfl)) (.untouched ?_)
    exact ⟨⟨rfl, rfl, rfl, rfl, rfl, rfl, rfl⟩, rfl, rfl⟩
  · simp only [h, Fault.isProtocol]
    exact .single (.lose c _ _ (by rw [hs]; rfl) rfl rfl)

theorem effects_onDisconnectResponse (c : Client) (response : ChannelResponse) :
    Effects c (c.onDisconnectResponse response) := by
  unfold onDisconnectResponse
  rcases c.session.onDisconnectResponse_cases response with ⟨f, h⟩ | ⟨hs, h⟩
  · simp only [h]
    exact .single (.keep c _ (.refl _) rfl)
  · simp only [h]
    exact .single (.lose c _ _ (by rw [hs]; rfl) rfl rfl)

/-- **The gateway ends the session.** The session has ended before the answer is sent, but
nothing sees that: the answer might as well have come first. -/
theorem effects_onDisconnectRequest (c : Client) (request : ChannelRequest) :
    Effects c (c.onDisconnectRequest request) := by
  unfold onDisconnectRequest
  rcases c.session.onDisconnectRequest_cases request with ⟨f, h⟩ | ⟨hs, h⟩
  · simp only [h]
    exact .single (.keep c _ (.refl _) rfl)
  · have ha : c.session.status.isAnnounced := by
      rcases hs with hs | hs
      · exact Status.isAnnounced_of_isConnected hs
      · rw [hs]
        rfl
    -- The effects are put in the other order, in which the session is still there to be lost.
    simp only [h, transmitFrame]
    rcases transmit_cases { c with session := c.session.closed }
        ⟨(Frame.disconnectResponse ⟨request.channel, 0⟩).octets, c.config.gateway⟩ with
      ⟨f, hf⟩ | hok
    · rw [hf]
      exact .tail (.single (.publish c (.fault f) rfl))
        (.lose _ c.session.closed.closed _ ha rfl rfl)
    · rw [hok]
      refine .tail (.single (.send c _ ?_)) (.lose _ c.session.closed _ ha rfl rfl)
      simp [Datagram.isRequest_octets, Frame.service]

/-- **A connect response** grants the session, or moves the client. -/
theorem onConnectResponse_cases (c : Client) (response : ConnectResponse) :
    (∃ channel, (c.session.onConnectResponse response c.now).1 = .ok channel) ∧
        Grants response c (c.onConnectResponse response) ∨
      (∃ f, (c.session.onConnectResponse response c.now).1 = .error f) ∧
        Moves c (c.onConnectResponse response) := by
  unfold onConnectResponse
  rcases c.session.onConnectResponse_cases response c.now with h | ⟨hs, h⟩ | ⟨hs, h⟩
  · refine Or.inr ⟨⟨_, by rw [h]⟩, ?_⟩
    simp only [h, Fault.isProtocol, if_true]
    exact .single (.keep c _ (.refl _) id)
  · refine Or.inr ⟨⟨_, by rw [h]⟩, ?_⟩
    simp only [h, Fault.isProtocol]
    refine .tail (.single (.hangUp c { c.session with status := .disconnected } hs rfl)) (.aside ?_)
    exact ⟨rfl, rfl, rfl, rfl, rfl, rfl, rfl⟩
  · refine Or.inl ⟨⟨_, by rw [h]⟩, ?_⟩
    simp only [h]
    exact ⟨hs, rfl, rfl, rfl, rfl, rfl, rfl, rfl, rfl, rfl⟩

/-- **An acknowledgement** accepts the outstanding request, or moves the client. -/
theorem onTunnelingAck_cases (c : Client) (ack : TunnelingAck) :
    (c.session.onTunnelingAck ack c.now).1 = .ok () ∧ Accepts c (c.onTunnelingAck ack) ∨
      (∃ f, (c.session.onTunnelingAck ack c.now).1 = .error f) ∧
        Moves c (c.onTunnelingAck ack) := by
  unfold onTunnelingAck
  rcases c.session.onTunnelingAck_cases ack c.now with
    ⟨cause, t, ht, h⟩ | ⟨hs, h⟩ | ⟨hs, -, h⟩
  · refine Or.inr ⟨⟨_, by rw [h]⟩, ?_⟩
    have hk : c.session.Keeps t := by
      rcases ht with rfl | rfl
      · exact .refl _
      · exact .of_eq rfl rfl rfl
    have ho : c.session.outstanding = none → t.outstanding = none := by
      rcases ht with rfl | rfl <;> exact id
    simp only [h, Fault.isTunneling]
    exact .tail (.single (.keep c t hk ho)) (.publish _ _ rfl)
  · refine Or.inr ⟨⟨_, by rw [h]⟩, ?_⟩
    simp only [h, Fault.isTunneling, if_true]
    exact .single (.refuse c _ _ (.of_eq rfl rfl rfl)
      (Session.outstanding_ne_none_of_onTunnelingAck (congrArg Prod.fst h)))
  · refine Or.inl ⟨by rw [h], ?_⟩
    simp only [h]
    exact ⟨hs, rfl, rfl, rfl, rfl, rfl, rfl, rfl, rfl, rfl⟩

/-- The frame that a datagram brings, if it comes from the gateway and can be read. -/
def frame? (c : Client) (d : Datagram) : Option Frame :=
  if c.isGateway d.peer then (Frame.decode d.octets.toList).toOption else none

/-- The response with which a frame grants a session, if it does. -/
def grantedBy? (c : Client) : Frame → Option ConnectResponse
  | .connectResponse b => if (c.session.onConnectResponse b c.now).1.isOk then some b else none
  | _ => none

/-- Whether a frame accepts the outstanding request. -/
def isAcceptedBy (c : Client) : Frame → Bool
  | .tunnelingAck b => (c.session.onTunnelingAck b c.now).1.isOk
  | _ => false

/-- **What a frame does**: it grants a session, or accepts a request, or moves the
client. -/
theorem onFrame_cases (c : Client) (frame : Frame) :
    (∃ response, c.grantedBy? frame = some response ∧ c.isAcceptedBy frame = false ∧
        Grants response c (c.onFrame frame)) ∨
      (c.grantedBy? frame = none ∧ c.isAcceptedBy frame = true ∧ Accepts c (c.onFrame frame)) ∨
      (c.grantedBy? frame = none ∧ c.isAcceptedBy frame = false ∧ Moves c (c.onFrame frame)) := by
  cases frame with
  | connectResponse b =>
    rcases c.onConnectResponse_cases b with ⟨⟨channel, hr⟩, h⟩ | ⟨⟨f, hr⟩, h⟩
    · exact Or.inl ⟨b, by simp [grantedBy?, hr, Except.isOk, Except.toBool], rfl, h⟩
    · exact Or.inr (Or.inr ⟨by simp [grantedBy?, hr, Except.isOk, Except.toBool], rfl, h⟩)
  | tunnelingAck b =>
    rcases c.onTunnelingAck_cases b with ⟨hr, h⟩ | ⟨⟨f, hr⟩, h⟩
    · exact Or.inr (Or.inl ⟨rfl, by simp [isAcceptedBy, hr, Except.isOk, Except.toBool], h⟩)
    · exact Or.inr (Or.inr ⟨rfl, by simp [isAcceptedBy, hr, Except.isOk, Except.toBool], h⟩)
  | connectionStateResponse b =>
    exact Or.inr (Or.inr ⟨rfl, rfl, (c.effects_onHeartbeatResponse b).moves⟩)
  | disconnectRequest b => exact Or.inr (Or.inr ⟨rfl, rfl, (c.effects_onDisconnectRequest b).moves⟩)
  | disconnectResponse b =>
    exact Or.inr (Or.inr ⟨rfl, rfl, (c.effects_onDisconnectResponse b).moves⟩)
  | tunnelingRequest b => exact Or.inr (Or.inr ⟨rfl, rfl, c.moves_onTunnelingRequest b⟩)
  | connectRequest b => exact Or.inr (Or.inr ⟨rfl, rfl, .refl⟩)
  | connectionStateRequest b => exact Or.inr (Or.inr ⟨rfl, rfl, .refl⟩)

/-- **What a datagram does** is what its frame does. A datagram without one moves the
client. -/
theorem onDatagram_cases (c : Client) (d : Datagram) :
    (∃ frame, c.frame? d = some frame ∧ c.onDatagram d = c.onFrame frame) ∨
      c.frame? d = none ∧ Moves c (c.onDatagram d) := by
  unfold onDatagram frame?
  by_cases hp : c.isGateway d.peer
  · cases hf : Frame.decode d.octets.toList with
    | ok frame => exact Or.inl ⟨frame, by simp [hp, Except.toOption], by simp [hp]⟩
    | error f =>
      refine Or.inr ⟨by simp [hp, Except.toOption], ?_⟩
      simp only [hp, if_true]
      exact .single (.publish c _ rfl)
  · exact Or.inr ⟨by simp [hp], by simp [hp, Relation.ReflTransGen.refl]⟩

/-- A datagram leaves the queue as it is, or lets it go. -/
theorem drops_onDatagram (c : Client) (d : Datagram) : Drops c (c.onDatagram d) := by
  rcases c.onDatagram_cases d with ⟨frame, -, h⟩ | ⟨-, h⟩
  · rw [h]
    rcases c.onFrame_cases frame with ⟨response, -, -, h⟩ | ⟨-, -, h⟩ | ⟨-, -, h⟩
    · exact .none h.queue h.slots
    · exact .none h.queue h.slots
    · exact h.drops
  · exact h.drops

end Client

/-! ### The heartbeat -/

namespace Heartbeat

open Client

theorem effects_begin (c : Client) : Effects c (begin c).2 := by
  unfold begin
  split
  · exact .refl
  · exact Untouched.effects ⟨⟨rfl, rfl, rfl, rfl, rfl, rfl, rfl⟩, rfl, rfl⟩

theorem effects_send (request : ChannelRequest) (c : Client) : Effects c (send request c).2 := by
  have h : Effects c (c.transmitFrame (.connectionStateRequest request) c.config.gateway).2 :=
    c.effects_transmitFrame (by simp [Frame.service]) _
  unfold send
  split
  · rename_i c' heq
    rwa [heq] at h
  · rename_i f c' heq
    rw [heq] at h
    exact h.trans (effects_begin c')

theorem effects_ask (c : Client) : Effects c (ask c).2 := by
  unfold ask
  rcases c.session.heartbeatRequest_cases with h | ⟨hs, h⟩
  · simp only [h]
    exact effects_begin _
  · have hk : c.session.Keeps { c.session with status := .heartbeatPending } :=
      ⟨Or.inr ⟨hs, rfl⟩, rfl, rfl⟩
    simp only [h]
    refine .trans (.tail (.single (.keep c _ hk rfl)) (.untouched ?_)) (effects_send _ _)
    exact ⟨⟨rfl, rfl, rfl, rfl, rfl, rfl, rfl⟩, rfl, rfl⟩

theorem effects_expired (c : Client) : Effects c (expired c).2 := by
  unfold expired
  rcases c.session.heartbeatMissed_cases with h | ⟨hs, h⟩ | ⟨hs, h⟩
  · simp only [h]
    exact effects_begin _
  · simp only [h]
    exact .trans (.single (.lose c _ _ (by rw [hs]; rfl) rfl rfl)) (effects_begin _)
  · have hk : c.session.Keeps { c.session with misses := c.session.misses + 1 } :=
      .of_eq rfl rfl rfl
    simp only [h]
    exact .trans (.single (.keep c _ hk rfl)) (effects_send _ _)

/-- **The heartbeat** has its effects. -/
theorem effects_poll (h : Heartbeat) (c : Client) : Effects c (h.poll c).2 := by
  cases h with
  | starting => exact effects_begin c
  | awaitingSession =>
    unfold poll
    simp only
    split
    · refine .trans (.single (.untouched ?_)) (effects_begin _)
      exact ⟨⟨rfl, rfl, rfl, rfl, rfl, rfl, rfl⟩, rfl, rfl⟩
    · exact .refl
  | resting deadline =>
    unfold poll
    simp only
    split
    · exact effects_ask c
    · exact .refl
  | awaitingAnswer deadline =>
    unfold poll
    simp only
    split
    · refine .trans (.single (.untouched ?_)) (effects_begin _)
      exact ⟨⟨rfl, rfl, rfl, rfl, rfl, rfl, rfl⟩, rfl, rfl⟩
    · split
      · exact effects_expired c
      · exact .refl

end Heartbeat

/-! ### Opening and closing -/

namespace Connecting

open Client

theorem moves_begin (c : Client) : Moves c (begin c).2 := by
  unfold begin
  rcases c.session.connectRequest_cases with h | ⟨hs, h⟩
  · simp only [h]
    exact .single (.keep c _ (.refl _) id)
  · simp only [h]
    refine .trans (.tail (.single (.dial c { c.session with status := .connecting } hs rfl))
      (.publish _ (.connecting c.config.gateway) rfl)) ?_
    generalize Client.publish _ _ = b
    have hb : Moves b (b.transmitFrame
        (.connectRequest ⟨c.session.control, c.session.control, .tunnel⟩) c.config.gateway).2 :=
      (b.effects_transmitFrame (by simp [Frame.service]) _).moves
    split <;> rename_i heq <;> rwa [heq] at hb

theorem moves_expired (c : Client) : Moves c (expired c).2 := by
  unfold expired
  have h : Moves c { c with session := c.session.connectExpired } := by
    rcases c.session.connectExpired_cases with h | ⟨hs, h⟩
    · rw [h]
    · rw [h]
      exact .single (.hangUp c _ hs rfl)
  simp only
  split <;> exact h

/-- **A call that opens a session** moves the client. -/
theorem moves_poll (k : Connecting) (c : Client) : Moves c (k.poll c).2 := by
  cases k with
  | start => exact moves_begin c
  | awaiting deadline =>
    unfold poll
    simp only
    split
    · exact Aside.moves ⟨rfl, rfl, rfl, rfl, rfl, rfl, rfl⟩
    · split
      · exact moves_expired c
      · exact .refl

end Connecting

namespace Disconnecting

open Client

theorem moves_begin (c : Client) : Moves c (begin c).2 := by
  unfold begin
  rcases c.session.disconnectRequest_cases with h | ⟨hs, h⟩
  · simp only [h]
    exact .single (.keep c _ (.refl _) id)
  · simp only [h]
    refine .trans (.single (.leave c
      { c.session with status := .disconnecting, outstanding := none }
      (.connection .notConnected) hs rfl)) ?_
    generalize ({ c with session := _, disconnectDone := _, ackDone := _ } : Client) = b
    have hb : Moves b (b.transmitFrame
        (.disconnectRequest ⟨c.session.channel, c.session.control⟩) c.config.gateway).2 :=
      (b.effects_transmitFrame (by simp [Frame.service]) _).moves
    split <;> rename_i heq <;> rwa [heq] at hb

/-- Whether a call that closes a session would now overtake: its wait is over, and somebody
is opening the next session. -/
def overtakes (k : Disconnecting) (c : Client) : Bool :=
  match k with
  | .start => false
  | .awaiting deadline =>
    (c.disconnectDone || decide (deadline ≤ c.now)) && decide (c.session.status = .connecting)

/-- The end of a call that closes a session: it has nothing to do any more, or ends a
session that is announced, or overtakes. -/
theorem conclude_cases {c b : Client} (h : Aside c b) :
    c.session.status ≠ .connecting ∧ Moves c (conclude b) ∨
      c.session.status = .connecting ∧ Overtakes c (conclude b) := by
  have hb : b.session = c.session := h.session
  have hc : conclude b =
      if b.session.status ≠ .disconnected then
        { b with session := b.session.closed }.sessionLost .requested
      else { b with session := b.session.closed } := by
    simp [conclude, Session.forceDisconnected]
  cases hs : c.session.status with
  | disconnected =>
    refine Or.inl ⟨by simp, ?_⟩
    rw [hc, if_neg (by simp [hb, hs])]
    exact h.moves.tail (.keep b _ (.of_eq (by rw [hb, hs]; rfl) rfl rfl) fun _ => rfl)
  | connecting =>
    refine Or.inr ⟨rfl, ?_⟩
    rw [hc, if_pos (by simp [hb, hs])]
    exact .intro _ h hs rfl
  | _ =>
    refine Or.inl ⟨by simp, ?_⟩
    rw [hc, if_pos (by simp [hb, hs])]
    exact h.moves.tail (.lose b _ _ (by rw [hb, hs]; rfl) rfl)

/-- **A call that closes a session** moves the client, unless it overtakes. -/
theorem poll_cases (k : Disconnecting) (c : Client) :
    k.overtakes c = false ∧ Moves c (k.poll c).2 ∨
      k.overtakes c = true ∧ Overtakes c (k.poll c).2 := by
  cases k with
  | start => exact Or.inl ⟨rfl, moves_begin c⟩
  | awaiting deadline =>
    by_cases hd : c.disconnectDone
    · have ha : Aside c { c with disconnectDone := false } := ⟨rfl, rfl, rfl, rfl, rfl, rfl, rfl⟩
      simpa [poll, overtakes, hd] using conclude_cases ha
    · by_cases ht : deadline ≤ c.now
      · simpa [poll, overtakes, hd, ht] using conclude_cases (.refl c)
      · exact Or.inl ⟨by simp [overtakes, hd, ht],
          by simp [poll, hd, ht, Relation.ReflTransGen.refl]⟩

end Disconnecting

namespace Closing

open Client

/-- Whether a call that stops a client would now overtake. -/
def overtakes (k : Closing) (c : Client) : Bool :=
  match k with
  | .start => false
  | .disconnecting stage => stage.overtakes c

theorem moves_conclude (p : Progress (Except Fault Unit) Disconnecting × Client) :
    Moves p.2 (conclude p).2 := by
  obtain ⟨_ | _, c⟩ := p
  · exact Aside.moves ⟨rfl, rfl, rfl, rfl, rfl, rfl, rfl⟩
  · exact .refl

/-- **A call that stops a client** moves it, unless it overtakes. -/
theorem poll_cases (k : Closing) (c : Client) :
    k.overtakes c = false ∧ Moves c (k.poll c).2 ∨
      k.overtakes c = true ∧ ∃ b, Overtakes c b ∧ Moves b (k.poll c).2 := by
  cases k with
  | start =>
    refine Or.inl ⟨rfl, ?_⟩
    unfold poll
    simp only
    split
    · exact (Disconnecting.moves_begin c).trans (moves_conclude _)
    · exact Aside.moves ⟨rfl, rfl, rfl, rfl, rfl, rfl, rfl⟩
  | disconnecting stage =>
    rcases stage.poll_cases c with ⟨ho, h⟩ | ⟨ho, h⟩
    · exact Or.inl ⟨ho, h.trans (moves_conclude _)⟩
    · exact Or.inr ⟨ho, _, h, moves_conclude _⟩

end Closing

end KnxIp
