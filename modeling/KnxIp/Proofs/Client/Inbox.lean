import KnxIp.Client.Driver
import KnxIp.Client.Request
import Mathlib.Tactic.Simps.Basic

/-!
# What waits in the inbox

Only the dispatcher looks at what waits in the socket. Everything else asks the socket one thing,
whether it sends, and leaves it as it is. So it does the same with every socket that sends as
well, whatever waits there: a change of the client is then *steady* (`KnxIp.Client.Steady`), and
an activity with a result *overlooks* the inbox (`KnxIp.Client.Overlooks`).

This module goes through the activities, one lemma for each. To handle a datagram that has been
received is steady too; it is only to receive it that is not.
-/

namespace KnxIp

namespace Client

/-- The client with another socket. -/
@[simps]
def withSocket (c : Client) (s : Socket) : Client := { c with socket := s }

theorem isConnected_withSocket (c : Client) (s : Socket) :
    (c.withSocket s).isConnected = c.isConnected := by
  simp only [isConnected, withSocket_session]

theorem isGateway_withSocket (c : Client) (s : Socket) (peer : Endpoint) :
    (c.withSocket s).isGateway peer = c.isGateway peer := by
  simp only [isGateway, withSocket_config, withSocket_dataEndpoint]

/-- **A change that does the same with every socket** that sends as well, and leaves it as it
is. -/
def Steady (f : Client → Client) : Prop :=
  ∀ ⦃c s⦄, s.sendFault? = c.socket.sendFault? → f (c.withSocket s) = (f c).withSocket s

/-- **An activity that does the same with every socket** that sends as well, has the same result,
and leaves the socket as it is. -/
def Overlooks {α : Type} (f : Client → α × Client) : Prop :=
  ∀ ⦃c s⦄, s.sendFault? = c.socket.sendFault? →
    f (c.withSocket s) = ((f c).1, (f c).2.withSocket s)

section Composition

variable {α β : Type} {c : Client} {s : Socket}

theorem Steady.socket_eq {f : Client → Client} (h : Steady f) (c : Client) :
    (f c).socket = c.socket := by
  have heq : f c = (f c).withSocket c.socket := h (c := c) (s := c.socket) rfl
  rw [heq]
  rfl

theorem Overlooks.socket_eq {f : Client → α × Client} (h : Overlooks f) (c : Client) :
    (f c).2.socket = c.socket := by
  have heq : f c = ((f c).1, (f c).2.withSocket c.socket) := h (c := c) (s := c.socket) rfl
  rw [heq]
  rfl

theorem Steady.comp {f g : Client → Client} (hg : Steady g) (hf : Steady f) :
    Steady fun c => g (f c) := by
  intro c s hs
  have hs' : s.sendFault? = (f c).socket.sendFault? := by rw [hf.socket_eq, hs]
  simp only [hf hs, hg hs']

theorem Steady.foldl {f : Client → α → Client} (h : ∀ a, Steady (f · a)) (xs : List α) :
    Steady fun c => xs.foldl f c := by
  induction xs with
  | nil => exact fun _ _ _ => rfl
  | cons a xs ih => exact ih.comp (h a)

/-- What an activity leaves is a client that another can go on with. -/
theorem Overlooks.elim {f : Client → α × Client} (h : Overlooks f)
    (hs : s.sendFault? = c.socket.sendFault?) :
    ∃ a c', f c = (a, c') ∧ f (c.withSocket s) = (a, c'.withSocket s) ∧
      s.sendFault? = c'.socket.sendFault? :=
  ⟨_, _, rfl, h hs, by rw [h.socket_eq, hs]⟩

theorem Overlooks.snd {f : Client → α × Client} (h : Overlooks f) : Steady fun c => (f c).2 :=
  fun _ _ hs => congrArg Prod.snd (h hs)

theorem Overlooks.map {f : Client → α × Client} (h : Overlooks f) (g : α → β) :
    Overlooks fun c => (f c).map g id := by
  intro c s hs
  simp only [h hs, Prod.map, id]

end Composition

/-! ### What every activity does -/

theorem steady_publishFault (f : Fault) : Steady (·.publishFault f) := fun _ _ _ => rfl

theorem steady_completeSlot (id : SlotId) (result : Except Fault Unit) :
    Steady (·.completeSlot id result) := by
  intro c s _
  simp only [completeSlot, withSocket_slots]
  cases c.slots[id] <;> rfl

theorem steady_releaseSlot (id : SlotId) : Steady (·.releaseSlot id) := by
  intro c s _
  simp only [releaseSlot, withSocket_slots]
  cases c.slots[id] <;> rfl

theorem steady_dropJob (job : Job) : Steady (·.dropJob job) := by
  intro c s hs
  obtain ⟨message, slot⟩ := job
  cases slot with
  | some id => exact steady_completeSlot id (.error lost) hs
  | none => rfl

theorem steady_sessionLost (reason : EndReason) : Steady (·.sessionLost reason) := by
  intro c s hs
  have h := Steady.foldl steady_dropJob c.queue.toList
    (c := { c with
      ackDone := some (.error lost)
      confirmation := some (.error lost)
      heartbeatDone := some (.error lost)
      disconnectDone := true }) (s := s) hs
  exact congrArg (fun c : Client => { c with queue := .empty }.publish (.disconnected reason)) h

theorem steady_transportFailed (f : Fault) : Steady (·.transportFailed f) := by
  intro c s hs
  simp only [transportFailed, withSocket_session]
  cases c.session.status with
  | disconnected | connecting => rfl
  | _ =>
    exact steady_sessionLost .transportError
      (c := { c.publishFault f with session := c.session.closed }) hs

theorem overlooks_transmit (d : Datagram) : Overlooks (·.transmit d) := by
  intro c s hs
  have hfault : (c.withSocket s).socket.sendFault? = c.socket.sendFault? := hs
  simp only [transmit, hfault]
  cases c.socket.sendFault? with
  | some f => simp only [steady_transportFailed f hs]
  | none => rfl

theorem overlooks_transmitFrame (f : Frame) (peer : Endpoint) :
    Overlooks (·.transmitFrame f peer) :=
  overlooks_transmit ⟨f.octets, peer⟩

/-! ### What a datagram does -/

theorem steady_route (t : Telegram) : Steady (·.route t) := by
  intro c s _
  simp only [route]
  cases t.apci with
  | none => rfl
  | some apci => cases t.destination <;> cases apci.groupService? <;> rfl

theorem steady_onMessage (message : Except Fault Cemi) : Steady (·.onMessage message) := by
  intro c s hs
  cases message with
  | error f => rfl
  | ok m =>
    simp only [onMessage]
    cases m.code with
    | indication => exact steady_route m.telegram hs
    | _ => rfl

theorem steady_onConnectResponse (b : ConnectResponse) : Steady (·.onConnectResponse b) := by
  intro c s _
  simp only [onConnectResponse, withSocket_session, withSocket_now]
  obtain ⟨result, session⟩ := c.session.onConnectResponse b c.now
  cases result with
  | ok channel => rfl
  | error f =>
    simp only
    split <;> rfl

theorem steady_onHeartbeatResponse (b : ChannelResponse) : Steady (·.onHeartbeatResponse b) := by
  intro c s hs
  simp only [onHeartbeatResponse, withSocket_session, withSocket_now]
  obtain ⟨result, session⟩ := c.session.onHeartbeatResponse b c.now
  cases result with
  | ok _ => rfl
  | error f =>
    simp only
    split
    · rfl
    · exact steady_sessionLost .heartbeatLost (c := { c with session := session }) hs

theorem steady_onDisconnectRequest (b : ChannelRequest) : Steady (·.onDisconnectRequest b) := by
  intro c s hs
  simp only [onDisconnectRequest, withSocket_session]
  obtain ⟨result, session⟩ := c.session.onDisconnectRequest b
  cases result with
  | ok response =>
    exact ((steady_sessionLost .gatewayRequest).comp
      (overlooks_transmitFrame (.disconnectResponse response) c.config.gateway).snd)
        (c := { c with session := session }) hs
  | error f => rfl

theorem steady_onDisconnectResponse (b : ChannelResponse) : Steady (·.onDisconnectResponse b) := by
  intro c s hs
  simp only [onDisconnectResponse, withSocket_session]
  obtain ⟨result, session⟩ := c.session.onDisconnectResponse b
  cases result with
  | ok _ => exact steady_sessionLost .requested (c := { c with session := session }) hs
  | error f => rfl

theorem steady_onTunnelingAck (b : TunnelingAck) : Steady (·.onTunnelingAck b) := by
  intro c s _
  simp only [onTunnelingAck, withSocket_session, withSocket_now]
  obtain ⟨result, session⟩ := c.session.onTunnelingAck b c.now
  cases result with
  | ok _ => rfl
  | error f =>
    simp only
    split <;> rfl

theorem steady_onTunnelingRequest (b : TunnelingRequest) : Steady (·.onTunnelingRequest b) := by
  intro c s hs
  simp only [onTunnelingRequest, withSocket_session, withSocket_now]
  obtain ⟨result, session⟩ := c.session.onTunnelingRequest b c.now
  cases result with
  | ok ack =>
    exact ((steady_onMessage b.cemi).comp
      (overlooks_transmitFrame (.tunnelingAck ack) c.dataEndpoint).snd)
        (c := { c with session := session }) hs
  | error f => rfl

theorem steady_onFrame (f : Frame) : Steady (·.onFrame f) := by
  cases f with
  | connectResponse b => exact steady_onConnectResponse b
  | connectionStateResponse b => exact steady_onHeartbeatResponse b
  | disconnectRequest b => exact steady_onDisconnectRequest b
  | disconnectResponse b => exact steady_onDisconnectResponse b
  | tunnelingRequest b => exact steady_onTunnelingRequest b
  | tunnelingAck b => exact steady_onTunnelingAck b
  | connectRequest b | connectionStateRequest b => exact fun _ _ _ => rfl

/-- **To handle a datagram** is steady. -/
theorem steady_onDatagram (d : Datagram) : Steady (·.onDatagram d) := by
  intro c s hs
  simp only [onDatagram, isGateway_withSocket]
  split
  · cases Frame.decode d.octets.toList with
    | ok frame => exact steady_onFrame frame hs
    | error f => rfl
  · rfl

end Client

open Client

/-! ### The heartbeat -/

namespace Heartbeat

theorem overlooks_begin : Overlooks begin := by
  intro c s _
  simp only [begin, isConnected_withSocket]
  cases c.isConnected <;> rfl

theorem overlooks_send (request : ChannelRequest) : Overlooks (send request) := by
  intro c s hs
  obtain ⟨result, c', h, h', hs'⟩ :=
    (overlooks_transmitFrame (.connectionStateRequest request) c.config.gateway).elim hs
  simp only [send, withSocket_config, h, h']
  cases result with
  | ok _ => rfl
  | error f => exact overlooks_begin hs'

theorem overlooks_ask : Overlooks ask := by
  intro c s hs
  simp only [ask, withSocket_session]
  obtain ⟨result, session⟩ := c.session.heartbeatRequest
  cases result with
  | ok request =>
    exact overlooks_send request
      (c := { c with session := session, heartbeatDone := none }) hs
  | error f => exact overlooks_begin (c := { c with session := session }) hs

theorem overlooks_expired : Overlooks expired := by
  intro c s hs
  simp only [expired, withSocket_session]
  obtain ⟨result, session⟩ := c.session.heartbeatMissed
  let c' : Client := { c with session := session }
  cases result with
  | retry request => exact overlooks_send request (c := c') hs
  | lost =>
    have hlost := steady_sessionLost .heartbeatLost (c := c') hs
    have hs' : s.sendFault? = (c'.sessionLost .heartbeatLost).socket.sendFault? := by
      rw [(steady_sessionLost .heartbeatLost).socket_eq c']
      exact hs
    exact (congrArg begin hlost).trans (overlooks_begin hs')
  | stale => exact overlooks_begin (c := c') hs

theorem overlooks_poll (h : Heartbeat) : Overlooks h.poll := by
  intro c s hs
  cases h with
  | starting => exact overlooks_begin hs
  | awaitingSession =>
    simp only [poll, withSocket_sessionUp]
    split
    · exact overlooks_begin (c := { c with sessionUp := false }) hs
    · rfl
  | resting deadline =>
    simp only [poll, withSocket_now]
    split
    · exact overlooks_ask hs
    · rfl
  | awaitingAnswer deadline =>
    simp only [poll, withSocket_heartbeatDone, withSocket_now]
    cases c.heartbeatDone with
    | some result => exact overlooks_begin (c := { c with heartbeatDone := none }) hs
    | none =>
      simp only
      split
      · exact overlooks_expired hs
      · rfl

end Heartbeat

/-! ### The sender -/

namespace Transfer

theorem overlooks_sendCopy (copy : Datagram) (attempt : Nat) :
    Overlooks (sendCopy copy attempt) := by
  intro c s hs
  obtain ⟨result, c', h, h', -⟩ := (overlooks_transmit copy).elim hs
  simp only [sendCopy, h, h']
  cases result <;> rfl

theorem overlooks_begin (message : Cemi) : Overlooks (begin message) := by
  intro c s hs
  simp only [begin, withSocket_session]
  obtain ⟨result, session⟩ := c.session.tunnelingRequest message
  cases result with
  | ok request =>
    exact overlooks_sendCopy ⟨(Frame.tunnelingRequest request).octets, c.dataEndpoint⟩ 0
      (c := { c with session := session, ackDone := none, confirmation := none }) hs
  | error f => rfl

theorem overlooks_acknowledged : Overlooks acknowledged := by
  intro c s _
  simp only [acknowledged, withSocket_config, withSocket_confirmation]
  cases c.config.awaitConfirmation <;> cases c.confirmation <;> rfl

theorem overlooks_ackExpired (copy : Datagram) (attempt : Nat) :
    Overlooks (ackExpired copy attempt) := by
  intro c s hs
  simp only [ackExpired, withSocket_config]
  split
  · exact overlooks_sendCopy copy (attempt + 1) hs
  · rfl

theorem overlooks_poll (t : Transfer) : Overlooks t.poll := by
  intro c s hs
  cases t with
  | awaitingAck copy attempt deadline =>
    simp only [poll, withSocket_ackDone, withSocket_now]
    cases c.ackDone with
    | some result =>
      cases result with
      | ok _ => exact overlooks_acknowledged (c := { c with ackDone := none }) hs
      | error f => rfl
    | none =>
      simp only
      split
      · exact overlooks_ackExpired copy attempt hs
      · rfl
  | awaitingConfirmation deadline =>
    simp only [poll, withSocket_confirmation, withSocket_now]
    cases c.confirmation with
    | some result => rfl
    | none =>
      simp only
      split <;> rfl

end Transfer

namespace Sender

theorem overlooks_finish (job : Job) (result : Except Fault Unit) :
    Overlooks (finish job result) := by
  intro c s hs
  simp only [finish]
  cases job.slot with
  | some id =>
    exact congrArg (fun c : Client => (resting (c.now + c.config.sendQueueInterval), c))
      (steady_completeSlot id result hs)
  | none => cases result <;> rfl

theorem overlooks_follow {f : Client → Progress (Except Fault Unit) Transfer × Client}
    (h : Overlooks f) (job : Job) : Overlooks fun c => follow job (f c) := by
  intro c s hs
  obtain ⟨p, c', h, h', hs'⟩ := h.elim hs
  simp only [h, h']
  cases p with
  | waiting transfer => rfl
  | done result => exact overlooks_finish job result hs'

theorem overlooks_takeJob : Overlooks takeJob := by
  intro c s hs
  simp only [takeJob, withSocket_queue]
  cases c.queue.pop? with
  | none => rfl
  | some r =>
    exact overlooks_follow (Transfer.overlooks_begin r.1.message) r.1
      (c := { c with queue := r.2 }) hs

theorem overlooks_poll (k : Sender) : Overlooks k.poll := by
  intro c s hs
  cases k with
  | idle => exact overlooks_takeJob hs
  | delivering job transfer => exact overlooks_follow transfer.overlooks_poll job hs
  | resting deadline =>
    simp only [poll, withSocket_now]
    split
    · exact overlooks_takeJob hs
    · rfl

theorem steady_cancel (k : Sender) : Steady k.cancel := by
  intro c s hs
  unfold cancel
  cases k.job? with
  | none => rfl
  | some job => exact steady_dropJob job (c := { c with session := c.session.abandonRequest }) hs

end Sender

/-! ### Opening and closing a session -/

namespace Connecting

theorem overlooks_begin : Overlooks begin := by
  intro c s hs
  simp only [begin, withSocket_session]
  obtain ⟨result, session⟩ := c.session.connectRequest
  cases result with
  | error f => rfl
  | ok request =>
    let c₁ := { c with session := session, connectDone := none, dataEndpoint := c.config.gateway }
    obtain ⟨result, c', h, h', -⟩ :=
      (overlooks_transmitFrame (.connectRequest request) c.config.gateway).elim
        (c := c₁.publish (.connecting c.config.gateway)) hs
    simp only [c₁, withSocket, publish] at h h' ⊢
    rw [h, h']
    cases result <;> rfl

theorem overlooks_poll (k : Connecting) : Overlooks k.poll := by
  intro c s hs
  cases k with
  | start => exact overlooks_begin hs
  | awaiting deadline =>
    simp only [poll, withSocket_connectDone, withSocket_now]
    cases c.connectDone with
    | some result => rfl
    | none =>
      simp only [expired, withSocket_session]
      cases c.session.connectExpired.openChannel? <;> split <;> rfl

end Connecting

namespace Disconnecting

theorem overlooks_begin : Overlooks begin := by
  intro c s hs
  simp only [begin, withSocket_session]
  obtain ⟨result, session⟩ := c.session.disconnectRequest
  cases result with
  | error f => rfl
  | ok request =>
    let c₁ : Client :=
      { c with
        session := session
        disconnectDone := false
        ackDone := some (.error (.connection .notConnected)) }
    obtain ⟨result, c', h, h', -⟩ :=
      (overlooks_transmitFrame (.disconnectRequest request) c.config.gateway).elim (c := c₁) hs
    simp only [c₁, withSocket] at h h' ⊢
    rw [h, h']
    cases result <;> rfl

theorem steady_conclude : Steady conclude := by
  intro c s hs
  simp only [conclude, withSocket_session]
  split
  · exact steady_sessionLost .requested
      (c := { c with session := c.session.forceDisconnected.2 }) hs
  · rfl

theorem overlooks_poll (k : Disconnecting) : Overlooks k.poll := by
  intro c s hs
  cases k with
  | start => exact overlooks_begin hs
  | awaiting deadline =>
    simp only [poll, withSocket_disconnectDone, withSocket_now]
    split
    · exact congrArg (Prod.mk _) (steady_conclude (c := { c with disconnectDone := false }) hs)
    · split
      · exact congrArg (Prod.mk _) (steady_conclude hs)
      · rfl

end Disconnecting

namespace Closing

theorem overlooks_conclude {f : Client → Progress (Except Fault Unit) Disconnecting × Client}
    (h : Overlooks f) : Overlooks fun c => conclude (f c) := by
  intro c s hs
  obtain ⟨p, c', h, h', -⟩ := h.elim hs
  simp only [h, h']
  cases p <;> rfl

theorem overlooks_poll (k : Closing) : Overlooks k.poll := by
  intro c s hs
  cases k with
  | start =>
    simp only [poll, isConnected_withSocket]
    split
    · exact overlooks_conclude (Disconnecting.overlooks_poll .start) hs
    · rfl
  | disconnecting stage => exact overlooks_conclude stage.overlooks_poll hs

end Closing

/-! ### Requests of the application -/

namespace Sending

theorem overlooks_enter (message : Cemi) (slot : SlotId) : Overlooks (enter message slot) := by
  intro c s _
  simp only [enter, withSocket_queue]
  cases c.queue.push? ⟨message, some slot⟩ <;> rfl

theorem overlooks_poll (k : Sending) : Overlooks k.poll := by
  intro c s hs
  cases k with
  | start message =>
    simp only [poll, begin, claimSlot?, isConnected_withSocket, withSocket_slots]
    split
    · cases c.slots.findFinIdx? fun slot => slot = .free with
      | none => rfl
      | some slot => exact overlooks_enter message slot (c := c.setSlot slot .waiting) hs
    · rfl
  | queueing message slot => exact overlooks_enter message slot hs
  | awaiting slot =>
    simp only [poll, withSocket_slots]
    cases c.slots[slot] <;> rfl

theorem steady_cancel (k : Sending) : Steady k.cancel := by
  intro c s hs
  cases k with
  | start message => rfl
  | queueing message slot => rfl
  | awaiting slot => exact steady_releaseSlot slot hs

end Sending

namespace Queueing

theorem overlooks_enter (message : Cemi) : Overlooks (enter message) := by
  intro c s _
  simp only [enter, withSocket_queue]
  cases c.queue.push? ⟨message, none⟩ <;> rfl

theorem overlooks_poll (k : Queueing) : Overlooks k.poll := by
  intro c s hs
  cases k with
  | start message =>
    simp only [poll, isConnected_withSocket]
    split
    · exact overlooks_enter message hs
    · rfl
  | queueing message => exact overlooks_enter message hs

end Queueing

namespace Reading

theorem overlooks_delivered {f : Client → Progress (Except Fault Unit) Sending × Client}
    (h : Overlooks f) (read : ReadId) : Overlooks fun c => delivered read (f c) := by
  intro c s hs
  obtain ⟨p, c', h, h', -⟩ := h.elim hs
  simp only [h, h']
  cases p with
  | waiting question => rfl
  | done result =>
    cases result with
    | error f => rfl
    | ok _ =>
      simp only [delivered, await, withSocket_registry]
      cases c'.registry.answer? read <;> rfl

theorem overlooks_poll (k : Reading) : Overlooks k.poll := by
  intro c s hs
  cases k with
  | start address =>
    simp only [poll, withSocket_registry]
    cases c.registry.beginRead address with
    | error f => rfl
    | ok r =>
      exact overlooks_delivered
        (Sending.overlooks_poll (.start (.groupRead c.config.individualAddress address))) r.1
        (c := { c with registry := r.2 }) hs
  | sending read question => exact overlooks_delivered question.overlooks_poll read hs
  | awaiting read deadline =>
    simp only [poll, await, withSocket_registry, withSocket_now]
    cases c.registry.answer? read with
    | some data => rfl
    | none =>
      simp only [Option.map_none, Option.getD_none]
      split <;> rfl

theorem steady_cancel (k : Reading) : Steady k.cancel := by
  intro c s hs
  cases k with
  | start address => rfl
  | sending read question =>
    exact congrArg (fun c : Client => { c with registry := c.registry.endRead read })
      (question.steady_cancel hs)
  | awaiting read deadline => rfl

end Reading

namespace Writing

theorem overlooks_queued {f : Client → Progress (Except Fault Unit) Queueing × Client}
    (h : Overlooks f) (p : Point) (v : Value) : Overlooks fun c => queued p v (f c) := by
  intro c s hs
  obtain ⟨progress, c', h, h', -⟩ := h.elim hs
  simp only [h, h']
  rcases progress with (_ | _) | _ <;> rfl

theorem overlooks_poll (p : Point) (k : Writing) : Overlooks (k.poll p) := by
  intro c s hs
  cases k with
  | start setting =>
    have hvalue : valueOf p setting (c.withSocket s) = valueOf p setting c := by
      cases setting <;> rfl
    simp only [poll, hvalue]
    cases p.dpt.encode (valueOf p setting c) with
    | error f => rfl
    | ok data =>
      exact overlooks_queued
        (Queueing.overlooks_poll (.start (.groupWrite c.config.individualAddress p.address data)))
        p (valueOf p setting c) hs
  | queueing v request => exact overlooks_queued request.overlooks_poll p v hs

end Writing

namespace Updating

theorem overlooks_poll (p : Point) (k : Updating) : Overlooks (k.poll p) := by
  intro c s _
  cases k with
  | start => rfl
  | awaiting =>
    simp only [poll, withSocket_registry]
    cases c.registry.takeUpdate? p.binding <;> rfl

end Updating

/-! ### Calls -/

namespace Call

/-- **To run a call** overlooks the inbox. -/
theorem overlooks_poll (k : Call) : Overlooks k.poll := by
  cases k with
  | connect stage => exact stage.overlooks_poll.map _
  | disconnect stage => exact stage.overlooks_poll.map _
  | close stage => exact stage.overlooks_poll.map _
  | send stage => exact stage.overlooks_poll.map _
  | enqueue stage => exact stage.overlooks_poll.map _
  | refused f => exact fun _ _ _ => rfl
  | read form stage => exact stage.overlooks_poll.map _
  | write p stage => exact (stage.overlooks_poll p).map _
  | update p asNumber stage => exact (stage.overlooks_poll p).map _

/-- **To stop a call** is steady. -/
theorem steady_cancel (k : Call) : Steady k.cancel := by
  cases k with
  | send stage => exact stage.steady_cancel
  | read form stage => exact stage.steady_cancel
  | _ => exact fun _ _ _ => rfl

end Call

end KnxIp
