import KnxIp.Client.Driver
import KnxIp.Client.Request
import KnxIp.Proofs.Client.Slots
import KnxIp.Proofs.Registry.Usage

/-!
# What a client hears

A telegram for a group that comes from the bus goes to the registry and is published. So what has
been heard can be told from what was published (`KnxIp.Client.heard`), and the registry and the
telegrams heard together are the *hearing* of a client.

This module goes through the activities. The dispatcher hears one telegram after the other
(`KnxIp.Client.Listens`); of everything else, only the calls that use the registry change the
hearing, and they do nothing but use the registry. For the rest there is one lemma for each
activity, that it leaves the hearing as it was.

## Main statements

* `KnxIp.Dispatcher.listens_poll`: whatever datagrams are received, the registry is told of just
  those telegrams that are published.
-/

namespace KnxIp

open Registry

/-- The telegram for a group that an output tells of. -/
def Output.news? : Output → Option News
  | .event (.bus e) =>
    match e.destination, e.apci.groupService? with
    | .group address, some service => some ⟨service, address, e.data⟩
    | _, _ => none
  | _ => none

namespace Client

/-- **The telegrams for groups that a client has heard**, the oldest first. -/
def heard (c : Client) : List News := c.outbox.filterMap Output.news?

/-- **What a client has from the bus.** -/
def hearing (c : Client) : Registry × List News := (c.registry, c.heard)

variable {c c' : Client}

/-- An output that does not tell of a telegram for a group. -/
theorem hearing_output (c : Client) {o : Output} (ho : o.news? = none) :
    hearing { c with outbox := c.outbox ++ [o] } = c.hearing := by
  simp only [hearing, heard, List.filterMap_append]
  simp [ho]

theorem hearing_publish (c : Client) {e : Event} (he : Output.news? (.event e) = none) :
    (c.publish e).hearing = c.hearing := c.hearing_output he

theorem hearing_publishFault (c : Client) (f : Fault) : (c.publishFault f).hearing = c.hearing :=
  c.hearing_publish rfl

/-! ### What every activity does -/

theorem hearing_completeSlot (c : Client) (id : SlotId) (result : Except Fault Unit) :
    (c.completeSlot id result).hearing = c.hearing := by
  rw [completeSlot_eq]
  rfl

theorem hearing_releaseSlot (c : Client) (id : SlotId) :
    (c.releaseSlot id).hearing = c.hearing := by
  unfold releaseSlot
  cases c.slots[id] <;> rfl

theorem hearing_dropJob (c : Client) (job : Job) : (c.dropJob job).hearing = c.hearing := by
  rw [dropJob_eq]
  rfl

theorem hearing_sessionLost (c : Client) (reason : EndReason) :
    (c.sessionLost reason).hearing = c.hearing := by
  rw [sessionLost_eq]
  exact c.hearing_output rfl

theorem hearing_transportFailed (c : Client) (f : Fault) :
    (c.transportFailed f).hearing = c.hearing := by
  have hfault : hearing { c.publishFault f with session := c.session.closed } = c.hearing :=
    c.hearing_publishFault f
  unfold transportFailed
  cases c.session.status with
  | disconnected | connecting => exact hfault
  | _ => exact (hearing_sessionLost _ _).trans hfault

theorem hearing_transmit (c : Client) (d : Datagram) :
    (c.transmit d).2.hearing = c.hearing := by
  unfold transmit
  cases c.socket.sendFault? with
  | some f => exact c.hearing_transportFailed f
  | none => exact c.hearing_output rfl

theorem hearing_transmitFrame (c : Client) (f : Frame) (peer : Endpoint) :
    (c.transmitFrame f peer).2.hearing = c.hearing := c.hearing_transmit _

/-! ### What is heard -/

/-- A registry, and what has been heard, after another telegram. -/
def hear (x : Registry × List News) (t : News) : Registry × List News :=
  ((x.1.onTelegram t.service t.address t.data).2, x.2 ++ [t])

/-- **What a client hears in between**: one telegram after the other. -/
def Listens (c c' : Client) : Prop := ∃ ts : List News, c'.hearing = ts.foldl hear c.hearing

theorem Listens.of_eq (h : c'.hearing = c.hearing) : c.Listens c' := ⟨[], h⟩

theorem Listens.trans {c'' : Client} (h : c.Listens c') (h' : c'.Listens c'') : c.Listens c'' := by
  obtain ⟨ts, hts⟩ := h
  obtain ⟨ts', hts'⟩ := h'
  exact ⟨ts ++ ts', by rw [List.foldl_append, ← hts, hts']⟩

/-- **What every telegram preserves** is so after all that a client hears in between. -/
theorem Listens.induction {P : Registry × List News → Prop} (h : c.Listens c')
    (step : ∀ x t, P x → P (hear x t)) (init : P c.hearing) : P c'.hearing := by
  obtain ⟨ts, hts⟩ := h
  rw [hts]
  clear hts
  generalize c.hearing = x at init ⊢
  induction ts generalizing x with
  | nil => exact init
  | cons t ts ih => exact ih _ (step x t init)

/-- A telegram for a group is heard, and others are not. -/
theorem listens_route (c : Client) (t : Telegram) : c.Listens (c.route t) := by
  unfold route
  cases t.apci with
  | none => exact .of_eq rfl
  | some apci =>
    simp only
    cases hd : t.destination with
    | individual address => exact .of_eq (c.hearing_publish rfl)
    | group address =>
      cases hs : apci.groupService? with
      | none => exact .of_eq (c.hearing_publish (by simp only [Output.news?, hs]))
      | some service =>
        refine ⟨[⟨service, address, t.data⟩], ?_⟩
        simp only [hearing, heard, publish, List.filterMap_append, List.foldl_cons, List.foldl_nil,
          hear]
        simp [Output.news?, hs]

theorem listens_onMessage (c : Client) (message : Except Fault Cemi) :
    c.Listens (c.onMessage message) := by
  unfold onMessage
  cases message with
  | error f => exact .of_eq (c.hearing_publishFault f)
  | ok m =>
    simp only
    cases m.code with
    | indication => exact c.listens_route m.telegram
    | request | confirmation => exact .of_eq rfl

theorem hearing_onConnectResponse (c : Client) (b : ConnectResponse) :
    (c.onConnectResponse b).hearing = c.hearing := by
  unfold onConnectResponse
  obtain ⟨result, session⟩ := c.session.onConnectResponse b c.now
  cases result with
  | ok channel => exact c.hearing_output rfl
  | error f =>
    simp only
    split <;> rfl

theorem hearing_onHeartbeatResponse (c : Client) (b : ChannelResponse) :
    (c.onHeartbeatResponse b).hearing = c.hearing := by
  unfold onHeartbeatResponse
  obtain ⟨result, session⟩ := c.session.onHeartbeatResponse b c.now
  cases result with
  | ok _ => rfl
  | error f =>
    simp only
    split
    · rfl
    · exact hearing_sessionLost _ _

theorem hearing_onDisconnectRequest (c : Client) (b : ChannelRequest) :
    (c.onDisconnectRequest b).hearing = c.hearing := by
  unfold onDisconnectRequest
  obtain ⟨result, session⟩ := c.session.onDisconnectRequest b
  cases result with
  | ok response => exact (hearing_sessionLost _ _).trans (hearing_transmitFrame _ _ _)
  | error f => rfl

theorem hearing_onDisconnectResponse (c : Client) (b : ChannelResponse) :
    (c.onDisconnectResponse b).hearing = c.hearing := by
  unfold onDisconnectResponse
  obtain ⟨result, session⟩ := c.session.onDisconnectResponse b
  cases result with
  | ok _ => exact hearing_sessionLost _ _
  | error f => rfl

theorem hearing_onTunnelingAck (c : Client) (b : TunnelingAck) :
    (c.onTunnelingAck b).hearing = c.hearing := by
  unfold onTunnelingAck
  obtain ⟨result, session⟩ := c.session.onTunnelingAck b c.now
  cases result with
  | ok _ => rfl
  | error f =>
    simp only
    split
    · rfl
    · exact hearing_publishFault _ _

theorem listens_onTunnelingRequest (c : Client) (b : TunnelingRequest) :
    c.Listens (c.onTunnelingRequest b) := by
  unfold onTunnelingRequest
  obtain ⟨result, session⟩ := c.session.onTunnelingRequest b c.now
  cases result with
  | ok ack =>
    let c₁ := { c with session := session }
    have hsent : c.Listens (c₁.transmitFrame (.tunnelingAck ack) c.dataEndpoint).2 :=
      .of_eq (c₁.hearing_transmitFrame _ _)
    exact hsent.trans (listens_onMessage _ _)
  | error f => exact .of_eq rfl

/-- **Whatever datagram comes**, what is published of it is what the registry is told. -/
theorem listens_onDatagram (c : Client) (d : Datagram) : c.Listens (c.onDatagram d) := by
  unfold onDatagram
  split
  · cases Frame.decode d.octets.toList with
    | error f => exact .of_eq (c.hearing_publishFault f)
    | ok frame =>
      cases frame with
      | connectResponse b => exact .of_eq (c.hearing_onConnectResponse b)
      | connectionStateResponse b => exact .of_eq (c.hearing_onHeartbeatResponse b)
      | disconnectRequest b => exact .of_eq (c.hearing_onDisconnectRequest b)
      | disconnectResponse b => exact .of_eq (c.hearing_onDisconnectResponse b)
      | tunnelingRequest b => exact c.listens_onTunnelingRequest b
      | tunnelingAck b => exact .of_eq (c.hearing_onTunnelingAck b)
      | connectRequest b | connectionStateRequest b => exact .of_eq rfl
  · exact .of_eq rfl

end Client

open Client

variable (c : Client)

/-! ### The driver -/

namespace Dispatcher

theorem listens_receive (attempts : Nat) (c : Client) : c.Listens (receive c attempts).2 := by
  -- Each attempt begins with the client as the one before it has left it.
  induction attempts generalizing c with
  | zero => exact .of_eq rfl
  | succ attempts ih =>
    unfold receive
    cases c.socket.receive? with
    | none => exact .of_eq rfl
    | some r =>
      obtain ⟨f | d, socket⟩ := r
      · simp only
        split
        · exact .trans (.of_eq (hearing_publishFault _ _)) (ih _)
        · exact .of_eq (hearing_transportFailed _ _)
      · have hreceived : c.Listens ({ c with socket := socket }.onDatagram d) :=
          listens_onDatagram { c with socket := socket } d
        exact hreceived.trans (ih _)

theorem listens_poll (k : Dispatcher) : c.Listens (k.poll c).2 := by
  cases k with
  | receiving => exact listens_receive _ c
  | resting deadline =>
    unfold poll
    simp only
    split
    · exact listens_receive _ c
    · exact .of_eq rfl

end Dispatcher

namespace Heartbeat

theorem hearing_begin : (begin c).2.hearing = c.hearing := by
  unfold begin
  split <;> rfl

theorem hearing_send (request : ChannelRequest) :
    (send request c).2.hearing = c.hearing := by
  have hsent := c.hearing_transmitFrame (.connectionStateRequest request) c.config.gateway
  unfold send
  rcases h : c.transmitFrame (.connectionStateRequest request) c.config.gateway with ⟨_ | _, c'⟩ <;>
    rw [h] at hsent
  · exact (hearing_begin c').trans hsent
  · exact hsent

theorem hearing_poll (k : Heartbeat) : (k.poll c).2.hearing = c.hearing := by
  cases k with
  | starting => exact hearing_begin c
  | awaitingSession =>
    unfold poll
    simp only
    split
    · exact hearing_begin _
    · rfl
  | resting deadline =>
    unfold poll ask
    simp only
    split
    · rcases c.session.heartbeatRequest with ⟨_ | _, session⟩
      · exact hearing_begin _
      · exact hearing_send _ _
    · rfl
  | awaitingAnswer deadline =>
    unfold poll expired
    simp only
    split
    · exact hearing_begin _
    · split
      · rcases c.session.heartbeatMissed with ⟨_ | _ | _, session⟩
        · exact hearing_send _ _
        · exact (hearing_begin _).trans (hearing_sessionLost _ _)
        · exact hearing_begin _
      · rfl

end Heartbeat

namespace Transfer

theorem hearing_sendCopy (copy : Datagram) (attempt : Nat) :
    (sendCopy copy attempt c).2.hearing = c.hearing := by
  have hsent := c.hearing_transmit copy
  unfold sendCopy
  rcases h : c.transmit copy with ⟨_ | _, c'⟩ <;> rw [h] at hsent <;> exact hsent

theorem hearing_begin (message : Cemi) : (begin message c).2.hearing = c.hearing := by
  unfold begin
  rcases c.session.tunnelingRequest message with ⟨_ | _, session⟩
  · rfl
  · exact hearing_sendCopy _ _ _

theorem hearing_acknowledged : (acknowledged c).2.hearing = c.hearing := by
  unfold acknowledged
  split
  · split <;> rfl
  · rfl

theorem hearing_poll (t : Transfer) : (t.poll c).2.hearing = c.hearing := by
  cases t with
  | awaitingAck copy attempt deadline =>
    unfold poll ackExpired
    simp only
    split
    · exact hearing_acknowledged _
    · rfl
    · split
      · split
        · exact hearing_sendCopy _ _ _
        · rfl
      · rfl
  | awaitingConfirmation deadline =>
    unfold poll
    simp only
    split
    · rfl
    · split <;> rfl

end Transfer

namespace Sender

theorem hearing_finish (job : Job) (result : Except Fault Unit) :
    (finish job result c).2.hearing = c.hearing := by
  unfold finish
  simp only
  split
  · exact hearing_completeSlot _ _ _
  · exact hearing_publishFault _ _
  · rfl

theorem hearing_follow (job : Job) (p : Progress (Except Fault Unit) Transfer × Client) :
    (follow job p).2.hearing = p.2.hearing := by
  rcases p with ⟨result | transfer, c'⟩
  · exact hearing_finish c' job result
  · rfl

theorem hearing_takeJob : (takeJob c).2.hearing = c.hearing := by
  unfold takeJob
  cases c.queue.pop? with
  | none => rfl
  | some r => exact (hearing_follow _ _).trans (Transfer.hearing_begin _ _)

theorem hearing_poll (k : Sender) : (k.poll c).2.hearing = c.hearing := by
  cases k with
  | idle => exact hearing_takeJob c
  | delivering job transfer => exact (hearing_follow _ _).trans (transfer.hearing_poll c)
  | resting deadline =>
    unfold poll
    simp only
    split
    · exact hearing_takeJob c
    · rfl

theorem hearing_cancel (k : Sender) : (k.cancel c).hearing = c.hearing := by
  unfold cancel
  cases k.job? with
  | none => rfl
  | some job => exact hearing_dropJob _ job

end Sender

namespace Driver

/-- **In the driver's turn** only the dispatcher hears something. -/
theorem listens_poll (d : Driver) : c.Listens (d.poll c).2 := by
  have hadvance : c.Listens (d.advance c).2 :=
    (d.dispatcher.listens_poll c).trans
      (.of_eq ((d.heartbeat.hearing_poll _).trans (d.sender.hearing_poll _)))
  unfold poll
  simp only
  split
  · exact hadvance.trans (.of_eq (Sender.hearing_cancel _ _))
  · exact hadvance

end Driver

/-! ### Calls that do not use the registry -/

namespace Connecting

theorem hearing_poll (k : Connecting) : (k.poll c).2.hearing = c.hearing := by
  cases k with
  | start =>
    unfold poll begin
    simp only
    rcases c.session.connectRequest with ⟨_ | request, session⟩
    · rfl
    · let c₁ := { c with
        session := session, connectDone := none, dataEndpoint := c.config.gateway }
      have hsent : ((c₁.publish (.connecting c.config.gateway)).transmitFrame
          (.connectRequest request) c.config.gateway).2.hearing = c.hearing :=
        (hearing_transmitFrame _ _ _).trans (c₁.hearing_publish rfl)
      simp only
      rcases h : (c₁.publish (.connecting c.config.gateway)).transmitFrame
          (.connectRequest request) c.config.gateway with ⟨_ | _, c'⟩ <;>
        rw [h] at hsent <;> exact hsent
  | awaiting deadline =>
    unfold poll expired
    simp only
    split
    · rfl
    · split
      · split <;> rfl
      · rfl

end Connecting

namespace Disconnecting

theorem hearing_conclude : (conclude c).hearing = c.hearing := by
  unfold conclude
  simp only
  split
  · exact hearing_sessionLost _ _
  · rfl

theorem hearing_poll (k : Disconnecting) : (k.poll c).2.hearing = c.hearing := by
  cases k with
  | start =>
    unfold poll begin
    simp only
    rcases c.session.disconnectRequest with ⟨_ | request, session⟩
    · rfl
    · let c₁ := { c with
        session := session
        disconnectDone := false
        ackDone := some (.error (.connection .notConnected)) }
      have hsent := c₁.hearing_transmitFrame (.disconnectRequest request) c.config.gateway
      simp only
      rcases h : c₁.transmitFrame (.disconnectRequest request) c.config.gateway with ⟨_ | _, c'⟩ <;>
        rw [h] at hsent <;> exact hsent
  | awaiting deadline =>
    unfold poll
    simp only
    split
    · exact hearing_conclude _
    · split
      · exact hearing_conclude _
      · rfl

end Disconnecting

namespace Closing

theorem hearing_conclude (p : Progress (Except Fault Unit) Disconnecting × Client) :
    (conclude p).2.hearing = p.2.hearing := by
  rcases p with ⟨_ | _, c'⟩ <;> rfl

theorem hearing_poll (k : Closing) : (k.poll c).2.hearing = c.hearing := by
  cases k with
  | start =>
    unfold poll
    simp only
    split
    · exact (hearing_conclude _).trans (Disconnecting.hearing_poll _ _)
    · rfl
  | disconnecting stage => exact (hearing_conclude _).trans (Disconnecting.hearing_poll _ _)

end Closing

namespace Sending

theorem hearing_enter (message : Cemi) (slot : SlotId) :
    (enter message slot c).2.hearing = c.hearing := by
  unfold enter
  cases c.queue.push? ⟨message, some slot⟩ <;> rfl

theorem hearing_poll (k : Sending) : (k.poll c).2.hearing = c.hearing := by
  cases k with
  | start message =>
    unfold poll begin claimSlot?
    simp only
    split
    · cases c.slots.findFinIdx? fun slot => slot = .free with
      | none => rfl
      | some slot => exact hearing_enter _ message slot
    · rfl
  | queueing message slot => exact hearing_enter c message slot
  | awaiting slot =>
    unfold poll
    simp only
    cases c.slots[slot] <;> rfl

theorem hearing_cancel (k : Sending) : (k.cancel c).hearing = c.hearing := by
  cases k with
  | start message => rfl
  | queueing message slot => rfl
  | awaiting slot => exact hearing_releaseSlot c slot

end Sending

namespace Queueing

theorem hearing_enter (message : Cemi) : (enter message c).2.hearing = c.hearing := by
  unfold enter
  cases c.queue.push? ⟨message, none⟩ <;> rfl

theorem hearing_poll (k : Queueing) : (k.poll c).2.hearing = c.hearing := by
  cases k with
  | start message =>
    unfold poll
    simp only
    split
    · exact hearing_enter c message
    · rfl
  | queueing message => exact hearing_enter c message

end Queueing

end KnxIp
