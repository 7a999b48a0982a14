import KnxIp.Config
import KnxIp.Event
import KnxIp.Registry
import KnxIp.Session
import KnxIp.Socket

/-!
# The client

`KnxIp.Client` is what the activities of a client share: the session, the socket, the
queue of requests, the registry – and *mailboxes*, in which one activity leaves for
another how something went. Activities never run at the same time. Each runs until it has
to wait, and keeps what it has to remember over the wait to itself; the modules below
`KnxIp.Client` describe them one by one.

This module holds the state and what every activity does with it: to leave a result, to
send a datagram, and to end the session.
-/

namespace KnxIp

/-- How many requests wait in the queue. -/
def sendQueueDepth : Nat := 8

/-- How many callers can wait for their requests at once. -/
def sendSlots : Nat := 4

/-- A place in the table of waiting callers. -/
abbrev SlotId := Fin sendSlots

/-- **A request that waits to be sent.** -/
structure Job where
  message : Cemi
  /-- The place of the caller who waits for it, if one does. -/
  slot : Option SlotId
  deriving DecidableEq

/-- **The place of a caller who waits for a request.** -/
inductive Slot
  | free
  /-- The caller waits. -/
  | waiting
  /-- The request has ended; the caller has not seen it yet. -/
  | done (result : Except Fault Unit)
  /-- The caller is gone, and the request has not ended. -/
  | abandoned
  deriving DecidableEq

/-- Every place is in the table, so that nothing has to be shown to look it up. -/
instance : GetElem (Vector Slot sendSlots) SlotId Slot fun _ _ => True where
  getElem slots id _ := slots.get id

/-- **What a client does to the world.** -/
inductive Output
  /-- A datagram, with the endpoint that it goes to. -/
  | datagram (datagram : Datagram)
  | event (event : Event)
  deriving DecidableEq

/-- **A client.** -/
structure Client where
  config : Config
  session : Session
  /-- Where tunnelling frames go. -/
  dataEndpoint : Endpoint
  /-- Mailbox: how the connect request went. -/
  connectDone : Option (Except Fault UInt8)
  /-- Mailbox: how the request went whose acknowledgement is awaited. -/
  ackDone : Option (Except Fault Unit)
  /-- Mailbox: how the request went whose confirmation is awaited. -/
  confirmation : Option (Except Fault Unit)
  /-- Mailbox: how the heartbeat went. -/
  heartbeatDone : Option (Except Fault Unit)
  /-- Mailbox: the session has ended. -/
  disconnectDone : Bool
  /-- Mailbox: a session has been granted. -/
  sessionUp : Bool
  /-- Mailbox: the client is to stop. -/
  shutdown : Bool
  queue : Queue Job sendQueueDepth
  slots : Vector Slot sendSlots
  registry : Registry
  socket : Socket
  /-- The time, in milliseconds. -/
  now : Nat
  /-- What the client has done, the oldest first. -/
  outbox : List Output
  deriving DecidableEq

namespace Client

/-- A client that has done nothing. -/
def fresh (config : Config) : Client where
  config := config
  session := .fresh config.localEndpoint config.heartbeatMaxMisses
  dataEndpoint := config.gateway
  connectDone := none
  ackDone := none
  confirmation := none
  heartbeatDone := none
  disconnectDone := false
  sessionUp := false
  shutdown := false
  queue := .empty
  slots := .replicate _ .free
  registry := .empty
  socket := .fresh
  now := 0
  outbox := []

/-- The fault of what was under way when the session ended. -/
def lost : Fault := .connection .lost

/-- Whether the session is open. -/
def isConnected (c : Client) : Bool := c.session.status.isConnected

/-- Whether a datagram belongs to the session: it comes from the gateway's internet
address, or from where tunnelling frames go. -/
def isGateway (c : Client) (peer : Endpoint) : Bool :=
  peer.ip = c.config.gateway.ip || peer = c.dataEndpoint

/-! ### Events -/

/-- Publish an event. -/
def publish (c : Client) (e : Event) : Client := { c with outbox := c.outbox ++ [.event e] }

/-- Publish a fault that no caller waits for. -/
def publishFault (c : Client) (f : Fault) : Client := c.publish (.fault f)

/-! ### Waiting callers -/

/-- The client with another state of a place. -/
def setSlot (c : Client) (id : SlotId) (slot : Slot) : Client :=
  { c with slots := c.slots.set id slot }

/-- Take the first free place. -/
def claimSlot? (c : Client) : Option (SlotId × Client) :=
  (c.slots.findFinIdx? fun slot => slot = .free).map fun id => (id, c.setSlot id .waiting)

/-- The request of a place has ended. A caller who waits will see how; if the caller is
gone, the place is free again. -/
def completeSlot (c : Client) (id : SlotId) (result : Except Fault Unit) : Client :=
  match c.slots[id] with
  | .waiting => c.setSlot id (.done result)
  | .abandoned => c.setSlot id .free
  | .free => c
  | .done _ => c

/-- The caller of a place is gone. The place is free again, unless the request is still
on its way. -/
def releaseSlot (c : Client) (id : SlotId) : Client :=
  match c.slots[id] with
  | .waiting => c.setSlot id .abandoned
  | _ => c.setSlot id .free

/-! ### The end of a session -/

/-- Complete the place of a request that will not be sent any more. A request that nobody
waits for just goes. -/
def dropJob (c : Client) (job : Job) : Client :=
  match job.slot with
  | some id => c.completeSlot id (.error lost)
  | none => c

/-- **The session has ended**: tell everybody who waits for something of it, let the
queue go, and publish the end. -/
def sessionLost (c : Client) (reason : EndReason) : Client :=
  let c :=
    { c with
      ackDone := some (.error lost)
      confirmation := some (.error lost)
      heartbeatDone := some (.error lost)
      disconnectDone := true }
  let c := { c.queue.toList.foldl dropJob c with queue := .empty }
  c.publish (.disconnected reason)

/-- **The socket has failed.** The fault is published, and it ends the session. The end
is published only of a session that had been granted; a connect request that is under
way fails. -/
def transportFailed (c : Client) (f : Fault) : Client :=
  let before := c.session.status
  let c := { c.publishFault f with session := c.session.closed }
  match before with
  | .disconnected => c
  | .connecting => { c with connectDone := some (.error lost) }
  | _ => c.sessionLost .transportError

/-! ### Sending -/

/-- Send a datagram. If that fails, the session ends. -/
def transmit (c : Client) (d : Datagram) : Except Fault Unit × Client :=
  match c.socket.sendFault? with
  | some f => (.error f, c.transportFailed f)
  | none => (.ok (), { c with outbox := c.outbox ++ [.datagram d] })

/-- Send a frame. -/
def transmitFrame (c : Client) (f : Frame) (peer : Endpoint) : Except Fault Unit × Client :=
  c.transmit ⟨f.octets, peer⟩

end Client

end KnxIp
