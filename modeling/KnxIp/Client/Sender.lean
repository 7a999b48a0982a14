import KnxIp.Client
import KnxIp.Client.Progress

/-!
# Sending requests

The *sender* takes one request after the other from the queue and delivers it. After
each request, however it ended, the sender rests.

The delivery of one request is a *transfer* (`KnxIp.Transfer`), which ends with a result:
a copy is sent, the acknowledgement is awaited, and another copy is sent as long as none
comes in time and there are retries left. With the setting to wait for confirmations, a
request is delivered only once it has been confirmed.
-/

namespace KnxIp

/-! ### One request -/

/-- **A request on its way**, and what is awaited for it. -/
inductive Transfer
  /-- The acknowledgement of the request, of which `attempt` copies have been repeated. -/
  | awaitingAck (copy : Datagram) (attempt deadline : Nat)
  /-- The confirmation of the request, which has been acknowledged. -/
  | awaitingConfirmation (deadline : Nat)
  deriving DecidableEq

namespace Transfer

/-- Send a copy of a request. -/
def sendCopy (copy : Datagram) (attempt : Nat) (c : Client) :
    Progress (Except Fault Unit) Transfer × Client :=
  match c.transmit copy with
  | (.ok (), c) => (.waiting (.awaitingAck copy attempt (c.now + c.config.ackTimeout)), c)
  | (.error f, c) => (.done (.error f), c)

/-- Begin to deliver a message: the session gives the request a number, what was left in
the mailboxes for an earlier one is forgotten, and the first copy is sent. -/
def begin (message : Cemi) (c : Client) : Progress (Except Fault Unit) Transfer × Client :=
  match c.session.tunnelingRequest message with
  | (.error f, session) => (.done (.error f), { c with session := session })
  | (.ok request, session) =>
    let copy : Datagram := ⟨(Frame.tunnelingRequest request).octets, c.dataEndpoint⟩
    sendCopy copy 0 { c with session := session, ackDone := none, confirmation := none }

/-- The request has been acknowledged. -/
def acknowledged (c : Client) : Progress (Except Fault Unit) Transfer × Client :=
  if c.config.awaitConfirmation then
    match c.confirmation with
    | some result => (.done result, { c with confirmation := none })
    | none => (.waiting (.awaitingConfirmation (c.now + c.config.confirmationTimeout)), c)
  else
    (.done (.ok ()), c)

/-- No acknowledgement came in time. -/
def ackExpired (copy : Datagram) (attempt : Nat) (c : Client) :
    Progress (Except Fault Unit) Transfer × Client :=
  if attempt < c.config.ackRetries.toNat then
    sendCopy copy (attempt + 1) c
  else
    (.done (.error (.timeout .ack)), { c with session := c.session.abandonRequest })

/-- Go on with the delivery until it has to wait. What is in a mailbox counts, also if
the wait for it ran out at the same time. -/
def poll (t : Transfer) (c : Client) : Progress (Except Fault Unit) Transfer × Client :=
  match t with
  | .awaitingAck copy attempt deadline =>
    match c.ackDone with
    | some (.ok ()) => acknowledged { c with ackDone := none }
    | some (.error f) => (.done (.error f), { c with ackDone := none })
    | none => if deadline ≤ c.now then ackExpired copy attempt c else (.waiting t, c)
  | .awaitingConfirmation deadline =>
    match c.confirmation with
    | some result => (.done result, { c with confirmation := none })
    | none =>
      if deadline ≤ c.now then (.done (.error (.timeout .confirmation)), c) else (.waiting t, c)

/-- When the delivery will go on if nothing else happens. -/
def deadline : Transfer → Nat
  | .awaitingAck _ _ deadline => deadline
  | .awaitingConfirmation deadline => deadline

end Transfer

/-! ### One request after the other -/

/-- **What the sender does.** -/
inductive Sender
  /-- Waits for a request in the queue. -/
  | idle
  /-- Delivers a request. -/
  | delivering (job : Job) (transfer : Transfer)
  /-- Rests. -/
  | resting (deadline : Nat)
  deriving DecidableEq

namespace Sender

/-- **A delivery has ended.** The caller who waits for it is told; if nobody does, a
failure is published. -/
def finish (job : Job) (result : Except Fault Unit) (c : Client) : Sender × Client :=
  let c :=
    match job.slot, result with
    | some id, _ => c.completeSlot id result
    | none, .error f => c.publishFault f
    | none, .ok () => c
  (.resting (c.now + c.config.sendQueueInterval), c)

/-- Wait for as long as a delivery has to, or finish with it. -/
def follow (job : Job) (p : Progress (Except Fault Unit) Transfer × Client) : Sender × Client :=
  match p with
  | (.waiting transfer, c) => (.delivering job transfer, c)
  | (.done result, c) => finish job result c

/-- Deliver the oldest request in the queue, if there is one. -/
def takeJob (c : Client) : Sender × Client :=
  match c.queue.pop? with
  | none => (.idle, c)
  | some (job, queue) => follow job (Transfer.begin job.message { c with queue := queue })

/-- Run the sender until it has to wait. -/
def poll (s : Sender) (c : Client) : Sender × Client :=
  match s with
  | .idle => takeJob c
  | .delivering job transfer => follow job (transfer.poll c)
  | .resting deadline => if deadline ≤ c.now then takeJob c else (s, c)

/-- The request that is being delivered. -/
def job? : Sender → Option Job
  | .delivering job _ => some job
  | _ => none

/-- Stop the sender where it is. The request that it was delivering is given up, and the
caller who waits for it is told. -/
def cancel (s : Sender) (c : Client) : Client :=
  match s.job? with
  | some job => { c with session := c.session.abandonRequest }.dropJob job
  | none => c

/-- When the sender will run again if nothing else happens. -/
def deadline? : Sender → Option Nat
  | .idle => none
  | .delivering _ transfer => some transfer.deadline
  | .resting deadline => some deadline

end Sender

end KnxIp
