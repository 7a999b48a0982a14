import KnxIp.Client
import KnxIp.Client.Progress

/-!
# Requests of the application

There are two ways to hand a request to the sender. A call can wait until the request
has been delivered (`KnxIp.Sending`), for which it takes one of a few places; or it is
content once the request is in the queue (`KnxIp.Queueing`). Both wait while the queue is
full, and both need a session – at the moment when they begin.
-/

namespace KnxIp

/-! ### Waiting for the delivery -/

/-- **A call to send a message and wait until it is delivered.** -/
inductive Sending
  | start (message : Cemi)
  /-- Has a place, and waits for room in the queue. -/
  | queueing (message : Cemi) (slot : SlotId)
  /-- Has a place, and waits for the sender. -/
  | awaiting (slot : SlotId)
  deriving DecidableEq

namespace Sending

/-- Enter the queue, if there is room. -/
def enter (message : Cemi) (slot : SlotId) (c : Client) :
    Progress (Except Fault Unit) Sending × Client :=
  match c.queue.push? ⟨message, some slot⟩ with
  | some queue => (.waiting (.awaiting slot), { c with queue := queue })
  | none => (.waiting (.queueing message slot), c)

/-- Take a place, and enter the queue. -/
def begin (message : Cemi) (c : Client) : Progress (Except Fault Unit) Sending × Client :=
  if c.isConnected then
    match c.claimSlot? with
    | some (slot, c) => enter message slot c
    | none => (.done (.error (.tunneling .queueFull)), c)
  else
    (.done (.error (.connection .notConnected)), c)

/-- Run the call until it has to wait. -/
def poll (k : Sending) (c : Client) : Progress (Except Fault Unit) Sending × Client :=
  match k with
  | .start message => begin message c
  | .queueing message slot => enter message slot c
  | .awaiting slot =>
    match c.slots[slot] with
    | .done result => (.done result, c.setSlot slot .free)
    | _ => (.waiting k, c)

/-- Stop the call where it is. A place whose request is still on its way is free only
once that has ended. -/
def cancel (k : Sending) (c : Client) : Client :=
  match k with
  | .start _ => c
  | .queueing _ slot => c.setSlot slot .free
  | .awaiting slot => c.releaseSlot slot

end Sending

/-! ### Waiting for the queue only -/

/-- **A call to send a message that does not wait for it.** -/
inductive Queueing
  | start (message : Cemi)
  /-- Waits for room in the queue. -/
  | queueing (message : Cemi)
  deriving DecidableEq

namespace Queueing

/-- Enter the queue, if there is room. -/
def enter (message : Cemi) (c : Client) : Progress (Except Fault Unit) Queueing × Client :=
  match c.queue.push? ⟨message, none⟩ with
  | some queue => (.done (.ok ()), { c with queue := queue })
  | none => (.waiting (.queueing message), c)

/-- Run the call until it has to wait. -/
def poll (k : Queueing) (c : Client) : Progress (Except Fault Unit) Queueing × Client :=
  match k with
  | .start message =>
    if c.isConnected then enter message c else (.done (.error (.connection .notConnected)), c)
  | .queueing message => enter message c

end Queueing

/-! ### Reading a group -/

/-- **A call to ask a group for its value.** -/
inductive Reading
  | start (address : GroupAddress)
  /-- Waits until the question is delivered. The answer is already waited for, so that it
  may come first. -/
  | sending (read : ReadId) (question : Sending)
  /-- Waits for the answer. -/
  | awaiting (read : ReadId) (deadline : Nat)
  deriving DecidableEq

namespace Reading

/-- Take the answer, if it came. -/
def await (read : ReadId) (c : Client) :
    Option (Progress (Except Fault Apdu) Reading × Client) :=
  (c.registry.answer? read).map fun data =>
    (.done (.ok data), { c with registry := c.registry.endRead read })

/-- Give up the read. -/
def fail (read : ReadId) (f : Fault) (c : Client) :
    Progress (Except Fault Apdu) Reading × Client :=
  (.done (.error f), { c with registry := c.registry.endRead read })

/-- Go on once the question is delivered. -/
def delivered (read : ReadId) (p : Progress (Except Fault Unit) Sending × Client) :
    Progress (Except Fault Apdu) Reading × Client :=
  match p with
  | (.waiting question, c) => (.waiting (.sending read question), c)
  | (.done (.error f), c) => fail read f c
  | (.done (.ok ()), c) =>
    let deadline := c.now + c.config.readTimeout
    (await read c).getD (.waiting (.awaiting read deadline), c)

/-- Run the call until it has to wait. -/
def poll (k : Reading) (c : Client) : Progress (Except Fault Apdu) Reading × Client :=
  match k with
  | .start address =>
    match c.registry.beginRead address with
    | .error f => (.done (.error f), c)
    | .ok (read, registry) =>
      let question := Sending.start (.groupRead c.config.individualAddress address)
      delivered read (question.poll { c with registry := registry })
  | .sending read question => delivered read (question.poll c)
  | .awaiting read deadline =>
    (await read c).getD
      (if deadline ≤ c.now then fail read (.timeout .read) c else (.waiting k, c))

/-- Stop the call where it is. -/
def cancel (k : Reading) (c : Client) : Client :=
  match k with
  | .start _ => c
  | .sending read question =>
    let c := question.cancel c
    { c with registry := c.registry.endRead read }
  | .awaiting read _ => { c with registry := c.registry.endRead read }

/-- When the call will run again if nothing else happens. -/
def deadline? : Reading → Option Nat
  | .awaiting _ deadline => some deadline
  | _ => none

end Reading

end KnxIp
