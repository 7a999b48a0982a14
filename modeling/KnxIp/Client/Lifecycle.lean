import KnxIp.Client
import KnxIp.Client.Progress

/-!
# Opening and closing a session

The calls with which an application opens a session and closes it. Each sends a request
and waits, for a limited time, until the dispatcher has seen the answer.

A session that is to be closed ends also when the gateway does not answer. Whichever of
the call and the dispatcher finds the session still there is the one to publish its end.
-/

namespace KnxIp

/-! ### Opening -/

/-- **A call to open a session.** -/
inductive Connecting
  | start
  | awaiting (deadline : Nat)
  deriving DecidableEq

namespace Connecting

/-- Send the connect request, if there is no session. -/
def begin (c : Client) : Progress (Except Fault UInt8) Connecting × Client :=
  match c.session.connectRequest with
  | (.error f, session) => (.done (.error f), { c with session := session })
  | (.ok request, session) =>
    let gateway := c.config.gateway
    let c := { c with session := session, connectDone := none, dataEndpoint := gateway }
    match (c.publish (.connecting gateway)).transmitFrame (.connectRequest request) gateway with
    | (.error f, c) => (.done (.error f), c)
    | (.ok (), c) => (.waiting (.awaiting (c.now + c.config.connectTimeout)), c)

/-- The wait for the answer ran out. If the session has been granted all the same, the
call succeeds. -/
def expired (c : Client) : Except Fault UInt8 × Client :=
  let c := { c with session := c.session.connectExpired }
  match c.session.openChannel? with
  | some channel => (.ok channel, c)
  | none => (.error (.timeout .connect), c)

/-- Run the call until it has to wait. -/
def poll (k : Connecting) (c : Client) : Progress (Except Fault UInt8) Connecting × Client :=
  match k with
  | .start => begin c
  | .awaiting deadline =>
    match c.connectDone with
    | some result => (.done result, { c with connectDone := none })
    | none => if deadline ≤ c.now then (expired c).map .done id else (.waiting k, c)

/-- When the call will run again if nothing else happens. -/
def deadline? : Connecting → Option Nat
  | .start => none
  | .awaiting deadline => some deadline

end Connecting

/-! ### Closing -/

/-- **A call to close a session.** -/
inductive Disconnecting
  | start
  | awaiting (deadline : Nat)
  deriving DecidableEq

namespace Disconnecting

/-- Send the disconnect request, if there is a session. A request whose acknowledgement
is awaited is let go. -/
def begin (c : Client) : Progress (Except Fault Unit) Disconnecting × Client :=
  match c.session.disconnectRequest with
  | (.error f, session) => (.done (.error f), { c with session := session })
  | (.ok request, session) =>
    let c :=
      { c with
        session := session
        disconnectDone := false
        ackDone := some (.error (.connection .notConnected)) }
    match c.transmitFrame (.disconnectRequest request) c.config.gateway with
    | (.error f, c) => (.done (.error f), c)
    | (.ok (), c) => (.waiting (.awaiting (c.now + c.config.disconnectTimeout)), c)

/-- The wait is over. If the session is still there it ends now. -/
def conclude (c : Client) : Client :=
  let (changed, session) := c.session.forceDisconnected
  let c := { c with session := session }
  if changed then c.sessionLost .requested else c

/-- Run the call until it has to wait. -/
def poll (k : Disconnecting) (c : Client) : Progress (Except Fault Unit) Disconnecting × Client :=
  match k with
  | .start => begin c
  | .awaiting deadline =>
    if c.disconnectDone then
      (.done (.ok ()), conclude { c with disconnectDone := false })
    else if deadline ≤ c.now then
      (.done (.error (.timeout .disconnect)), conclude c)
    else
      (.waiting k, c)

/-- When the call will run again if nothing else happens. -/
def deadline? : Disconnecting → Option Nat
  | .start => none
  | .awaiting deadline => some deadline

end Disconnecting

/-- **A call to stop a client**: it closes the session, if there is one. -/
inductive Closing
  | start
  | disconnecting (stage : Disconnecting)
  deriving DecidableEq

namespace Closing

/-- Ask the client to stop once the session is closed, however that went. -/
def conclude (p : Progress (Except Fault Unit) Disconnecting × Client) :
    Progress Unit Closing × Client :=
  match p with
  | (.done _, c) => (.done (), { c with shutdown := true })
  | (.waiting stage, c) => (.waiting (.disconnecting stage), c)

/-- Run the call until it has to wait. -/
def poll (k : Closing) (c : Client) : Progress Unit Closing × Client :=
  match k with
  | .start =>
    if c.isConnected then conclude (Disconnecting.start.poll c)
    else (.done (), { c with shutdown := true })
  | .disconnecting stage => conclude (stage.poll c)

/-- When the call will run again if nothing else happens. -/
def deadline? : Closing → Option Nat
  | .start => none
  | .disconnecting stage => stage.deadline?

end Closing

end KnxIp
