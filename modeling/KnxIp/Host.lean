import KnxIp.Client.Driver
import KnxIp.Client.Request

/-!
# A client at work

`KnxIp.Host` is a client together with everything that runs on it: its driver, the calls
that an application has begun, and the devices that it has bound. Only one of them runs
at a time, and it runs until it has to wait; which one runs next, what arrives and when
time passes is for the world to say. `KnxIp.Host.Action` is what the world can say, and
`KnxIp.Host.act` is what then happens, so that a list of actions is one way in which
things can go.
-/

namespace KnxIp

/-- **A call that has begun**, under its number. -/
structure PendingCall where
  number : Nat
  /-- The device that the call uses, by its number. -/
  device : Option Nat
  call : Call
  deriving DecidableEq

/-- **What has ended.** -/
inductive Finished
  /-- A call, with its result. -/
  | call (number : Nat) (result : Except Fault Answer)
  /-- The driver, because the client was asked to stop. -/
  | driver
  deriving DecidableEq

/-- **A client at work.** -/
structure Host where
  client : Client
  /-- The driver, while one runs. -/
  driver : Option Driver
  /-- The calls that have not ended, in the order in which they began. -/
  calls : List PendingCall
  /-- The devices that are bound, each under its number, the last one first. -/
  devices : List (Nat × Device)
  /-- The number that the next device gets. -/
  nextDevice : Nat
  /-- What has ended, in that order. -/
  finished : List Finished
  deriving DecidableEq

namespace Host

/-- A client with which nobody has done anything. -/
def fresh (config : Config) : Host := ⟨.fresh config, none, [], [], 0, []⟩

/-! ### The driver -/

/-- Stop the driver where it is. -/
def stopDriver (h : Host) : Host :=
  match h.driver with
  | some d => { h with client := d.cancel h.client, driver := none }
  | none => h

/-- Start a driver, in place of the one that runs. -/
def startDriver (h : Host) : Host := { h.stopDriver with driver := some .fresh }

/-- Run the driver until it has to wait. -/
def pollDriver (h : Host) : Host :=
  match h.driver with
  | none => h
  | some d =>
    match d.poll h.client with
    | (some d, c) => { h with client := c, driver := some d }
    | (none, c) =>
      { h with client := c, driver := none, finished := h.finished ++ [.driver] }

/-! ### Calls -/

/-- The device with this number. -/
def device? (h : Host) (number : Nat) : Option Device :=
  (h.devices.find? fun d => d.1 = number).map Prod.snd

/-- Whether a call has this number. -/
def isPending (h : Host) (number : Nat) : Bool := h.calls.any fun k => k.number = number

/-- Begin a call. It does not run yet. A number that is in use is not given again, and a
device has to be bound. -/
def begin (h : Host) (number : Nat) (request : Request Nat) : Host :=
  if h.isPending number then
    h
  else
    match request.call? h.client.config h.device? with
    | some call => { h with calls := h.calls ++ [⟨number, request.device?, call⟩] }
    | none => h

/-- Run a call until it has to wait. -/
def pollCall (h : Host) (number : Nat) : Host :=
  match h.calls.find? fun k => k.number = number with
  | none => h
  | some pending =>
    match pending.call.poll h.client with
    | (.waiting call, c) =>
      { h with
        client := c
        calls := h.calls.map fun k => if k.number = number then { k with call := call } else k }
    | (.done result, c) =>
      { h with
        client := c
        calls := h.calls.filter fun k => k.number ≠ number
        finished := h.finished ++ [.call number result] }

/-- Stop the calls of which this is true, where they are. -/
def cancelCalls (h : Host) (p : PendingCall → Bool) : Host :=
  { h with
    client := (h.calls.filter p).foldl (fun c k => k.call.cancel c) h.client
    calls := h.calls.filter fun k => !p k }

/-- Stop a call where it is. -/
def cancelCall (h : Host) (number : Nat) : Host := h.cancelCalls fun k => k.number = number

/-! ### Devices -/

/-- Bind a device, and give it the next number. -/
def bind (h : Host) (kind : DeviceKind) (address : GroupAddress) : Except Fault (Nat × Host) := do
  let (point, client) ← h.client.bindDevice kind address
  let number := h.nextDevice
  pure (number,
    { h with
      client := client
      devices := (number, ⟨kind, point⟩) :: h.devices
      nextDevice := number + 1 })

/-- Give up a device. The calls that use it are stopped first. -/
def release (h : Host) (number : Nat) : Host :=
  match h.device? number with
  | none => h
  | some d =>
    let h := h.cancelCalls fun k => k.device = some number
    { h with
      client := h.client.release d.point
      devices := h.devices.eraseP fun d => d.1 = number }

/-! ### The world -/

/-- The host with another socket. -/
def withSocket (h : Host) (f : Socket → Socket) : Host :=
  { h with client := { h.client with socket := f h.client.socket } }

/-- A datagram arrives, if the socket has room for it. -/
def arrive? (h : Host) (d : Datagram) : Option Host :=
  (h.client.socket.arrive? d).map fun socket => h.withSocket fun _ => socket

/-- Time passes. -/
def elapse (h : Host) (ms : Nat) : Host :=
  { h with client := { h.client with now := h.client.now + ms } }

/-- The times at which timers run out. -/
def deadlines (h : Host) : List Nat :=
  (h.driver.map Driver.deadlines).getD [] ++ h.calls.filterMap fun k => k.call.deadline?

/-- **What the world can say.** -/
inductive Action
  | startDriver
  | stopDriver
  /-- It is the driver's turn. -/
  | pollDriver
  | begin (number : Nat) (request : Request Nat)
  /-- It is a call's turn. -/
  | pollCall (number : Nat)
  | cancelCall (number : Nat)
  | bind (kind : DeviceKind) (address : GroupAddress)
  | release (number : Nat)
  /-- A datagram arrives; it is lost if the socket has no room for it. -/
  | arrive (datagram : Datagram)
  /-- The next attempt to receive will fail. -/
  | failReceive (fault : Fault)
  /-- Sending fails from now on, or works again. -/
  | refuse (refusing : Bool)
  | elapse (ms : Nat)
  deriving DecidableEq

/-- **What happens then.** -/
def act (h : Host) : Action → Host
  | .startDriver => h.startDriver
  | .stopDriver => h.stopDriver
  | .pollDriver => h.pollDriver
  | .begin number request => h.begin number request
  | .pollCall number => h.pollCall number
  | .cancelCall number => h.cancelCall number
  | .bind kind address =>
    match h.bind kind address with
    | .ok (_, h) => h
    | .error _ => h
  | .release number => h.release number
  | .arrive d => (h.arrive? d).getD h
  | .failReceive f => h.withSocket fun s => { s with failures := s.failures ++ [f] }
  | .refuse refusing => h.withSocket fun s => { s with refusing := refusing }
  | .elapse ms => h.elapse ms

/-- The host after one action after the other. -/
def run (h : Host) (actions : List Action) : Host := actions.foldl act h

end Host

end KnxIp
