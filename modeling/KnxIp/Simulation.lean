import KnxIp.EventBus
import KnxIp.Gateway
import KnxIp.Host

/-!
# A client in a simulated world

`KnxIp.Simulation` puts a client at work into a world with a gateway, somebody who plays
the gateway, listeners, and a clock that moves when it is told to. One drives it step by
step. After each step everything that can run does so, until nothing changes any more:
the simulation *settles*. It does so in rounds, in each of which the driver runs first
and then the calls, by their numbers; and whatever ended, was sent or was published is
written down with the time.

While time passes, the simulation settles at every millisecond at which a timer runs
out.
-/

namespace KnxIp

/-! ### Somebody plays the gateway -/

/-- **Somebody who answers the next datagram at the gateway.** -/
structure Visit where
  number : Nat
  answer : Gateway.Answer
  /-- What was asked and the reply, which waits for room at the client. -/
  reply : Option (Frame × Datagram)
  deriving DecidableEq

/-! ### What is written down -/

/-- **What a task answers**: nothing, what a call answers, or the frame that somebody at
the gateway has answered. -/
inductive TaskAnswer
  | driver
  | answer (answer : Answer)
  | frame (frame : Frame)
  deriving DecidableEq

/-- **A record of what happened**, each with its time. -/
structure Record where
  /-- The tasks that ended; the driver has no number. -/
  done : List (Nat × Option Nat × Except Fault TaskAnswer)
  sent : List (Nat × Datagram)
  notices : List (Nat × Notice)
  deriving DecidableEq

/-- Nothing happened. -/
def Record.empty : Record := ⟨[], [], []⟩

/-! ### The world -/

/-- **A simulated world.** -/
structure Simulation where
  host : Host
  gateway : Gateway
  visits : List Visit
  bus : EventBus
  /-- The names in use, each with the devices that go by it, the last one that was bound
  first. A name may be in use for no device at all. -/
  names : List (String × List Nat)
  record : Record
  deriving DecidableEq

namespace Simulation

/-- The number of the subscriber who writes the record. -/
def recorder : Nat := 0

/-- A world in which nothing has happened. -/
def fresh (config : Config) (gateway : Endpoint) : Simulation where
  host := .fresh config
  gateway := .fresh gateway
  visits := []
  bus := ⟨[(recorder, .fresh)], 1⟩
  names := []
  record := .empty

/-- The time. -/
def now (s : Simulation) : Nat := s.host.client.now

/-! ### Settling -/

/-- Carry out what the client does: datagrams go to the gateway and events to the
listeners. -/
def carryOut (s : Simulation) : Output → Simulation
  | .datagram d => { s with gateway := s.gateway.receive d }
  | .event e => { s with bus := s.bus.publish e }

/-- Carry out what the client has done since the last time. -/
def flush (s : Simulation) : Simulation :=
  let outputs := s.host.client.outbox
  outputs.foldl carryOut
    { s with host := { s.host with client := { s.host.client with outbox := [] } } }

/-- Write down that a task ended. -/
def recordDone (s : Simulation) (number : Option Nat) (result : Except Fault TaskAnswer) :
    Simulation :=
  { s with record := { s.record with done := s.record.done ++ [(s.now, number, result)] } }

/-- Write down what has ended. -/
def recordFinished (s : Simulation) : Finished → Simulation
  | .call number result => s.recordDone (some number) (result.map .answer)
  | .driver => s.recordDone none (.ok .driver)

/-- Write down everything that has ended since the last time. -/
def noteFinished (s : Simulation) : Simulation :=
  s.host.finished.foldl recordFinished { s with host := { s.host with finished := [] } }

/-- Let something happen to the client, and carry out what it does. -/
def onHost (s : Simulation) (f : Host → Host) : Simulation :=
  { s with host := f s.host }.flush.noteFinished

/-- The visit with a number is over. -/
def endVisit (s : Simulation) (number : Nat) : Simulation :=
  { s with visits := s.visits.filter fun v => v.number ≠ number }

/-- Send the reply of a visit, if there is room for it at the client. -/
def sendReply (s : Simulation) (v : Visit) (asked : Frame) (reply : Datagram) : Simulation :=
  match s.host.arrive? reply with
  | some host =>
    ({ s with host := host }.endVisit v.number).recordDone (some v.number) (.ok (.frame asked))
  | none =>
    { s with
      visits := s.visits.map fun w =>
        if w.number = v.number then { w with reply := some (asked, reply) } else w }

/-- Run a visit until it has to wait. The datagram that it answers is gone also if it
cannot be answered. -/
def pollVisit (s : Simulation) (v : Visit) : Simulation :=
  match v.reply with
  | some (asked, reply) => s.sendReply v asked reply
  | none =>
    match s.gateway.take? with
    | none => s
    | some (d, gateway) =>
      let s := { s with gateway := gateway }
      match gateway.reply v.answer d with
      | .ok (asked, reply) => s.sendReply v asked (gateway.datagram reply)
      | .error f => (s.endVisit v.number).recordDone (some v.number) (.error f)

/-- Run a task until it has to wait. -/
def pollTask (s : Simulation) (number : Nat) : Simulation :=
  match s.visits.find? fun v => v.number = number with
  | some v => s.pollVisit v
  | none => s.onHost fun h => h.pollCall number

/-- The numbers of the tasks that have not ended, in order. -/
def tasks (s : Simulation) : List Nat :=
  (s.host.calls.map PendingCall.number ++ s.visits.map Visit.number).mergeSort

/-- Run everything once: first the driver, then the tasks. -/
def round (s : Simulation) : Simulation :=
  s.tasks.foldl pollTask (s.onHost Host.pollDriver)

/-- Run round after round until one changes nothing, but at most so many. -/
def settleWithin : Nat → Simulation → Simulation
  | 0, s => s
  | rounds + 1, s =>
    let next := s.round
    if next = s then s else settleWithin rounds next

/-- More rounds than any client needs to come to rest: no timer can make it run more
often than its greatest number of retries and missed heartbeats. -/
def settleRounds : Nat := 1000000

/-- Write down what was sent and published since the last time. -/
def collect (s : Simulation) : Simulation :=
  let t := s.now
  let sent := s.gateway.received.toList.map fun d => (t, d)
  let (notices, bus) := s.bus.take recorder (eventQueueDepth + 1)
  { s with
    gateway := .fresh s.gateway.endpoint
    bus := bus
    record :=
      { s.record with
        sent := s.record.sent ++ sent
        notices := s.record.notices ++ notices.map fun n => (t, n) } }

/-- **Settle**: let everything run that can, and write down what happened. -/
def settle (s : Simulation) : Simulation := (settleWithin settleRounds s).collect

/-- Take the record. -/
def takeRecord (s : Simulation) : Record × Simulation := (s.record, { s with record := .empty })

/-! ### Time -/

/-- Let one millisecond pass, and settle if a timer has run out. -/
def tick (s : Simulation) : Simulation :=
  let s := { s with host := s.host.elapse 1 }
  if s.host.deadlines.any fun deadline => deadline ≤ s.now then s.settle else s

/-- Let so many milliseconds pass. -/
def advance : Nat → Simulation → Simulation
  | 0, s => s
  | ms + 1, s => advance ms s.tick

/-! ### Steps -/

/-- **What is asked about a device**, and answered at once. -/
inductive Question
  | address
  | dpt
  | value
  | state
  | level
  deriving DecidableEq

/-- **A step.** -/
inductive Step
  /-- Begin a call, for which the device goes by a name. -/
  | request (request : Request String)
  /-- Answer the next datagram at the gateway. -/
  | visit (answer : Gateway.Answer)
  /-- Datagrams arrive; those that do not say so come from the gateway. -/
  | inject (datagrams : List (List UInt8 × Option Endpoint))
  | failReceive (fault : Fault)
  | refuse (refusing : Bool)
  | advance (ms : Nat)
  | info
  | bind (kind : DeviceKind) (address : GroupAddress) (name : String)
  /-- Bind an address again and again, until that fails. -/
  | bindMany (address : GroupAddress) (dpt : Dpt) (times : Nat) (name : String)
  | drop (name : String)
  | question (name : String) (question : Question)
  | registryDpt (address : GroupAddress)
  | cancel (task : Nat)
  | subscribe
  | drain (subscriber : Nat)
  | unsubscribe (subscriber : Nat)
  | stopDriver
  | startDriver

/-- **What a step answers at once.** -/
inductive Reply
  | nothing
  /-- The number of a task. -/
  | task (number : Nat)
  /-- How each datagram arrived; `none` for one for which there was no room. -/
  | arrivals (results : List (Option (Except Fault Unit)))
  | truth (b : Bool)
  | info (gateway : Endpoint) (source : IndividualAddress) (ready : Bool)
  | result (result : Except Fault Unit)
  /-- How often an address was bound, and what ended that. -/
  | bound (count : Nat) (stopped : Option Fault)
  | address (address : GroupAddress)
  | dpt (dpt : Option Dpt)
  | value (value : Option Value)
  /-- A sensor's value, with the number that it is read as. -/
  | reading (value : Option Value)
  | state (state : Option Bool)
  | level (level : Option UInt8)
  | subscribed (result : Except Fault Nat)
  | notices (notices : List Notice)

/-- Whether a name is in use. -/
def isNamed (s : Simulation) (name : String) : Bool := s.names.any fun n => n.1 = name

/-- The numbers of the devices that go by a name. -/
def named (s : Simulation) (name : String) : List Nat :=
  ((s.names.find? fun n => n.1 = name).map Prod.snd).getD []

/-- The device that goes by a name. -/
def device? (s : Simulation) (name : String) : Option Device :=
  (s.named name).head?.bind s.host.device?

/-- A name is no longer in use. -/
def forget (s : Simulation) (name : String) : Simulation :=
  { s with names := s.names.filter fun n => n.1 ≠ name }

/-- Let these devices, and no others, go by a name. -/
def setNamed (s : Simulation) (name : String) (devices : List Nat) : Simulation :=
  { s with names := (name, devices) :: (s.forget name).names }

/-- Give up devices. -/
def releaseAll (s : Simulation) (devices : List Nat) : Simulation :=
  { s with host := devices.foldl Host.release s.host }

/-- Bind a device. -/
def bindNext (s : Simulation) (kind : DeviceKind) (address : GroupAddress) :
    Except Fault (Nat × Simulation) := do
  let (number, host) ← s.host.bind kind address
  pure (number, { s with host := host })

/-- Bind an address again and again, at most so many times. -/
def bindAgain (kind : DeviceKind) (address : GroupAddress) :
    Nat → List Nat → Simulation → List Nat × Option Fault × Simulation
  | 0, devices, s => (devices, none, s)
  | times + 1, devices, s =>
    match s.bindNext kind address with
    | .error f => (devices, some f, s)
    | .ok (number, s) => bindAgain kind address times (number :: devices) s

/-- The name of a device put for the device. -/
def resolve (s : Simulation) : Request String → Option (Request Nat)
  | .connect => some .connect
  | .disconnect => some .disconnect
  | .close => some .close
  | .send message => some (.send message)
  | .write address data => some (.write address data)
  | .respond address data => some (.respond address data)
  | .writeValue address dpt v => some (.writeValue address dpt v)
  | .read address => some (.read address)
  | .readValue address dpt => some (.readValue address dpt)
  | .device name request => (s.named name).head?.map fun number => .device number request

/-- A datagram arrives. -/
def injectOne (s : Simulation) (octets : List UInt8) (peer : Option Endpoint) :
    Option (Except Fault Unit) × Simulation :=
  match s.host.client.socket.inject? octets (peer.getD s.gateway.endpoint) with
  | some (result, socket) => (some result, { s with host := s.host.withSocket fun _ => socket })
  | none => (none, s)

/-- Datagrams arrive, one after the other. -/
def injectAll : List (List UInt8 × Option Endpoint) → Simulation →
    List (Option (Except Fault Unit)) × Simulation
  | [], s => ([], s)
  | (octets, peer) :: rest, s =>
    let (result, s) := s.injectOne octets peer
    let (results, s) := injectAll rest s
    (result :: results, s)

/-- Answer a question about a device. -/
def ask (s : Simulation) (d : Device) : Question → Reply
  | .address => .address d.point.address
  | .dpt => .dpt (some d.point.dpt)
  | .value =>
    let value := s.host.client.pointValue? d.point
    if d.isSensor then .reading value else .value value
  | .state => .state (s.host.client.switchState? d.point)
  | .level => .level (s.host.client.dimmerLevel? d.point)

/-- Do a step; `number` is the number of the task that it begins, if it begins one. The
world does not settle yet. -/
def perform (s : Simulation) (number : Nat) : Step → Reply × Simulation
  | .request request =>
    match s.resolve request with
    | some request => (.task number, { s with host := s.host.begin number request })
    | none => (.nothing, s)
  | .visit answer => (.task number, { s with visits := s.visits ++ [⟨number, answer, none⟩] })
  | .inject datagrams => (injectAll datagrams s).map .arrivals id
  | .failReceive f => (.nothing, { s with host := s.host.act (.failReceive f) })
  | .refuse refusing => (.nothing, { s with host := s.host.act (.refuse refusing) })
  | .advance ms => (.nothing, s.advance ms)
  | .info =>
    let c := s.host.client
    (.info c.config.gateway c.config.individualAddress (!c.socket.closed), s)
  | .bind kind address name =>
    match s.bindNext kind address with
    | .error f => (.result (.error f), s)
    | .ok (number, t) => (.result (.ok ()), (t.setNamed name [number]).releaseAll (s.named name))
  | .bindMany address dpt times name =>
    let s := s.releaseAll (s.named name)
    let (devices, stopped, s) := bindAgain (.point dpt) address times [] s
    (.bound devices.length stopped, s.setNamed name devices)
  | .drop name =>
    (.truth (s.isNamed name), (s.releaseAll (s.named name)).forget name)
  | .question name question =>
    match s.device? name with
    | some d => (s.ask d question, s)
    | none => (.nothing, s)
  | .registryDpt address => (.dpt (s.host.client.registry.dpt? address), s)
  | .cancel task =>
    (.truth (s.tasks.contains task),
      ({ s with host := s.host.cancelCall task }).endVisit task)
  | .subscribe =>
    match s.bus.subscribe with
    | .ok (number, bus) => (.subscribed (.ok (number - 1)), { s with bus := bus })
    | .error f => (.subscribed (.error f), s)
  | .drain subscriber =>
    let (notices, bus) := s.bus.take (subscriber + 1) (eventQueueDepth + 1)
    (.notices notices, { s with bus := bus })
  | .unsubscribe subscriber => (.nothing, { s with bus := s.bus.unsubscribe (subscriber + 1) })
  | .stopDriver => (.nothing, { s with host := s.host.stopDriver })
  | .startDriver => (.nothing, { s with host := s.host.startDriver })

/-- The application lets go of the client, which closes its socket. -/
def letGo (s : Simulation) : Simulation := { s with host := s.host.withSocket Socket.close }

/-- **Do a step**, settle, and take the record. -/
def step (s : Simulation) (number : Nat) (step : Step) : Reply × Record × Simulation :=
  let (reply, s) := s.perform number step
  let (record, s) := s.settle.takeRecord
  (reply, record, s)

end Simulation

end KnxIp
