import KnxIp.Client.Delivery

/-!
# Datapoints

A *point* is a handle on a group address that is bound to a datapoint type. Through it an
application writes values and waits for new ones; the values themselves are in the
registry, so that all handles on an address see the same. Switches, dimmers and sensors
are points with a type, and a way to speak about values, of their own.
-/

namespace KnxIp

/-- **A handle on a bound address.** -/
structure Point where
  address : GroupAddress
  dpt : Dpt
  binding : BindingId
  deriving DecidableEq

/-- **The kinds of handles.** -/
inductive DeviceKind
  /-- Any type, values as they are. -/
  | point (dpt : Dpt)
  /-- Something that is on or off. -/
  | switch
  /-- Something with a brightness in percent. -/
  | dimmer
  /-- Something that measures, and is not written to. -/
  | sensor (dpt : Dpt)
  deriving DecidableEq

namespace DeviceKind

/-- The datapoint type of a kind. A sensor's has to be that of a measurement. -/
def dpt : DeviceKind → Except Fault Dpt
  | .point t => .ok t
  | .switch => .ok (.boolean .switch)
  | .dimmer => .ok (.octet .percentage)
  | .sensor t => if t.isMeasurement then .ok t else .error (.dpt .typeMismatch)

end DeviceKind

namespace Client

/-- Bind an address. -/
def bindPoint (c : Client) (address : GroupAddress) (dpt : Dpt) :
    Except Fault (Point × Client) := do
  let (id, registry) ← c.registry.bind address dpt
  pure (⟨address, dpt, id⟩, { c with registry := registry })

/-- Bind an address for a device. -/
def bindDevice (c : Client) (kind : DeviceKind) (address : GroupAddress) :
    Except Fault (Point × Client) := do
  let dpt ← kind.dpt
  c.bindPoint address dpt

/-- Give up a handle. -/
def release (c : Client) (p : Point) : Client :=
  { c with registry := c.registry.unbind p.binding }

/-- The last value of a point. -/
def pointValue? (c : Client) (p : Point) : Option Value := c.registry.value? p.binding

/-- Whether a switch is on, as far as the client knows. -/
def switchState? (c : Client) (p : Point) : Option Bool := (c.pointValue? p).bind Value.asBool?

/-- How bright a dimmer is, as far as the client knows. -/
def dimmerLevel? (c : Client) (p : Point) : Option UInt8 := (c.pointValue? p).bind Value.asLevel?

end Client

/-! ### Writing -/

/-- **What is written to a point.** -/
inductive Setting
  | value (v : Value)
  /-- The opposite of what a switch is; off, if it is not known to be anything. -/
  | inverted
  deriving DecidableEq

/-- **A call to write to a point.** -/
inductive Writing
  | start (setting : Setting)
  | queueing (value : Value) (request : Queueing)
  deriving DecidableEq

namespace Writing

/-- The value of a setting. -/
def valueOf (p : Point) (setting : Setting) (c : Client) : Value :=
  match setting with
  | .value v => v
  | .inverted => .bool !((c.switchState? p).getD false)

/-- Remember the value once the request is in the queue. -/
def queued (p : Point) (v : Value) (r : Progress (Except Fault Unit) Queueing × Client) :
    Progress (Except Fault Unit) Writing × Client :=
  match r with
  | (.waiting request, c) => (.waiting (.queueing v request), c)
  | (.done (.error f), c) => (.done (.error f), c)
  | (.done (.ok ()), c) => (.done (.ok ()), { c with registry := c.registry.store p.binding v })

/-- Run the call until it has to wait. -/
def poll (p : Point) (k : Writing) (c : Client) : Progress (Except Fault Unit) Writing × Client :=
  match k with
  | .start setting =>
    let v := valueOf p setting c
    match p.dpt.encode v with
    | .error f => (.done (.error f), c)
    | .ok data =>
      let request := Queueing.start (.groupWrite c.config.individualAddress p.address data)
      queued p v (request.poll c)
  | .queueing v request => queued p v (request.poll c)

end Writing

/-! ### Waiting -/

/-- **A call to wait for the next value of a point.** -/
inductive Updating
  | start
  | awaiting
  deriving DecidableEq

namespace Updating

/-- Run the call until it has to wait. A value that came before the call began does not
count. -/
def poll (p : Point) (k : Updating) (c : Client) : Progress Value Updating × Client :=
  match k with
  | .start => (.waiting .awaiting, { c with registry := c.registry.beginWait p.binding })
  | .awaiting =>
    match c.registry.takeUpdate? p.binding with
    | some (v, registry) => (.done v, { c with registry := registry })
    | none => (.waiting .awaiting, c)

end Updating

end KnxIp
