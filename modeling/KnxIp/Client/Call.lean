import KnxIp.Client.Lifecycle
import KnxIp.Client.Point

/-!
# Calls

Everything that an application can ask a client for and that may have to wait, as one
type: `KnxIp.Call.poll` runs a call until it has to wait, and `KnxIp.Call.cancel` stops it
where it is.
-/

namespace KnxIp

/-- **What a call answers.** -/
inductive Answer
  | nothing
  | channel (channel : UInt8)
  | data (data : Apdu)
  | value (value : Value)
  | flag (b : Bool)
  | level (level : UInt8)
  | number (x : Binary32)
  deriving DecidableEq

/-- **How a caller wants to have the answer to a read.** -/
inductive ReadForm
  /-- As it came. -/
  | data
  /-- As a value of a datapoint type. -/
  | value (dpt : Dpt)
  /-- As a truth value. -/
  | flag (dpt : Dpt)
  /-- As a level. -/
  | level (dpt : Dpt)
  /-- As a number. -/
  | number (dpt : Dpt)
  deriving DecidableEq

namespace ReadForm

/-- The fault of a value that does not have the form. -/
def mismatch : Fault := .dpt .typeMismatch

/-- Data, in the form that is wanted. -/
def answer (form : ReadForm) (data : Apdu) : Except Fault Answer :=
  match form with
  | .data => .ok (.data data)
  | .value dpt => (dpt.decode data.toList).map .value
  | .number dpt => (dpt.decode data.toList).map fun v => .number v.number
  | .flag dpt => do
    let v ← dpt.decode data.toList
    match v.asBool? with
    | some b => pure (.flag b)
    | none => .error mismatch
  | .level dpt => do
    let v ← dpt.decode data.toList
    match v.asLevel? with
    | some n => pure (.level n)
    | none => .error mismatch

end ReadForm

/-- **A call**, with what it waits for. -/
inductive Call
  | connect (stage : Connecting)
  | disconnect (stage : Disconnecting)
  | close (stage : Closing)
  /-- Send a message, and wait until it is delivered. -/
  | send (stage : Sending)
  /-- Send a message, and do not wait for it. -/
  | enqueue (stage : Queueing)
  /-- A request that could not be made. -/
  | refused (fault : Fault)
  /-- Ask a group for its value. -/
  | read (form : ReadForm) (stage : Reading)
  /-- Write to a point. -/
  | write (point : Point) (stage : Writing)
  /-- Wait for a value of a point, and answer it as it is or as a number. -/
  | update (point : Point) (asNumber : Bool) (stage : Updating)
  deriving DecidableEq

namespace Call

/-! ### Beginning a call -/

/-- Write data to a group. -/
def writeGroup (config : Config) (address : GroupAddress) (data : Apdu) : Call :=
  .enqueue (.start (.groupWrite config.individualAddress address data))

/-- Answer for a group with data. -/
def respondGroup (config : Config) (address : GroupAddress) (data : Apdu) : Call :=
  .enqueue (.start (.groupResponse config.individualAddress address data))

/-- Write a value to a group. -/
def writeValue (config : Config) (address : GroupAddress) (dpt : Dpt) (v : Value) : Call :=
  match dpt.encode v with
  | .ok data => writeGroup config address data
  | .error f => .refused f

/-- Answer for a point with a value. -/
def respondPoint (config : Config) (p : Point) (v : Value) : Call :=
  match p.dpt.encode v with
  | .ok data => respondGroup config p.address data
  | .error f => .refused f

/-! ### Running a call -/

/-- Run a call until it has to wait. -/
def poll (k : Call) (c : Client) : Progress (Except Fault Answer) Call × Client :=
  let nothing : Except Fault Unit → Except Fault Answer := Except.map fun _ => .nothing
  match k with
  | .connect stage => (stage.poll c).map (.map (.map .channel) .connect) id
  | .disconnect stage => (stage.poll c).map (.map nothing .disconnect) id
  | .close stage => (stage.poll c).map (.map (fun _ => .ok .nothing) .close) id
  | .send stage => (stage.poll c).map (.map nothing .send) id
  | .enqueue stage => (stage.poll c).map (.map nothing .enqueue) id
  | .refused f => (.done (.error f), c)
  | .read form stage => (stage.poll c).map (.map (Except.bind · form.answer) (.read form)) id
  | .write p stage => (stage.poll p c).map (.map nothing (.write p)) id
  | .update p asNumber stage =>
    let answer (v : Value) : Answer := if asNumber then .number v.number else .value v
    (stage.poll p c).map (.map (fun v => .ok (answer v)) (.update p asNumber)) id

/-- Stop a call where it is. What it holds is given back; what it has begun goes on. -/
def cancel (k : Call) (c : Client) : Client :=
  match k with
  | .send stage => stage.cancel c
  | .read _ stage => stage.cancel c
  | _ => c

/-- When a call will run again if nothing else happens. -/
def deadline? : Call → Option Nat
  | .connect stage => stage.deadline?
  | .disconnect stage => stage.deadline?
  | .close stage => stage.deadline?
  | .read _ stage => stage.deadline?
  | _ => none

end Call

end KnxIp
