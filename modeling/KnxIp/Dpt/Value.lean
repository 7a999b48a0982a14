import KnxIp.Binary32
import KnxIp.Fault

/-!
# Values of datapoints

What telegrams carry once a datapoint type has read them: a truth value, a direction
with a step, a whole number or a measurement.
-/

namespace KnxIp

/-! ### Steps -/

/-- **How far to go**: not at all, or into how many intervals the whole range is cut, of
which one is gone. -/
inductive StepCode
  /-- Stop what is under way. -/
  | stop
  | intervals1
  | intervals2
  | intervals4
  | intervals8
  | intervals16
  | intervals32
  | intervals64
  deriving DecidableEq

namespace StepCode

/-- The codes, in the order of their three bits. -/
def all : List StepCode :=
  [.stop, .intervals1, .intervals2, .intervals4, .intervals8, .intervals16, .intervals32,
    .intervals64]

/-- The three bits of a code. -/
def bits : StepCode → Nat
  | .stop => 0
  | .intervals1 => 1
  | .intervals2 => 2
  | .intervals4 => 3
  | .intervals8 => 4
  | .intervals16 => 5
  | .intervals32 => 6
  | .intervals64 => 7

/-- The code of three bits; no other number has one. -/
def ofBits (n : Nat) : Except Fault StepCode :=
  match all[n]? with
  | some code => .ok code
  | none => .error (.dpt .invalidData)

/-- The number of intervals: none to stop, else a power of two. -/
def intervals : StepCode → Nat
  | .stop => 0
  | code => 1 <<< (code.bits - 1)

/-- The name of a code. -/
def name : StepCode → String
  | .stop => "Break"
  | .intervals1 => "Intervals1"
  | .intervals2 => "Intervals2"
  | .intervals4 => "Intervals4"
  | .intervals8 => "Intervals8"
  | .intervals16 => "Intervals16"
  | .intervals32 => "Intervals32"
  | .intervals64 => "Intervals64"

end StepCode

/-- **A direction and a step.** -/
structure ControlCommand where
  /-- Whether to increase, or to move down. -/
  forward : Bool
  step : StepCode
  deriving DecidableEq

/-! ### Values -/

/-- **A value of a datapoint.** -/
inductive Value
  | bool (b : Bool)
  | control (command : ControlCommand)
  | unsigned (n : UInt16)
  | float (x : Binary32)
  deriving DecidableEq

namespace Value

/-- The truth value, if it is one. -/
def asBool? : Value → Option Bool
  | .bool b => some b
  | _ => none

/-- The value as a number: a truth value is one or zero, a step its number of
intervals. -/
def number : Value → Binary32
  | .bool b => Binary32.ofNat b.toNat
  | .control c => Binary32.ofNat c.step.intervals
  | .unsigned n => Binary32.ofNat n.toNat
  | .float x => x

/-- The value as a level of at most 255, if it is one. -/
def asLevel? : Value → Option UInt8
  | .unsigned n => if n.toNat < 256 then some (UInt8.ofNat n.toNat) else none
  | _ => none

/-- How a value is written. -/
def text : Value → String
  | .bool b => if b then "true" else "false"
  | .control c => (if c.forward then "+" else "-") ++ Text.decimal c.step.intervals
  | .unsigned n => Text.decimal n.toNat
  | .float x => x.text

end Value

end KnxIp
