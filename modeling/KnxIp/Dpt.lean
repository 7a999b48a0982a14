import KnxIp.Fault
import KnxIp.Text.Blank
import KnxIp.Text.Fields

/-!
# Datapoint types

The data of a telegram does not say what it means. A *datapoint type* does: it fixes how
many bits a value has, how they are read, and what the value measures. The types come in
families – of one bit, of a direction and a step, of one octet, of a word, and of a
number with a decimal fraction – and a family has a type for each use. This module names
the types; `KnxIp.Dpt.encode` and `KnxIp.Dpt.decode` are their codecs.
-/

namespace KnxIp

/-! ### The families -/

/-- Types of one bit. -/
inductive BooleanDpt
  | switch
  | bool
  | enable
  | alarm
  | step
  | upDown
  | openClose
  | start
  | state
  deriving DecidableEq

/-- Types of a direction and a step. -/
inductive ControlDpt
  | dimming
  | blind
  deriving DecidableEq

/-- Types of one octet, some of which is a scale. -/
inductive OctetDpt
  | percentage
  | angle
  | percentOctet
  | ratio
  | counter
  deriving DecidableEq

/-- Types of a word. -/
inductive WordDpt
  | pulses
  | milliseconds
  | seconds
  | hours
  | current
  | brightness
  | colorTemperature
  deriving DecidableEq

/-- Types of a number with a decimal fraction, in a word. -/
inductive FloatDpt
  | temperature
  | temperatureDifference
  | illuminance
  | windSpeed
  | pressure
  | humidity
  | airQuality
  deriving DecidableEq

/-- **A datapoint type**, under its family. -/
inductive Dpt
  | boolean (type : BooleanDpt)
  | control (type : ControlDpt)
  | octet (type : OctetDpt)
  | word (type : WordDpt)
  | float (type : FloatDpt)
  deriving DecidableEq

/-! ### Identifiers and labels -/

namespace BooleanDpt

/-- Every type of the family, by identifier. -/
def all : List BooleanDpt :=
  [.switch, .bool, .enable, .alarm, .step, .upDown, .openClose, .start, .state]

/-- The number of the family and of the type. -/
def identifier : BooleanDpt → String
  | .switch => "1.001"
  | .bool => "1.002"
  | .enable => "1.003"
  | .alarm => "1.005"
  | .step => "1.007"
  | .upDown => "1.008"
  | .openClose => "1.009"
  | .start => "1.010"
  | .state => "1.011"

/-- What the two states are called, the one without the bit first. -/
def labels : BooleanDpt → String × String
  | .switch => ("off", "on")
  | .bool => ("false", "true")
  | .enable => ("disable", "enable")
  | .alarm => ("no alarm", "alarm")
  | .step => ("decrease", "increase")
  | .upDown => ("up", "down")
  | .openClose => ("open", "close")
  | .start => ("stop", "start")
  | .state => ("inactive", "active")

end BooleanDpt

namespace ControlDpt

/-- Every type of the family, by identifier. -/
def all : List ControlDpt := [.dimming, .blind]

/-- The number of the family and of the type. -/
def identifier : ControlDpt → String
  | .dimming => "3.007"
  | .blind => "3.008"

/-- What the two directions are called, the one without the bit first. -/
def labels : ControlDpt → String × String
  | .dimming => ("decrease", "increase")
  | .blind => ("up", "down")

end ControlDpt

namespace OctetDpt

/-- Every type of the family, by identifier. -/
def all : List OctetDpt := [.percentage, .angle, .percentOctet, .ratio, .counter]

/-- The number of the family and of the type. -/
def identifier : OctetDpt → String
  | .percentage => "5.001"
  | .angle => "5.003"
  | .percentOctet => "5.004"
  | .ratio => "5.005"
  | .counter => "5.010"

/-- The unit of a value. -/
def unit : OctetDpt → String
  | .percentage => "%"
  | .angle => "°"
  | .percentOctet => "%"
  | .ratio => ""
  | .counter => "pulses"

/-- The greatest value, which the octet 255 stands for. -/
def max : OctetDpt → Nat
  | .percentage => 100
  | .angle => 360
  | .percentOctet => 255
  | .ratio => 255
  | .counter => 255

end OctetDpt

namespace WordDpt

/-- Every type of the family, by identifier. -/
def all : List WordDpt :=
  [.pulses, .milliseconds, .seconds, .hours, .current, .brightness, .colorTemperature]

/-- The number of the family and of the type. -/
def identifier : WordDpt → String
  | .pulses => "7.001"
  | .milliseconds => "7.002"
  | .seconds => "7.005"
  | .hours => "7.007"
  | .current => "7.012"
  | .brightness => "7.013"
  | .colorTemperature => "7.600"

/-- The unit of a value. -/
def unit : WordDpt → String
  | .pulses => "pulses"
  | .milliseconds => "ms"
  | .seconds => "s"
  | .hours => "h"
  | .current => "mA"
  | .brightness => "lux"
  | .colorTemperature => "K"

end WordDpt

namespace FloatDpt

/-- Every type of the family, by identifier. -/
def all : List FloatDpt :=
  [.temperature, .temperatureDifference, .illuminance, .windSpeed, .pressure, .humidity,
    .airQuality]

/-- The number of the family and of the type. -/
def identifier : FloatDpt → String
  | .temperature => "9.001"
  | .temperatureDifference => "9.002"
  | .illuminance => "9.004"
  | .windSpeed => "9.005"
  | .pressure => "9.006"
  | .humidity => "9.007"
  | .airQuality => "9.008"

/-- The unit of a value. -/
def unit : FloatDpt → String
  | .temperature => "°C"
  | .temperatureDifference => "K"
  | .illuminance => "lux"
  | .windSpeed => "m/s"
  | .pressure => "Pa"
  | .humidity => "%"
  | .airQuality => "ppm"

end FloatDpt

namespace Dpt

/-- The number of the family and of the type, with a point between them. -/
def identifier : Dpt → String
  | .boolean t => t.identifier
  | .control t => t.identifier
  | .octet t => t.identifier
  | .word t => t.identifier
  | .float t => t.identifier

/-- The number of the family. -/
def family : Dpt → Nat
  | .boolean _ => 1
  | .control _ => 3
  | .octet _ => 5
  | .word _ => 7
  | .float _ => 9

/-- Whether values have at most six bits and travel inside the service code. -/
def isShort : Dpt → Bool
  | .boolean _ => true
  | .control _ => true
  | _ => false

/-- Whether values are measurements: numbers, and neither a bit nor a step. -/
def isMeasurement : Dpt → Bool
  | .octet _ => true
  | .word _ => true
  | .float _ => true
  | _ => false

/-- Every type, by family and identifier. -/
def all : List Dpt :=
  BooleanDpt.all.map .boolean ++ ControlDpt.all.map .control ++ OctetDpt.all.map .octet ++
    WordDpt.all.map .word ++ FloatDpt.all.map .float

/-- A text without the word `DPT` at its start, whatever the case of its letters. -/
def withoutWord (cs : List Char) : List Char :=
  if Text.sameFolded (cs.take 3) "dpt".toList then cs.drop 3 else cs

/-- The type with this identifier, which may have blanks around it and the word `DPT`
directly in front of it. -/
def parse (text : String) : Except Fault Dpt :=
  let name := withoutWord (Text.trim text.toList)
  match all.find? fun t => t.identifier.toList == name with
  | some t => .ok t
  | none => .error (.dpt .unknownType)

end Dpt

end KnxIp
