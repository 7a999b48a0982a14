import KnxIp.Text.Blank
import KnxIp.Text.Fields

/-!
# Log levels

How much a client reports about its own working, from nothing at all to every step.
-/

namespace KnxIp

/-- **A log level.** -/
inductive LogLevel
  | off
  | error
  | warn
  | info
  | debug
  | trace
  deriving DecidableEq

namespace LogLevel

/-- The levels, the quietest first. -/
def all : List LogLevel := [.off, .error, .warn, .info, .debug, .trace]

/-- How much a level reports, as a rank. -/
def rank : LogLevel → Nat
  | .off => 0
  | .error => 1
  | .warn => 2
  | .info => 3
  | .debug => 4
  | .trace => 5

/-- The name of a level. -/
def name : LogLevel → String
  | .off => "Off"
  | .error => "Error"
  | .warn => "Warn"
  | .info => "Info"
  | .debug => "Debug"
  | .trace => "Trace"

/-- The level that a text names, whatever the case of its letters and with blanks
around it. -/
def ofText? (cs : List Char) : Option LogLevel :=
  all.find? fun level => Text.sameFolded level.name.toList (Text.trim cs)

end LogLevel

end KnxIp
