import KnxIp.Address.Text
import KnxIp.Config

/-!
# Settings as text

Settings are kept in a text of lines `KEY=VALUE`. A line that is blank, that starts with
`#` or that has no `=` says nothing; blanks around a line, a key and a value do not count;
a key that is not known is passed over. Only the gateway's address has to be there.

The gateway's address and port are what the *first* line with their key says. Of any
other key every line is read, in order, so that the last one decides.
-/

namespace KnxIp.Config

/-- **The keys of the text form.** -/
inductive Key
  | gatewayIp
  | gatewayPort
  | individualAddress
  | connectTimeout
  | heartbeatInterval
  | heartbeatTimeout
  | heartbeatMaxMisses
  | ackTimeout
  | ackRetries
  | readTimeout
  | disconnectTimeout
  | confirmationTimeout
  | sendQueueInterval
  | awaitConfirmation
  | logLevel
  deriving DecidableEq

namespace Key

/-- How a key is spelled. -/
def name : Key → String
  | .gatewayIp => "KNX_GATEWAY_IP"
  | .gatewayPort => "KNX_GATEWAY_PORT"
  | .individualAddress => "KNX_INDIVIDUAL_ADDRESS"
  | .connectTimeout => "KNX_CONNECT_TIMEOUT_MS"
  | .heartbeatInterval => "KNX_HEARTBEAT_INTERVAL_MS"
  | .heartbeatTimeout => "KNX_HEARTBEAT_TIMEOUT_MS"
  | .heartbeatMaxMisses => "KNX_HEARTBEAT_MAX_MISSES"
  | .ackTimeout => "KNX_ACK_TIMEOUT_MS"
  | .ackRetries => "KNX_ACK_RETRIES"
  | .readTimeout => "KNX_READ_TIMEOUT_MS"
  | .disconnectTimeout => "KNX_DISCONNECT_TIMEOUT_MS"
  | .confirmationTimeout => "KNX_CONFIRMATION_TIMEOUT_MS"
  | .sendQueueInterval => "KNX_SEND_QUEUE_INTERVAL_MS"
  | .awaitConfirmation => "KNX_AWAIT_CONFIRMATION"
  | .logLevel => "KNX_LOG_LEVEL"

/-- Every key once. -/
def all : List Key :=
  [.gatewayIp, .gatewayPort, .individualAddress, .connectTimeout, .heartbeatInterval,
    .heartbeatTimeout, .heartbeatMaxMisses, .ackTimeout, .ackRetries, .readTimeout,
    .disconnectTimeout, .confirmationTimeout, .sendQueueInterval, .awaitConfirmation,
    .logLevel]

/-- The key with this spelling. -/
def ofText? (cs : List Char) : Option Key := all.find? fun key => key.name.toList == cs

end Key

/-! ### Lines -/

/-- What a line says: a key and the text of its value. -/
def entry? (line : List Char) : Option (Key × List Char) :=
  let line := Text.trim line
  if line.head? = some '#' then
    none
  else
    (Text.cutFirst '=' line).bind fun (key, value) =>
      (Key.ofText? (Text.trim key)).map fun key => (key, Text.trim value)

/-- What the lines of a text say, in order. -/
def entries (text : List Char) : List (Key × List Char) := (Text.lines text).filterMap entry?

/-- What the first line with this key says. -/
def firstValue? (key : Key) (es : List (Key × List Char)) : Option (List Char) :=
  (es.find? fun e => e.1 = key).map Prod.snd

/-! ### Values -/

/-- A number that fits into an octet. -/
def readOctet? (value : List Char) : Option UInt8 := (Text.readBelow? 256 value).map UInt8.ofNat

/-- A port. -/
def readPort? (value : List Char) : Option UInt16 :=
  (Text.readBelow? 65536 value).map UInt16.ofNat

/-- A time. -/
def readTime? (value : List Char) : Option Nat := Text.readBelow? 18446744073709551616 value

/-- A truth value: a digit, or a word whatever the case of its letters. -/
def readTruth? (value : List Char) : Option Bool :=
  if value = ['1'] || Text.sameFolded value "true".toList then some true
  else if value = ['0'] || Text.sameFolded value "false".toList then some false
  else none

/-- The settings after a line; `none` if the value is not one of its key. The gateway's
address and port do not change here. -/
def set? (c : Config) (key : Key) (value : List Char) : Option Config :=
  match key with
  | .gatewayIp => some c
  | .gatewayPort => some c
  | .individualAddress =>
    (IndividualAddress.ofText value).toOption.map fun a => { c with individualAddress := a }
  | .connectTimeout => (readTime? value).map fun t => { c with connectTimeout := t }
  | .heartbeatInterval => (readTime? value).map fun t => { c with heartbeatInterval := t }
  | .heartbeatTimeout => (readTime? value).map fun t => { c with heartbeatTimeout := t }
  | .heartbeatMaxMisses => (readOctet? value).map fun n => { c with heartbeatMaxMisses := n }
  | .ackTimeout => (readTime? value).map fun t => { c with ackTimeout := t }
  | .ackRetries => (readOctet? value).map fun n => { c with ackRetries := n }
  | .readTimeout => (readTime? value).map fun t => { c with readTimeout := t }
  | .disconnectTimeout => (readTime? value).map fun t => { c with disconnectTimeout := t }
  | .confirmationTimeout => (readTime? value).map fun t => { c with confirmationTimeout := t }
  | .sendQueueInterval => (readTime? value).map fun t => { c with sendQueueInterval := t }
  | .awaitConfirmation => (readTruth? value).map fun b => { c with awaitConfirmation := b }
  | .logLevel => (LogLevel.ofText? value).map fun l => { c with logLevel := l }

/-- A value, or the fault that there is none. -/
def valueOrFault {α : Type} : Option α → Except Fault α
  | some a => .ok a
  | none => .error (.config .invalidValue)

/-! ### The whole text -/

/-- The settings that entries describe. -/
def ofEntries (es : List (Key × List Char)) : Except Fault Config :=
  match firstValue? .gatewayIp es with
  | none => .error (.config .missingKey)
  | some value => do
    let ip ← Ipv4.parse value
    let port ←
      match firstValue? .gatewayPort es with
      | none => pure defaultPort
      | some value => valueOrFault (readPort? value)
    es.foldlM (fun c e => valueOrFault (c.set? e.1 e.2)) (ofGateway ⟨ip, port⟩)

/-- **The settings that a text describes.** -/
def parse (text : String) : Except Fault Config := ofEntries (entries text.toList)

end KnxIp.Config
