import KnxIp.Address
import KnxIp.Frame.Hpai
import KnxIp.LogLevel

/-!
# The settings of a client

`KnxIp.Config` says which gateway a client talks to and how long it waits for what.
Times are in milliseconds. Every setting but the gateway has a default, which
`KnxIp.Config.ofGateway` fills in.
-/

namespace KnxIp

/-- **The settings of a client.** -/
structure Config where
  /-- Where the gateway receives control frames. -/
  gateway : Endpoint
  /-- What the client announces as its own endpoint. -/
  localEndpoint : Hpai
  /-- The source of the telegrams that the client sends. -/
  individualAddress : IndividualAddress
  connectTimeout : Nat
  heartbeatInterval : Nat
  heartbeatTimeout : Nat
  /-- How many heartbeats in a row may go unanswered before the session counts as lost. -/
  heartbeatMaxMisses : UInt8
  ackTimeout : Nat
  /-- How often a request is repeated whose acknowledgement does not come. -/
  ackRetries : UInt8
  readTimeout : Nat
  disconnectTimeout : Nat
  /-- Whether a request is delivered only once the gateway has confirmed it. -/
  awaitConfirmation : Bool
  confirmationTimeout : Nat
  /-- How long the client rests after a request before the next one. -/
  sendQueueInterval : Nat
  logLevel : LogLevel
  deriving DecidableEq

namespace Config

/-- The settings for a gateway that change nothing else. -/
def ofGateway (gateway : Endpoint) : Config where
  gateway := gateway
  localEndpoint := .unspecified
  individualAddress := .unassigned
  connectTimeout := 10000
  heartbeatInterval := 60000
  heartbeatTimeout := 10000
  heartbeatMaxMisses := 2
  ackTimeout := 1000
  ackRetries := 1
  readTimeout := 3000
  disconnectTimeout := 10000
  awaitConfirmation := false
  confirmationTimeout := 3000
  sendQueueInterval := 25
  logLevel := .info

/-- A change to the settings. -/
inductive Change
  | localEndpoint (endpoint : Hpai)
  | individualAddress (address : IndividualAddress)
  | connectTimeout (ms : Nat)
  | heartbeat (interval timeout : Nat) (maxMisses : UInt8)
  | ack (timeout : Nat) (retries : UInt8)
  | readTimeout (ms : Nat)
  | disconnectTimeout (ms : Nat)
  /-- Wait for confirmations, and for each of them so long. -/
  | confirmation (timeout : Nat)
  | sendQueueInterval (ms : Nat)
  | logLevel (level : LogLevel)

/-- The settings after a change. -/
def change (c : Config) : Change → Config
  | .localEndpoint endpoint => { c with localEndpoint := endpoint }
  | .individualAddress address => { c with individualAddress := address }
  | .connectTimeout ms => { c with connectTimeout := ms }
  | .heartbeat interval timeout maxMisses =>
    { c with
      heartbeatInterval := interval
      heartbeatTimeout := timeout
      heartbeatMaxMisses := maxMisses }
  | .ack timeout retries => { c with ackTimeout := timeout, ackRetries := retries }
  | .readTimeout ms => { c with readTimeout := ms }
  | .disconnectTimeout ms => { c with disconnectTimeout := ms }
  | .confirmation timeout =>
    { c with awaitConfirmation := true, confirmationTimeout := timeout }
  | .sendQueueInterval ms => { c with sendQueueInterval := ms }
  | .logLevel level => { c with logLevel := level }

end Config

end KnxIp
