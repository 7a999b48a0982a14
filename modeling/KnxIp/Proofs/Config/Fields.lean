import KnxIp.Config.Text

/-!
# Keys and the fields of the settings

Every key has its field of the settings, with its type of values, and its way of reading a
value (`KnxIp.Config.get`, `KnxIp.Config.put`, `KnxIp.Config.Key.read?`). The fields of
different keys are apart, and together they are all of the settings but what the client
announces as its own endpoint (`KnxIp.Config.ext_get`).

An entry that is taken in gives the field of its key the value that is read, and changes
nothing else (`KnxIp.Config.set?_eq`). The keys of the gateway are read apart from the others,
but in the same way.
-/

namespace KnxIp.Config

/-! ### Keys and fields -/

namespace Key

/-- What kind of value a key has. -/
abbrev Value : Key → Type
  | .gatewayIp => Ipv4
  | .gatewayPort => UInt16
  | .individualAddress => IndividualAddress
  | .connectTimeout => Nat
  | .heartbeatInterval => Nat
  | .heartbeatTimeout => Nat
  | .heartbeatMaxMisses => UInt8
  | .ackTimeout => Nat
  | .ackRetries => UInt8
  | .readTimeout => Nat
  | .disconnectTimeout => Nat
  | .confirmationTimeout => Nat
  | .sendQueueInterval => Nat
  | .awaitConfirmation => Bool
  | .logLevel => LogLevel

/-- **The value that a text stands for** as the value of a key. -/
def read? : (key : Key) → List Char → Option key.Value
  | .gatewayIp, value => (Ipv4.parse value).toOption
  | .gatewayPort, value => readPort? value
  | .individualAddress, value => (IndividualAddress.ofText value).toOption
  | .connectTimeout, value => readTime? value
  | .heartbeatInterval, value => readTime? value
  | .heartbeatTimeout, value => readTime? value
  | .heartbeatMaxMisses, value => readOctet? value
  | .ackTimeout, value => readTime? value
  | .ackRetries, value => readOctet? value
  | .readTimeout, value => readTime? value
  | .disconnectTimeout, value => readTime? value
  | .confirmationTimeout, value => readTime? value
  | .sendQueueInterval, value => readTime? value
  | .awaitConfirmation, value => readTruth? value
  | .logLevel, value => LogLevel.ofText? value

/-- Whether a key is about the gateway. -/
def isGateway : Key → Bool
  | .gatewayIp => true
  | .gatewayPort => true
  | _ => false

end Key

/-- **The field of a key.** -/
def get (c : Config) : (key : Key) → key.Value
  | .gatewayIp => c.gateway.ip
  | .gatewayPort => c.gateway.port
  | .individualAddress => c.individualAddress
  | .connectTimeout => c.connectTimeout
  | .heartbeatInterval => c.heartbeatInterval
  | .heartbeatTimeout => c.heartbeatTimeout
  | .heartbeatMaxMisses => c.heartbeatMaxMisses
  | .ackTimeout => c.ackTimeout
  | .ackRetries => c.ackRetries
  | .readTimeout => c.readTimeout
  | .disconnectTimeout => c.disconnectTimeout
  | .confirmationTimeout => c.confirmationTimeout
  | .sendQueueInterval => c.sendQueueInterval
  | .awaitConfirmation => c.awaitConfirmation
  | .logLevel => c.logLevel

/-- The settings with another value in the field of a key. -/
def put (c : Config) : (key : Key) → key.Value → Config
  | .gatewayIp, ip => { c with gateway := { c.gateway with ip := ip } }
  | .gatewayPort, port => { c with gateway := { c.gateway with port := port } }
  | .individualAddress, a => { c with individualAddress := a }
  | .connectTimeout, t => { c with connectTimeout := t }
  | .heartbeatInterval, t => { c with heartbeatInterval := t }
  | .heartbeatTimeout, t => { c with heartbeatTimeout := t }
  | .heartbeatMaxMisses, n => { c with heartbeatMaxMisses := n }
  | .ackTimeout, t => { c with ackTimeout := t }
  | .ackRetries, n => { c with ackRetries := n }
  | .readTimeout, t => { c with readTimeout := t }
  | .disconnectTimeout, t => { c with disconnectTimeout := t }
  | .confirmationTimeout, t => { c with confirmationTimeout := t }
  | .sendQueueInterval, t => { c with sendQueueInterval := t }
  | .awaitConfirmation, b => { c with awaitConfirmation := b }
  | .logLevel, l => { c with logLevel := l }

@[simp] theorem get_put (c : Config) (key : Key) (value : key.Value) :
    (c.put key value).get key = value := by
  cases key <;> rfl

theorem get_put_of_ne (c : Config) {key other : Key} (h : other ≠ key) (value : key.Value) :
    (c.put key value).get other = c.get other := by
  cases key <;> cases other <;> first | rfl | exact absurd rfl h

@[simp] theorem localEndpoint_put (c : Config) (key : Key) (value : key.Value) :
    (c.put key value).localEndpoint = c.localEndpoint := by
  cases key <;> rfl

/-- No key is about the endpoint that the client announces as its own. Everything else in the
settings is the field of a key. -/
theorem ext_get {c d : Config} (hlocal : c.localEndpoint = d.localEndpoint)
    (h : ∀ key, c.get key = d.get key) : c = d := by
  obtain ⟨⟨_, _⟩, _, _, _, _, _, _, _, _, _, _, _, _, _, _⟩ := c
  obtain ⟨⟨_, _⟩, _, _, _, _, _, _, _, _, _, _, _, _, _, _⟩ := d
  simp only [mk.injEq, Endpoint.mk.injEq]
  exact ⟨⟨h .gatewayIp, h .gatewayPort⟩, hlocal, h .individualAddress, h .connectTimeout,
    h .heartbeatInterval, h .heartbeatTimeout, h .heartbeatMaxMisses, h .ackTimeout,
    h .ackRetries, h .readTimeout, h .disconnectTimeout, h .awaitConfirmation,
    h .confirmationTimeout, h .sendQueueInterval, h .logLevel⟩

/-- Only the fields of the gateway depend on the gateway. -/
theorem get_ofGateway {key : Key} (h : key.isGateway = false) (gateway other : Endpoint) :
    (ofGateway gateway).get key = (ofGateway other).get key := by
  cases key <;> first | rfl | cases h

/-! ### One entry -/

theorem set?_of_isGateway (c : Config) {key : Key} (h : key.isGateway = true)
    (value : List Char) : c.set? key value = some c := by
  cases key <;> first | rfl | cases h

/-- **An entry changes the field of its key**, if its value can be read. -/
theorem set?_eq (c : Config) {key : Key} (h : key.isGateway = false) (value : List Char) :
    c.set? key value = (key.read? value).map (c.put key) := by
  cases key <;> first | rfl | cases h

/-- The gateway's address is read as the value of its key. -/
theorem valueOrFault_read?_gatewayIp (value : List Char) :
    valueOrFault (Key.gatewayIp.read? value) = Ipv4.parse value := by
  simp only [Key.read?, Ipv4.parse]
  cases Ipv4.ofFields? (Text.fields '.' value) <;> rfl

theorem valueOrFault_read?_gatewayPort (value : List Char) :
    valueOrFault (Key.gatewayPort.read? value) = valueOrFault (readPort? value) := rfl

end KnxIp.Config
