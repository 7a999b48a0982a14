/-!
# Faults

Everything in this library that can fail fails with a `KnxIp.Fault`. A fault names a
*cause*, sorted into nine families – what could not be decoded, which rule of the
protocol was broken, which wait ran out, and so on – and never carries a text of its
own. Its wording is computed from the cause, in two forms: `KnxIp.Fault.label`, the
family and the cause separated by a point, and `KnxIp.Fault.message`, the sentence that
a person reads. Two causes carry a status octet of the gateway, which the message shows
and the label leaves out.
-/

namespace KnxIp

/-! ### The families -/

/-- Octets that do not have the form of what they should be. -/
inductive DecodeFault
  /-- Fewer than six octets, a wrong header, or a total length that is not the datagram's. -/
  | malformedHeader
  /-- A service that tunnelling does not use. -/
  | unknownServiceType
  /-- A body too short for its service. -/
  | truncatedBody
  /-- A message whose lengths do not fit together. -/
  | invalidCemi
  /-- A message that is neither a request, an indication nor a confirmation. -/
  | unsupportedMessageCode
  deriving DecidableEq

/-- Rules of the protocol that the other side broke. -/
inductive ProtocolFault
  /-- An acknowledgement with another sequence number than the outstanding request. -/
  | sequenceMismatch
  /-- A frame of another channel. -/
  | channelMismatch
  /-- A frame that the present status does not expect. -/
  | unexpectedFrame
  deriving DecidableEq

/-- The waits that can run out. -/
inductive TimeoutFault
  | connect
  | ack
  | read
  | disconnect
  | confirmation
  deriving DecidableEq

/-- Failures of the datagram socket. -/
inductive TransportFault
  | sendFailed
  | receiveFailed
  | bufferTooSmall
  | closed
  deriving DecidableEq

/-- Failures of the session. -/
inductive ConnectionFault
  /-- The gateway refused the session with this status. -/
  | rejected (status : UInt8)
  | notConnected
  /-- The present status does not allow the operation. -/
  | invalidState
  /-- The session ended underneath the operation. -/
  | lost
  deriving DecidableEq

/-- Failures of a delivery, and shortages of the client's own tables. -/
inductive TunnelingFault
  /-- The gateway acknowledged with this status, which is not zero. -/
  | ackStatus (status : UInt8)
  /-- The gateway confirmed that the bus did not take the telegram. -/
  | negativeConfirmation
  | queueFull
  | tooManyPendingReads
  | registryFull
  | tooManySubscribers
  deriving DecidableEq

/-- Failures to read or build an address. -/
inductive AddressingFault
  | invalidFormat
  | outOfRange
  deriving DecidableEq

/-- Failures of a datapoint type to encode or decode. -/
inductive DptFault
  | invalidData
  | valueOutOfRange
  /-- A value of another shape than the datapoint type's. -/
  | typeMismatch
  | unknownType
  deriving DecidableEq

/-- Failures to read a configuration. -/
inductive ConfigFault
  | missingKey
  | invalidValue
  deriving DecidableEq

/-- **A fault**: the cause of a failure, under its family. -/
inductive Fault
  | decode (cause : DecodeFault)
  | protocol (cause : ProtocolFault)
  | timeout (cause : TimeoutFault)
  | transport (cause : TransportFault)
  | connection (cause : ConnectionFault)
  | tunneling (cause : TunnelingFault)
  | addressing (cause : AddressingFault)
  | dpt (cause : DptFault)
  | config (cause : ConfigFault)
  deriving DecidableEq

/-- Results compare by what they hold, so that states that keep results compare too. -/
instance instDecidableEqResult {ε α : Type} [DecidableEq ε] [DecidableEq α] :
    DecidableEq (Except ε α)
  | .ok a, .ok b => decidable_of_iff (a = b) (by simp)
  | .error e, .error f => decidable_of_iff (e = f) (by simp)
  | .ok _, .error _ => isFalse (by simp)
  | .error _, .ok _ => isFalse (by simp)

/-! ### Names

The name of a cause is the same in the label and in the message; a status follows it in
parentheses in the message only. -/

/-- The name of a cause of `KnxIp.DecodeFault`. -/
def DecodeFault.name : DecodeFault → String
  | .malformedHeader => "MalformedHeader"
  | .unknownServiceType => "UnknownServiceType"
  | .truncatedBody => "TruncatedBody"
  | .invalidCemi => "InvalidCemi"
  | .unsupportedMessageCode => "UnsupportedMessageCode"

/-- The name of a cause of `KnxIp.ProtocolFault`. -/
def ProtocolFault.name : ProtocolFault → String
  | .sequenceMismatch => "SequenceMismatch"
  | .channelMismatch => "ChannelMismatch"
  | .unexpectedFrame => "UnexpectedFrame"

/-- The name of a cause of `KnxIp.TimeoutFault`. -/
def TimeoutFault.name : TimeoutFault → String
  | .connect => "Connect"
  | .ack => "Ack"
  | .read => "Read"
  | .disconnect => "Disconnect"
  | .confirmation => "Confirmation"

/-- The name of a cause of `KnxIp.TransportFault`. -/
def TransportFault.name : TransportFault → String
  | .sendFailed => "SendFailed"
  | .receiveFailed => "ReceiveFailed"
  | .bufferTooSmall => "BufferTooSmall"
  | .closed => "Closed"

/-- The name of a cause of `KnxIp.ConnectionFault`. -/
def ConnectionFault.name : ConnectionFault → String
  | .rejected _ => "Rejected"
  | .notConnected => "NotConnected"
  | .invalidState => "InvalidState"
  | .lost => "Lost"

/-- The name of a cause of `KnxIp.TunnelingFault`. -/
def TunnelingFault.name : TunnelingFault → String
  | .ackStatus _ => "AckStatus"
  | .negativeConfirmation => "NegativeConfirmation"
  | .queueFull => "QueueFull"
  | .tooManyPendingReads => "TooManyPendingReads"
  | .registryFull => "RegistryFull"
  | .tooManySubscribers => "TooManySubscribers"

/-- The name of a cause of `KnxIp.AddressingFault`. -/
def AddressingFault.name : AddressingFault → String
  | .invalidFormat => "InvalidFormat"
  | .outOfRange => "OutOfRange"

/-- The name of a cause of `KnxIp.DptFault`. -/
def DptFault.name : DptFault → String
  | .invalidData => "InvalidData"
  | .valueOutOfRange => "ValueOutOfRange"
  | .typeMismatch => "TypeMismatch"
  | .unknownType => "UnknownType"

/-- The name of a cause of `KnxIp.ConfigFault`. -/
def ConfigFault.name : ConfigFault → String
  | .missingKey => "MissingKey"
  | .invalidValue => "InvalidValue"

namespace Fault

/-- The name of the family that a fault belongs to. -/
def family : Fault → String
  | .decode _ => "Decode"
  | .protocol _ => "Protocol"
  | .timeout _ => "Timeout"
  | .transport _ => "Transport"
  | .connection _ => "Connection"
  | .tunneling _ => "Tunneling"
  | .addressing _ => "Addressing"
  | .dpt _ => "Dpt"
  | .config _ => "Config"

/-- The name of the cause, without its status. -/
def causeName : Fault → String
  | .decode c => c.name
  | .protocol c => c.name
  | .timeout c => c.name
  | .transport c => c.name
  | .connection c => c.name
  | .tunneling c => c.name
  | .addressing c => c.name
  | .dpt c => c.name
  | .config c => c.name

/-- The status octet that the cause carries, if it carries one. -/
def status? : Fault → Option UInt8
  | .connection (.rejected status) => some status
  | .tunneling (.ackStatus status) => some status
  | _ => none

/-- Family and cause, separated by a point. -/
def label (f : Fault) : String := f.family ++ "." ++ f.causeName

/-- What a message says before the cause. -/
def preamble : Fault → String
  | .decode _ => "Decode error"
  | .protocol _ => "Protocol error"
  | .timeout _ => "Timeout"
  | .transport _ => "Transport error"
  | .connection _ => "Connection error"
  | .tunneling _ => "Tunneling error"
  | .addressing _ => "Addressing error"
  | .dpt _ => "DPT error"
  | .config _ => "Configuration error"

/-- The sentence that a person reads: the family in words, then the cause, then the
status in parentheses if there is one. -/
def message (f : Fault) : String :=
  f.preamble ++ ": " ++ f.causeName ++
    match f.status? with
    | some status => "(" ++ toString status.toNat ++ ")"
    | none => ""

/-- Every cause once; `status` is what the two causes that carry one are given. -/
def all (status : UInt8) : List Fault :=
  [.decode .malformedHeader, .decode .unknownServiceType, .decode .truncatedBody,
    .decode .invalidCemi, .decode .unsupportedMessageCode,
    .protocol .sequenceMismatch, .protocol .channelMismatch, .protocol .unexpectedFrame,
    .timeout .connect, .timeout .ack, .timeout .read, .timeout .disconnect,
    .timeout .confirmation,
    .transport .sendFailed, .transport .receiveFailed, .transport .bufferTooSmall,
    .transport .closed,
    .connection (.rejected status), .connection .notConnected, .connection .invalidState,
    .connection .lost,
    .tunneling (.ackStatus status), .tunneling .negativeConfirmation, .tunneling .queueFull,
    .tunneling .tooManyPendingReads, .tunneling .registryFull, .tunneling .tooManySubscribers,
    .addressing .invalidFormat, .addressing .outOfRange,
    .dpt .invalidData, .dpt .valueOutOfRange, .dpt .typeMismatch, .dpt .unknownType,
    .config .missingKey, .config .invalidValue]

/-- The fault with this label, if there is one. -/
def ofLabel? (label : String) (status : UInt8) : Option Fault :=
  (all status).find? fun f => f.label == label

/-! ### Questions a caller asks -/

/-- Whether the fault belongs to `KnxIp.DecodeFault`. -/
def isDecode : Fault → Bool
  | .decode _ => true
  | _ => false

/-- Whether the fault belongs to `KnxIp.ProtocolFault`. -/
def isProtocol : Fault → Bool
  | .protocol _ => true
  | _ => false

/-- Whether the fault belongs to `KnxIp.TimeoutFault`. -/
def isTimeout : Fault → Bool
  | .timeout _ => true
  | _ => false

/-- Whether the fault belongs to `KnxIp.TransportFault`. -/
def isTransport : Fault → Bool
  | .transport _ => true
  | _ => false

/-- Whether the fault belongs to `KnxIp.TunnelingFault`. -/
def isTunneling : Fault → Bool
  | .tunneling _ => true
  | _ => false

/-- Whether the fault belongs to `KnxIp.AddressingFault`. -/
def isAddressing : Fault → Bool
  | .addressing _ => true
  | _ => false

/-- Whether the fault belongs to `KnxIp.DptFault`. -/
def isDpt : Fault → Bool
  | .dpt _ => true
  | _ => false

/-- Whether the fault belongs to `KnxIp.ConfigFault`. -/
def isConfig : Fault → Bool
  | .config _ => true
  | _ => false

/-- Whether a header was wrong. -/
def isMalformedHeader (f : Fault) : Bool := f = .decode .malformedHeader

/-- Whether a service was not one of a tunnel. -/
def isUnknownServiceType (f : Fault) : Bool := f = .decode .unknownServiceType

/-- Whether a body was too short. -/
def isTruncatedBody (f : Fault) : Bool := f = .decode .truncatedBody

/-- Whether an acknowledgement had another sequence number than the request. -/
def isSequenceMismatch (f : Fault) : Bool := f = .protocol .sequenceMismatch

/-- Whether the wait for a connect response ran out. -/
def isConnectTimeout (f : Fault) : Bool := f = .timeout .connect

/-- Whether the wait for an acknowledgement ran out. -/
def isAckTimeout (f : Fault) : Bool := f = .timeout .ack

/-- Whether the wait for the answer to a read ran out. -/
def isReadTimeout (f : Fault) : Bool := f = .timeout .read

/-- Whether there was no session. -/
def isNotConnected (f : Fault) : Bool := f = .connection .notConnected

/-- Whether the status of the session did not allow the operation. -/
def isInvalidState (f : Fault) : Bool := f = .connection .invalidState

/-- Whether the gateway refused the session, whatever its status. -/
def isRejection : Fault → Bool
  | .connection (.rejected _) => true
  | _ => false

end Fault

end KnxIp
