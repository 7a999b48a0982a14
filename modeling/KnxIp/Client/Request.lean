import KnxIp.Client.Call

/-!
# What an application asks for

The public face of a client. A request concerns the client itself, a group, or a device
that the application has bound before; `KnxIp.Request.call` says which call it begins.
-/

namespace KnxIp

/-- **A device of the application**: a handle on a bound address, and its kind. -/
structure Device where
  kind : DeviceKind
  point : Point
  deriving DecidableEq

/-- **What an application asks of a device.** -/
inductive DeviceRequest
  /-- Write a value. -/
  | write (value : Value)
  /-- Answer for the device with a value. -/
  | respond (value : Value)
  /-- Turn to the opposite. -/
  | toggle
  /-- Ask for the value, in the form that suits the kind. -/
  | read
  /-- Wait for the next value. -/
  | waitUpdate
  deriving DecidableEq

/-- **What an application asks of a client.** `handle` is what it knows a device by. -/
inductive Request (handle : Type)
  | connect
  | disconnect
  | close
  | send (message : Cemi)
  | write (address : GroupAddress) (data : Apdu)
  | respond (address : GroupAddress) (data : Apdu)
  | writeValue (address : GroupAddress) (dpt : Dpt) (value : Value)
  | read (address : GroupAddress)
  | readValue (address : GroupAddress) (dpt : Dpt)
  | device (device : handle) (request : DeviceRequest)
  deriving DecidableEq

namespace Device

/-- Whether the device measures, so that it answers with numbers. -/
def isSensor (d : Device) : Bool :=
  match d.kind with
  | .sensor _ => true
  | _ => false

/-- The form in which a device answers a read. -/
def readForm (d : Device) : ReadForm :=
  match d.kind with
  | .point _ => .value d.point.dpt
  | .switch => .flag d.point.dpt
  | .dimmer => .level d.point.dpt
  | .sensor _ => .number d.point.dpt

/-- The call that a request to a device begins. -/
def call (config : Config) (d : Device) : DeviceRequest → Call
  | .write v => .write d.point (.start (.value v))
  | .respond v => .respondPoint config d.point v
  | .toggle => .write d.point (.start .inverted)
  | .read => .read d.readForm (.start d.point.address)
  | .waitUpdate => .update d.point d.isSensor .start

end Device

namespace Request

variable {handle : Type}

/-- The device that a request concerns. -/
def device? : Request handle → Option handle
  | .device h _ => some h
  | _ => none

/-- The call that a request begins; none, if it concerns a device that there is not. -/
def call? (config : Config) (find : handle → Option Device) : Request handle → Option Call
  | .connect => some (.connect .start)
  | .disconnect => some (.disconnect .start)
  | .close => some (.close .start)
  | .send message => some (.send (.start message))
  | .write address data => some (.writeGroup config address data)
  | .respond address data => some (.respondGroup config address data)
  | .writeValue address dpt v => some (.writeValue config address dpt v)
  | .read address => some (.read .data (.start address))
  | .readValue address dpt => some (.read (.value dpt) (.start address))
  | .device h request => (find h).map fun d => d.call config request

end Request

end KnxIp
