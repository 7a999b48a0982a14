import KnxIp.Address
import KnxIp.Cemi.Apdu
import KnxIp.Cemi.Control
import KnxIp.Cemi.Layers

/-!
# Messages to and from the bus

A frame of the tunnel carries one message for the bus. It is a *request* on its way to
the gateway, a *confirmation* that the gateway has handled a request, or an *indication*
of a telegram that was seen on the bus; in each case a telegram with its addresses, its
codes and its data. How a message is written and read is in `KnxIp.Cemi.Wire`.
-/

namespace KnxIp

/-- **What a message is.** -/
inductive MessageCode
  | request
  | indication
  | confirmation
  deriving DecidableEq

namespace MessageCode

/-- The octet of a message code. -/
def octet : MessageCode → UInt8
  | .request => 0x11
  | .indication => 0x29
  | .confirmation => 0x2E

/-- Every message code once. -/
def all : List MessageCode := [.request, .indication, .confirmation]

/-- The message code of an octet, if it is the octet of one. -/
def ofOctet? (octet : UInt8) : Option MessageCode := all.find? fun code => code.octet = octet

/-- The name of a message code. -/
def name : MessageCode → String
  | .request => "LDataReq"
  | .indication => "LDataInd"
  | .confirmation => "LDataCon"

theorem ofOctet?_octet (code : MessageCode) : ofOctet? code.octet = some code := by
  cases code <;> rfl

end MessageCode

/-- **A telegram.** Whether the destination is a group is said by `destination` alone:
writing sets the bit of `control2` for it. -/
structure Telegram where
  control1 : Control1
  control2 : Control2
  source : IndividualAddress
  destination : Address
  tpci : Tpci
  /-- The service; `none` for a telegram of the transport layer, which has no data. -/
  apci : Option Apci
  data : Apdu
  deriving DecidableEq

/-- The group service and the group, of a telegram that is for a group. -/
def Telegram.groupService? (t : Telegram) : Option (GroupService × GroupAddress) := do
  let apci ← t.apci
  let service ← apci.groupService?
  let group ← t.destination.asGroup?
  pure (service, group)

/-- The greatest number of octets of additional information. -/
def maxAdditionalInfo : Nat := 16

/-- Additional information of these octets. -/
def additionalInfo (octets : List UInt8) : Except Fault (Octets maxAdditionalInfo) :=
  Octets.ofList (.decode .invalidCemi) octets

/-- **A message.** -/
structure Cemi where
  code : MessageCode
  /-- Additional information, which is kept and passed on but not read. -/
  info : Octets maxAdditionalInfo
  telegram : Telegram
  deriving DecidableEq

namespace Cemi

/-- Whether the message reports a telegram seen on the bus. -/
def isIndication (c : Cemi) : Bool := c.code = .indication

/-- Whether the message confirms a request. -/
def isConfirmation (c : Cemi) : Bool := c.code = .confirmation

/-- A request to send a telegram to a group. -/
def groupRequest (source : IndividualAddress) (group : GroupAddress) (service : GroupService)
    (data : Apdu) : Cemi where
  code := .request
  info := .empty
  telegram :=
    { control1 := .default
      control2 := .default
      source := source
      destination := .group group
      tpci := .unnumberedData
      apci := some (.ofGroupService service)
      data := data }

/-- A request to ask a group for its value. -/
def groupRead (source : IndividualAddress) (group : GroupAddress) : Cemi :=
  groupRequest source group .read .empty

/-- A request to give a group a new value. -/
def groupWrite (source : IndividualAddress) (group : GroupAddress) (data : Apdu) : Cemi :=
  groupRequest source group .write data

/-- A request to answer for the value of a group. -/
def groupResponse (source : IndividualAddress) (group : GroupAddress) (data : Apdu) : Cemi :=
  groupRequest source group .response data

end Cemi

end KnxIp
