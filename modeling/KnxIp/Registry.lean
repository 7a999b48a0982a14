import KnxIp.Dpt.Codec
import KnxIp.Cemi

/-!
# Bindings and reads

The registry is where the two directions of a client meet. The application *binds* group
addresses to datapoint types and waits for answers to what it *reads*; telegrams from
the bus bring new values for bound addresses and answers for the reads.

Any number of handles may share the binding of an address: each counts once, and the
binding goes with the last of them. A binding remembers the last value, and the last
value that came from the bus and has not been waited for. Bindings and reads live in two
tables of fixed size, and a handle is the place in its table.
-/

namespace KnxIp

/-- How many addresses can be bound at once. -/
def maxBindings : Nat := 32

/-- How many reads can wait at once. -/
def maxPendingReads : Nat := 8

/-- How many handles can share a binding. -/
def maxHandles : Nat := 65535

/-- **The binding of an address.** -/
structure Binding where
  address : GroupAddress
  dpt : Dpt
  /-- How many handles share the binding. -/
  handles : Nat
  /-- The last value, from either direction. -/
  value : Option Value
  /-- The last value from the bus since a wait for one began, unless it was taken. -/
  update : Option Value
  deriving DecidableEq

/-- **A read.** -/
inductive ReadSlot
  | free
  /-- Waits for an answer for the address. -/
  | waiting (address : GroupAddress)
  /-- The answer came. -/
  | answered (data : Apdu)
  deriving DecidableEq

/-- A place in the table of bindings. -/
abbrev BindingId := Fin maxBindings

/-- A place in the table of reads. -/
abbrev ReadId := Fin maxPendingReads

/-- Every place is in its table, so that nothing has to be shown to look it up. -/
instance : GetElem (Vector (Option Binding) maxBindings) BindingId (Option Binding)
    fun _ _ => True where
  getElem bindings id _ := bindings.get id

instance : GetElem (Vector ReadSlot maxPendingReads) ReadId ReadSlot fun _ _ => True where
  getElem reads id _ := reads.get id

/-- **Bindings and reads.** -/
structure Registry where
  bindings : Vector (Option Binding) maxBindings
  reads : Vector ReadSlot maxPendingReads
  deriving DecidableEq

namespace Registry

/-- Nothing bound and nothing read. -/
def empty : Registry := ⟨.replicate _ none, .replicate _ .free⟩

/-! ### Looking up -/

/-- The place of the binding of an address. -/
def find? (r : Registry) (address : GroupAddress) : Option BindingId :=
  r.bindings.findFinIdx? fun b => b.any fun b => b.address = address

/-- The datapoint type that is bound to an address. -/
def dpt? (r : Registry) (address : GroupAddress) : Option Dpt :=
  (r.find? address).bind fun id => r.bindings[id].map Binding.dpt

/-- How many addresses are bound. -/
def bindingCount (r : Registry) : Nat := r.bindings.countP fun b => b.isSome

/-- How many reads there are. -/
def readCount (r : Registry) : Nat := r.reads.countP fun slot => slot ≠ .free

/-- The last value of a binding. -/
def value? (r : Registry) (id : BindingId) : Option Value := r.bindings[id].bind Binding.value

/-! ### Binding -/

/-- The registry with another binding at a place. -/
def setBinding (r : Registry) (id : BindingId) (b : Option Binding) : Registry :=
  { r with bindings := r.bindings.set id b }

/-- The registry with the binding at a place changed, if there is one. -/
def modifyBinding (r : Registry) (id : BindingId) (f : Binding → Binding) : Registry :=
  r.setBinding id (r.bindings[id].map f)

/-- **Bind an address**: share the binding that it has, if that has the same type, or take
the first free place. -/
def bind (r : Registry) (address : GroupAddress) (dpt : Dpt) :
    Except Fault (BindingId × Registry) :=
  match r.find? address with
  | some id =>
    match r.bindings[id] with
    | none => .error (.tunneling .registryFull)
    | some b =>
      if b.dpt ≠ dpt then
        .error (.dpt .typeMismatch)
      else if b.handles < maxHandles then
        .ok (id, r.setBinding id (some { b with handles := b.handles + 1 }))
      else
        .error (.tunneling .registryFull)
  | none =>
    match r.bindings.findFinIdx? Option.isNone with
    | some id => .ok (id, r.setBinding id (some ⟨address, dpt, 1, none, none⟩))
    | none => .error (.tunneling .registryFull)

/-- Give up one handle; the place is free once the last is given up. -/
def unbind (r : Registry) (id : BindingId) : Registry :=
  r.setBinding id <| r.bindings[id].bind fun b =>
    if b.handles ≤ 1 then none else some { b with handles := b.handles - 1 }

/-- Remember a value that the client has sent. -/
def store (r : Registry) (id : BindingId) (v : Value) : Registry :=
  r.modifyBinding id fun b => { b with value := some v }

/-- Start to wait for a value from the bus: forget the one that came before. -/
def beginWait (r : Registry) (id : BindingId) : Registry :=
  r.modifyBinding id fun b => { b with update := none }

/-- Take the value that came from the bus, if one came. -/
def takeUpdate? (r : Registry) (id : BindingId) : Option (Value × Registry) :=
  (r.bindings[id].bind Binding.update).map fun v => (v, r.beginWait id)

/-! ### Reading -/

/-- The registry with another read at a place. -/
def setRead (r : Registry) (id : ReadId) (slot : ReadSlot) : Registry :=
  { r with reads := r.reads.set id slot }

/-- Start to wait for an answer, at the first free place. -/
def beginRead (r : Registry) (address : GroupAddress) : Except Fault (ReadId × Registry) :=
  match r.reads.findFinIdx? fun slot => slot = .free with
  | some id => .ok (id, r.setRead id (.waiting address))
  | none => .error (.tunneling .tooManyPendingReads)

/-- The answer to a read, if it came. -/
def answer? (r : Registry) (id : ReadId) : Option Apdu :=
  match r.reads[id] with
  | .answered data => some data
  | _ => none

/-- Give up a read, whether or not it was answered. -/
def endRead (r : Registry) (id : ReadId) : Registry := r.setRead id .free

/-! ### Telegrams from the bus -/

/-- Answer every read that waits for the address. -/
def answerReads (r : Registry) (address : GroupAddress) (data : Apdu) : Registry :=
  { r with
    reads := r.reads.map fun slot => if slot = .waiting address then .answered data else slot }

/-- Bring a new value to the binding of an address, if there is one and its type can read
the data. -/
def update (r : Registry) (address : GroupAddress) (data : Apdu) : Option Value × Registry :=
  match r.find? address with
  | none => (none, r)
  | some id =>
    match r.bindings[id] with
    | none => (none, r)
    | some b =>
      match b.dpt.decode data.toList with
      | .error _ => (none, r)
      | .ok v => (some v, r.setBinding id (some { b with value := some v, update := some v }))

/-- **A telegram for a group came from the bus.** A response answers the reads of its
group; a response and a write bring the binding of the group a new value, which is
returned. -/
def onTelegram (r : Registry) (service : GroupService) (address : GroupAddress) (data : Apdu) :
    Option Value × Registry :=
  match service with
  | .read => (none, r)
  | .write => r.update address data
  | .response => (r.answerReads address data).update address data

end Registry

end KnxIp
