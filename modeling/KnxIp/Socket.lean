import KnxIp.Fault
import KnxIp.Frame.Wire
import KnxIp.Queue

/-!
# The socket of a client

A client sends and receives datagrams through a socket. `KnxIp.Socket` is a simulated
one: datagrams for the client wait in a queue of limited length, and it can be told to
fail – to refuse what is sent, or to fail instead of receiving.
-/

namespace KnxIp

/-- How many datagrams wait in a queue. -/
def datagramQueueDepth : Nat := 16

/-- **A datagram**: octets, with the endpoint that they come from or go to. -/
structure Datagram where
  octets : Octets maxFrameSize
  peer : Endpoint
  deriving DecidableEq

/-- **A simulated socket.** -/
structure Socket where
  /-- Closed for good. -/
  closed : Bool
  /-- Whether sending fails. -/
  refusing : Bool
  /-- The faults with which the next attempts to receive will fail. -/
  failures : List Fault
  /-- The datagrams that wait to be received. -/
  inbox : Queue Datagram datagramQueueDepth
  deriving DecidableEq

namespace Socket

/-- A socket that works and has received nothing. -/
def fresh : Socket := ⟨false, false, [], .empty⟩

/-- Why a datagram cannot be sent, if it cannot. -/
def sendFault? (s : Socket) : Option Fault :=
  if s.closed then some (.transport .closed)
  else if s.refusing then some (.transport .sendFailed)
  else none

/-- Receive the next datagram, if there is one to receive or a fault to fail with. -/
def receive? (s : Socket) : Option (Except Fault Datagram × Socket) :=
  if s.closed then
    some (.error (.transport .closed), s)
  else
    match s.failures with
    | f :: rest => some (.error f, { s with failures := rest })
    | [] =>
      match s.inbox.pop? with
      | some (d, inbox) => some (.ok d, { s with inbox := inbox })
      | none => none

/-- Receive into a buffer of this length, which has to have room for the datagram. -/
def receiveInto? (s : Socket) (length : Nat) : Option (Except Fault Datagram × Socket) :=
  s.receive?.map fun (r, s) =>
    (r.bind fun d =>
      if d.octets.toList.length ≤ length then .ok d
      else .error (.transport .bufferTooSmall), s)

/-- A datagram arrives, if there is room for it to wait. -/
def arrive? (s : Socket) (d : Datagram) : Option Socket :=
  (s.inbox.push? d).map fun inbox => { s with inbox := inbox }

/-- A datagram of these octets arrives, if there is room for it to wait. More octets than
a frame can have are refused, also if there is no room. -/
def inject? (s : Socket) (octets : List UInt8) (peer : Endpoint) :
    Option (Except Fault Unit × Socket) :=
  match Octets.ofList? octets with
  | none => some (.error (.transport .bufferTooSmall), s)
  | some octets => (s.arrive? ⟨octets, peer⟩).map fun s => (.ok (), s)

/-- The socket after it was closed. -/
def close (s : Socket) : Socket := { s with closed := true }

/-- How many attempts to receive will not have to wait. -/
def waiting (s : Socket) : Nat := s.failures.length + s.inbox.toList.length

end Socket

end KnxIp
