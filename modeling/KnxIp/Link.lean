import KnxIp.Gateway

/-!
# A socket and its gateway

`KnxIp.Link` is a simulated socket together with the simulated gateway at the other end,
without a client. What the socket sends waits at the gateway, and what the gateway sends
waits at the socket. Each operation is tried once: `none` says that it would have to wait,
for something to receive or for room.
-/

namespace KnxIp

/-- **A socket and a gateway at the two ends of a link.** -/
structure Link where
  socket : Socket
  gateway : Gateway
  deriving DecidableEq

namespace Link

/-- A link over which nothing has been sent. -/
def fresh (endpoint : Endpoint) : Link := ⟨.fresh, .fresh endpoint⟩

/-! ### The socket's end -/

/-- Send octets. A socket that cannot send is found out before a datagram that is too
long. -/
def send (l : Link) (octets : List UInt8) (peer : Endpoint) : Except Fault Unit × Link :=
  match l.socket.sendFault? with
  | some f => (.error f, l)
  | none =>
    match Octets.ofList? octets with
    | none => (.error (.transport .bufferTooSmall), l)
    | some octets => (.ok (), { l with gateway := l.gateway.receive ⟨octets, peer⟩ })

/-- Receive a datagram into a buffer of this length. -/
def receive? (l : Link) (length : Nat) : Option (Except Fault Datagram × Link) :=
  (l.socket.receiveInto? length).map fun (r, socket) => (r, { l with socket := socket })

/-! ### The gateway's end -/

/-- Send octets to the socket, from the gateway unless it is said from where. -/
def inject? (l : Link) (octets : List UInt8) (peer : Option Endpoint) :
    Option (Except Fault Unit × Link) :=
  (l.socket.inject? octets (peer.getD l.gateway.endpoint)).map fun (r, socket) =>
    (r, { l with socket := socket })

/-- Send a frame to the socket. -/
def reply? (l : Link) (frame : Frame) : Option Link :=
  (l.socket.arrive? (l.gateway.datagram frame)).map fun socket => { l with socket := socket }

/-- Take the oldest datagram that the socket has sent. -/
def take? (l : Link) : Option (Datagram × Link) :=
  l.gateway.take?.map fun (d, gateway) => (d, { l with gateway := gateway })

/-- Take the oldest datagram that the socket has sent, and read it. -/
def takeFrame? (l : Link) : Option (Except Fault Frame × Link) :=
  l.take?.map fun (d, l) => (Frame.decode d.octets.toList, l)

/-- Take the oldest datagram that the socket has sent, and answer it. The datagram is
gone also if it cannot be answered, or if there is no room for the reply. -/
def answer (l : Link) (answer : Gateway.Answer) : Option (Except Fault Frame) × Link :=
  match l.take? with
  | none => (none, l)
  | some (d, l) =>
    match l.gateway.reply answer d with
    | .error f => (some (.error f), l)
    | .ok (asked, reply) =>
      match l.reply? reply with
      | some l => (some (.ok asked), l)
      | none => (none, l)

/-! ### The link -/

/-- Let sending fail, or work again. -/
def refuse (l : Link) (refusing : Bool) : Link :=
  { l with socket := { l.socket with refusing := refusing } }

/-- Close the socket. -/
def close (l : Link) : Link := { l with socket := l.socket.close }

/-- Put a fresh socket in the place of this one; what waits for it stays. -/
def reopen (l : Link) : Link := { l with socket := { l.socket with closed := false } }

/-- Whether the socket is open. -/
def isReady (l : Link) : Bool := !l.socket.closed

end Link

end KnxIp
