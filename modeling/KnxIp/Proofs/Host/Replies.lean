import KnxIp.Proofs.Frame.Header
import KnxIp.Proofs.Host.History

/-!
# The requests of the gateway

What the gateway has from the bus it sends in tunnelling requests, and it waits for each to be
acknowledged; a client that does not answer loses its session. So a request is acknowledged
before anybody looks at its message, and whether the message can be read makes no difference.

One thing about the message does make a difference, which is its length. A request keeps its
message as a string of at most `KnxIp.maxCemiSize` octets, and a frame has room for more. A
request whose message is longer cannot be read at all, and so it is never acknowledged. Of all
requests that the gateway sends on the channel of the session these are the only ones
(`KnxIp.Client.onDatagram_of_hears`): the rest of the datagram decides nothing.

The requests are told from the octets of a datagram, by its header and its head, as whoever
sent it has written them (`KnxIp.Datagram.tunnelled?`).

## Main statements

* `KnxIp.Host.attentive_run`: in every run, of the requests of the gateway on the channel of
  the session, those and only those are acknowledged whose message is not too long; each with
  one datagram, that goes where tunnelling frames go.
* `KnxIp.Host.exists_unacknowledged`: a run in which a request is not acknowledged.
-/

namespace KnxIp

/-! ### Requests as octets -/

namespace Datagram

/-- **The head and the message of a tunnelling request**, if a datagram is one: its header is
valid and names the service, and the head in front of the message is well-formed. -/
def tunnelled? (d : Datagram) : Option (ConnectionHeader × List UInt8) :=
  match Header.read d.octets.toList with
  | .ok (header, body) =>
    if header.service = .tunnelingRequest then (ConnectionHeader.read body).toOption else none
  | .error _ => none

/-- **A request is read** unless its message is too long. -/
theorem decode_of_tunnelled? {d : Datagram} {head : ConnectionHeader} {message : List UInt8}
    (h : d.tunnelled? = some (head, message)) :
    Frame.decode d.octets.toList =
      (TunnelingRequest.ofOctets head.channel head.sequence message).map .tunnelingRequest := by
  unfold tunnelled? at h
  cases hd : Header.read d.octets.toList with
  | error f => simp [hd] at h
  | ok r =>
    obtain ⟨header, body⟩ := r
    simp only [hd] at h
    split at h
    · rename_i hservice
      cases hb : ConnectionHeader.read body with
      | error f => simp [hb, Except.toOption] at h
      | ok r =>
        obtain rfl : r = (head, message) := by simpa [hb, Except.toOption] using h
        simp only [Frame.decode, hd, bind, Except.bind, hservice, Frame.decodeBody,
          TunnelingRequest.read, hb]
    · cases h

end Datagram

/-- The datagram that an output sends, if it does. -/
def Output.datagram? : Output → Option Datagram
  | .datagram d => some d
  | .event _ => none

/-- **The datagrams that a client has sent**, the oldest first. -/
def Client.sent (c : Client) : List Datagram := c.outbox.filterMap Output.datagram?

/-- A socket that has received a datagram sends as well as before. -/
theorem Socket.sendFault?_of_receive? {s socket : Socket} {d : Datagram}
    (h : s.receive? = some (.ok d, socket)) : socket.sendFault? = s.sendFault? := by
  unfold receive? at h
  split at h
  · cases h
  · cases hf : s.failures with
    | cons f rest => simp [hf] at h
    | nil =>
      cases hp : s.inbox.pop? with
      | none => simp [hf, hp] at h
      | some r =>
        simp only [hf, hp, Option.some.injEq, Prod.mk.injEq] at h
        obtain ⟨-, rfl⟩ := h
        rfl

namespace Client

variable {c c' : Client} {d : Datagram} {head : ConnectionHeader} {message : List UInt8}

/-- **The gateway sends a request** on the channel of the session: its message may be
anything. -/
structure Hears (c : Client) (d : Datagram) (head : ConnectionHeader) (message : List UInt8) :
    Prop where
  connected : c.isConnected
  gateway : c.isGateway d.peer
  request : d.tunnelled? = some (head, message)
  channel : head.channel = c.session.channel

/-- **A request is acknowledged**: nothing is sent but one acknowledgement, with the channel and
the number of the request and with status zero, and the next number is expected. -/
structure Acknowledges (c c' : Client) (head : ConnectionHeader) : Prop where
  sent : c'.sent = c.sent ++
    [⟨(Frame.tunnelingAck ⟨c.session.channel, head.sequence, 0⟩).octets, c.dataEndpoint⟩]
  recvSequence : c'.session.recvSequence = head.sequence + 1

/-- **A datagram is passed over**: nothing is sent, and the session is as it was. -/
structure Ignores (c c' : Client) : Prop where
  sent : c'.sent = c.sent
  session : c'.session = c.session

/-- What is acknowledged is not passed over. -/
theorem Ignores.not_acknowledges (h : Ignores c c') : ¬ Acknowledges c c' head := by
  intro ha
  have := h.sent.symm.trans ha.sent
  simp at this

/-! ### What the client does -/

theorem ignores_publish (c : Client) (e : Event) : Ignores c (c.publish e) := by
  refine ⟨?_, rfl⟩
  simp [sent, publish, Output.datagram?]

theorem ignores_route (c : Client) (t : Telegram) : Ignores c (c.route t) := by
  unfold route
  cases t.apci with
  | none => exact ⟨rfl, rfl⟩
  | some apci => exact ⟨(ignores_publish { c with registry := _ } _).sent, rfl⟩

/-- **Whatever the message is**, nothing is sent because of it, and the session stays as it
is. -/
theorem ignores_onMessage (c : Client) (message : Except Fault Cemi) :
    Ignores c (c.onMessage message) := by
  unfold onMessage
  cases message with
  | error f => exact ignores_publish c _
  | ok m =>
    cases hm : m.code with
    | request => exact ⟨by simp only [hm], by simp only [hm]⟩
    | indication => simpa only [hm] using c.ignores_route m.telegram
    | confirmation => exact ⟨by simp only [hm]; rfl, by simp only [hm]⟩

/-- A request on the channel of the session is acknowledged, whatever its message is. -/
theorem acknowledges_onTunnelingRequest (request : TunnelingRequest) (hc : c.isConnected)
    (hchannel : request.channel = c.session.channel) (hs : c.socket.sendFault? = none) :
    Acknowledges c (c.onTunnelingRequest request)
      ⟨request.channel, request.sequence, 0⟩ := by
  have hanswer : c.session.onTunnelingRequest request c.now =
      (.ok (request.ack 0),
        { c.session.recordActivity c.now with recvSequence := request.sequence + 1 }) := by
    simp [Session.onTunnelingRequest, hchannel, show c.session.status.isConnected from hc]
  simp only [onTunnelingRequest, hanswer, transmitFrame, transmit, hs]
  -- the acknowledgement is on its way before the message is looked at
  obtain ⟨hsent, hsession⟩ := ignores_onMessage
    { c with
      session := { c.session.recordActivity c.now with recvSequence := request.sequence + 1 }
      outbox := c.outbox ++
        [.datagram ⟨(Frame.tunnelingAck (request.ack 0)).octets, c.dataEndpoint⟩] }
    request.cemi
  refine ⟨?_, ?_⟩
  · rw [hsent]
    simp [sent, Output.datagram?, TunnelingRequest.ack, hchannel]
  · rw [hsession]

/-- **A request is acknowledged unless its message is too long**, and it is passed over if it
is. -/
theorem onDatagram_of_hears (h : c.Hears d head message) (hs : c.socket.sendFault? = none) :
    if message.length ≤ maxCemiSize then Acknowledges c (c.onDatagram d) head
    else Ignores c (c.onDatagram d) := by
  have hdecode := Datagram.decode_of_tunnelled? h.request
  simp only [onDatagram, h.gateway, if_true, hdecode]
  split
  · rename_i hlength
    have hrequest : TunnelingRequest.ofOctets head.channel head.sequence message =
        .ok ⟨head.channel, head.sequence, ⟨message, hlength⟩⟩ := by
      simp [TunnelingRequest.ofOctets, Octets.ofList, Octets.ofList?, hlength, Except.map]
    simp only [hrequest, Except.map, onFrame]
    obtain ⟨hsent, hrecv⟩ := acknowledges_onTunnelingRequest
      ⟨head.channel, head.sequence, ⟨message, hlength⟩⟩ h.connected h.channel hs
    exact ⟨hsent, hrecv⟩
  · rename_i hlength
    have hrequest : TunnelingRequest.ofOctets head.channel head.sequence message =
        .error (.decode .invalidCemi) := by
      simp [TunnelingRequest.ofOctets, Octets.ofList, Octets.ofList?, hlength, Except.map]
    simp only [hrequest, Except.map]
    exact ignores_publish c _

end Client

/-! ### Every run -/

namespace Host

open Client

/-- The dispatcher takes this datagram from the socket. -/
def Moment.Takes (m : Moment) (d : Datagram) : Prop :=
  ∃ socket, m.before.socket.receive? = some (.ok d, socket) ∧
    m.after = { m.before with socket := socket }.onDatagram d

theorem takes_of_mem_receipts {m : Moment} {d : Datagram} (hd : m.deed = .receive d)
    (attempts : Nat) (c : Client) (h : m ∈ receipts c attempts) : m.Takes d := by
  -- Each attempt begins with the client as the one before it has left it.
  induction attempts generalizing c with
  | zero => cases h
  | succ attempts ih =>
    unfold receipts at h
    cases hr : c.socket.receive? with
    | none => simp [hr] at h
    | some r =>
      obtain ⟨f | d', socket⟩ := r
      · simp only [hr] at h
        split at h
        · obtain rfl | h := List.mem_cons.mp h
          · cases hd
          · exact ih _ h
        · obtain rfl := List.mem_singleton.mp h
          cases hd
      · simp only [hr] at h
        obtain rfl | h := List.mem_cons.mp h
        · cases hd
          exact ⟨socket, hr, rfl⟩
        · exact ih _ h

/-- What the history tells as received was taken from the socket. -/
theorem takes_of_mem_history {m : Moment} {d : Datagram} (hd : m.deed = .receive d) (h : Host)
    (actions : List Action) (hm : m ∈ h.history actions) : m.Takes d := by
  induction actions generalizing h with
  | nil => cases hm
  | cons a rest ih =>
    obtain hm | hm := List.mem_append.mp hm
    · obtain ⟨-, driver, -, hm⟩ := mem_dispatcherMoments_of_receive hm hd
      unfold dispatcherMoments at hm
      split at hm
      · exact takes_of_mem_receipts hd _ _ hm
      · split at hm
        · exact takes_of_mem_receipts hd _ _ hm
        · cases hm
    · exact ih _ hm

/-- A request of the gateway that waits in the socket is acknowledged, when it is taken from
there, unless its message is too long. -/
theorem Moment.Takes.of_hears {m : Moment} {d : Datagram} {head : ConnectionHeader}
    {message : List UInt8} (ht : m.Takes d) (h : m.before.Hears d head message)
    (hs : m.before.socket.sendFault? = none) :
    if message.length ≤ maxCemiSize then Acknowledges m.before m.after head
    else Ignores m.before m.after := by
  obtain ⟨socket, hreceive, hafter⟩ := ht
  have hworks : socket.sendFault? = none := by
    rw [Socket.sendFault?_of_receive? hreceive, hs]
  have hstep := onDatagram_of_hears (c := { m.before with socket := socket })
    ⟨h.connected, h.gateway, h.request, h.channel⟩ hworks
  rw [hafter]
  split at hstep
  · rename_i hlength
    rw [if_pos hlength]
    exact ⟨hstep.sent, hstep.recvSequence⟩
  · rename_i hlength
    rw [if_neg hlength]
    exact ⟨hstep.sent, hstep.session⟩

/-- **The client is attentive in a moment**: if a request of the gateway on the channel of the
session is received, and the socket works, then the request is acknowledged if and only if its
message is not too long; otherwise it is passed over. -/
def Moment.IsAttentive (m : Moment) : Prop :=
  ∀ d head message, m.deed = .receive d → m.before.Hears d head message →
    m.before.socket.sendFault? = none →
      (Acknowledges m.before m.after head ↔ message.length ≤ maxCemiSize) ∧
      (maxCemiSize < message.length → Ignores m.before m.after)

/-- **In every run the client is attentive**: of the requests of the gateway on the channel of
the session, those and only those are acknowledged whose message is not too long. -/
theorem attentive_run (config : Config) (actions : List Action) :
    ∀ m ∈ (fresh config).history actions, m.IsAttentive := by
  intro m hm d head message hd hhears hs
  have hstep := (takes_of_mem_history hd _ _ hm).of_hears hhears hs
  split at hstep
  · rename_i hlength
    exact ⟨iff_of_true hstep hlength, fun h => absurd hlength (by omega)⟩
  · rename_i hlength
    exact ⟨iff_of_false hstep.not_acknowledges hlength, fun _ => hstep⟩

/-- A tunnelling request with this message, as octets. -/
def requestOctets (channel sequence : UInt8) (message : List UInt8) : List UInt8 :=
  (Header.ofBodyLength .tunnelingRequest (4 + message.length)).wire ++
    ((⟨channel, sequence, 0⟩ : ConnectionHeader).wire ++ message)

/-- An indication of which no telegram can be read, with this many octets. -/
def garbled (length : Nat) : List UInt8 := 0x29 :: List.replicate (length - 1) 0xFF

/-- The gateway grants a session, and then sends this datagram. -/
def heardAfterGrant (d : Datagram) : List Action :=
  let granted : Frame := .connectResponse
    ⟨7, 0, some (Hpai.ofEndpoint d.peer), some (Crd.tunnel ⟨0x11FF⟩)⟩
  [.startDriver, .begin 0 .connect, .pollCall 0, .arrive ⟨granted.octets, d.peer⟩, .pollDriver,
    .pollCall 0, .arrive d, .pollDriver]

/-- A request with as many octets as a client keeps is acknowledged, although no telegram can be
read of it. -/
theorem attentive_garbled :
    let d : Datagram := ⟨⟨requestOctets 7 0 (garbled 64), by decide⟩, ⟨⟨192, 168, 1, 10⟩, 3671⟩⟩
    ∃ m ∈ (fresh (.ofGateway d.peer)).history (heardAfterGrant d),
      m.deed = .receive d ∧ m.before.Hears d ⟨7, 0, 0⟩ (garbled 64) ∧
        Acknowledges m.before m.after ⟨7, 0, 0⟩ := by
  intro d
  obtain ⟨m, hm, hd, hc, hg, hr, hchannel, hs⟩ :
      ∃ m ∈ (fresh (.ofGateway d.peer)).history (heardAfterGrant d),
        m.deed = .receive d ∧ m.before.isConnected = true ∧ m.before.isGateway d.peer = true ∧
        d.tunnelled? = some (⟨7, 0, 0⟩, garbled 64) ∧ 7 = m.before.session.channel ∧
        m.before.socket.sendFault? = none := by
    decide +kernel
  have hhears : m.before.Hears d ⟨7, 0, 0⟩ (garbled 64) := ⟨hc, hg, hr, hchannel⟩
  have hstep := attentive_run _ _ m hm d ⟨7, 0, 0⟩ (garbled 64) hd hhears hs
  exact ⟨m, hm, hd, hhears, hstep.1.mpr (by decide)⟩

/-- **It does happen that a request is not acknowledged**: the session is open, the socket
works, the gateway sends a request on its channel with one octet more, and the client has
received it and sends nothing. -/
theorem exists_unacknowledged : ∃ (config : Config) (actions : List Action),
    ∃ m ∈ (fresh config).history actions, ∃ d head message,
      m.deed = .receive d ∧ m.before.Hears d head message ∧
      m.before.socket.sendFault? = none ∧ ¬ Acknowledges m.before m.after head := by
  let d : Datagram := ⟨⟨requestOctets 7 0 (garbled 65), by decide⟩, ⟨⟨192, 168, 1, 10⟩, 3671⟩⟩
  obtain ⟨m, hm, hd, hc, hg, hr, hchannel, hs⟩ :
      ∃ m ∈ (fresh (.ofGateway d.peer)).history (heardAfterGrant d),
        m.deed = .receive d ∧ m.before.isConnected = true ∧ m.before.isGateway d.peer = true ∧
        d.tunnelled? = some (⟨7, 0, 0⟩, garbled 65) ∧ 7 = m.before.session.channel ∧
        m.before.socket.sendFault? = none := by
    decide +kernel
  have hhears : m.before.Hears d ⟨7, 0, 0⟩ (garbled 65) := ⟨hc, hg, hr, hchannel⟩
  have hstep := (takes_of_mem_history hd _ _ hm).of_hears hhears hs
  rw [if_neg (by decide)] at hstep
  exact ⟨_, _, m, hm, _, _, _, hd, hhears, hs, hstep.not_acknowledges⟩

end Host

end KnxIp
