import KnxIp.Proofs.Client.Mailboxes
import KnxIp.Proofs.Host.Wire

/-!
# What happens between two turns of the sender

The sender delivers a request over many turns, and between two of them all others have theirs.
What they may do meanwhile is little: they leave the request and its mailbox as they are, and the
session goes on; or the session breaks off, and then the delivery is *called off*, which means
that the mailbox holds one of two faults, and keeps holding one of them
(`KnxIp.Client.Spares`). The mailbox for confirmations is written by confirmations alone, unless
the session is lost.

There is one exception, which is the acknowledgement of the request itself: one that fits the
session (`KnxIp.Session.Fits`) is left in the mailbox. All others are published as faults, and the
sender does in its next turn what it would have done without them.

## Main statements

* `KnxIp.Call.spares_poll`, `KnxIp.Client.Effects.spares`, `KnxIp.Client.spares_onFrame`: this is
  all that others do.
* `KnxIp.Client.onTunnelingAck_of_fits`, `KnxIp.Client.onTunnelingAck_of_not_fits`: what becomes
  of an acknowledgement.
* `KnxIp.Sender.poll_publishFault`: the sender does not notice what is published.
-/

namespace KnxIp

namespace Client

/-- **The delivery is called off**: the mailbox says that the session was lost, or that somebody
has begun to close it. -/
def IsCalledOff (c : Client) : Prop :=
  c.ackDone = some (.error lost) ∨ c.ackDone = some (.error (.connection .notConnected))

/-- **The request goes on**: the session does, and nothing is new of the request. -/
structure GoesOn (c c' : Client) : Prop where
  session : c.session.Keeps c'.session
  outstanding : c'.session.outstanding = c.session.outstanding
  ackDone : c'.ackDone = c.ackDone

/-- **A delivery is spared**, or called off with the session. What is said of a confirmation is
the `word`, if one came. -/
structure Spares (word : Option (Except Fault Unit)) (c c' : Client) : Prop where
  config : c'.config = c.config
  goesOn : c.isConnected → GoesOn c c' ∨ c'.isConnected = false ∧ c'.IsCalledOff
  calledOff : c.IsCalledOff → c'.IsCalledOff
  confirmation : c'.confirmation = word.or c.confirmation ∨ c'.confirmation = some (.error lost)

variable {c c' c'' : Client} {word : Option (Except Fault Unit)}

theorem Spares.of_eq (hn : c'.config = c.config) (hs : c'.session = c.session)
    (ha : c'.ackDone = c.ackDone) (hf : c'.confirmation = c.confirmation) : Spares none c c' := by
  refine ⟨hn, fun _ => Or.inl ⟨?_, by rw [hs], ha⟩, fun h => by rwa [IsCalledOff, ha], Or.inl hf⟩
  rw [hs]
  exact .refl _

theorem Spares.refl (c : Client) : Spares none c c := .of_eq rfl rfl rfl rfl

/-- What begins without a session has only to leave the mailboxes alone. -/
theorem Spares.of_not_isConnected (hn : c'.config = c.config) (hc : c.isConnected = false)
    (ha : c'.ackDone = c.ackDone) (hf : c'.confirmation = c.confirmation) : Spares none c c' :=
  ⟨hn, fun h => by simp [hc] at h, fun h => by rwa [IsCalledOff, ha], Or.inl hf⟩

/-- One after the other, as long as the second begins no session. -/
theorem Spares.trans (h : Spares word c c') (h' : Spares none c' c'')
    (hc : c''.isConnected → c'.isConnected) : Spares word c c'' := by
  refine ⟨h'.config.trans h.config, fun hconn => ?_, fun ha => h'.calledOff (h.calledOff ha), ?_⟩
  · rcases h.goesOn hconn with hg | ⟨hc', ha⟩
    · have hconn' : c'.isConnected := by simpa [isConnected, hg.session.isConnected_eq] using hconn
      rcases h'.goesOn hconn' with hg' | hoff
      · refine Or.inl ⟨⟨?_, ?_, ?_⟩, ?_, ?_⟩
        · rcases hg'.session.status with hs' | hs'
          · rw [hs']
            exact hg.session.status
          · exact Or.inr ⟨hconn, hs'.2⟩
        · exact hg'.session.channel.trans hg.session.channel
        · exact hg'.session.sendSequence.trans hg.session.sendSequence
        · exact hg'.outstanding.trans hg.outstanding
        · exact hg'.ackDone.trans hg.ackDone
      · exact Or.inr hoff
    · refine Or.inr ⟨Bool.eq_false_iff.mpr fun hc'' => ?_, h'.calledOff ha⟩
      simp [hc hc''] at hc'
  · rcases h'.confirmation with hf' | hf'
    · rw [hf']
      exact h.confirmation
    · exact Or.inr hf'

/-- What comes later by itself does not matter. -/
theorem Spares.effects (h : Spares word c c') (h' : Spares none c' c'') (he : Effects c' c'') :
    Spares word c c'' :=
  h.trans h' he.moves.calm.connected

/-- A confirmation says its word, and nothing else. -/
theorem Spares.confirm (h : Spares none c c') (said : Except Fault Unit) :
    Spares (some said) c { c' with confirmation := some said } :=
  ⟨h.config, fun hc => (h.goesOn hc).imp (fun hg => ⟨hg.session, hg.outstanding, hg.ackDone⟩) id,
    h.calledOff, Or.inl rfl⟩

/-- The socket does not matter. -/
theorem Spares.of_socket {socket : Socket} (h : Spares word { c with socket := socket } c') :
    Spares word c c' :=
  ⟨h.config, fun hc => (h.goesOn hc).imp (fun hg => ⟨hg.session, hg.outstanding, hg.ackDone⟩) id,
    h.calledOff, h.confirmation⟩

/-! ### What happens by itself -/

/-- **The end of a session** calls the delivery off, however it came to that. -/
theorem spares_sessionLost (hn : c'.config = c.config) (hs : c'.session.status = .disconnected)
    (reason : EndReason) : Spares none c (c'.sessionLost reason) := by
  rw [sessionLost_eq]
  refine ⟨hn, fun _ => Or.inr ⟨?_, Or.inl rfl⟩, fun _ => Or.inl rfl, Or.inr rfl⟩
  simp [isConnected, hs, Status.isConnected]

theorem spares_transportFailed (c : Client) (f : Fault) : Spares none c (c.transportFailed f) := by
  unfold transportFailed
  cases hs : c.session.status with
  | disconnected => exact .of_not_isConnected rfl (by rw [isConnected, hs]; rfl) rfl rfl
  | connecting => exact .of_not_isConnected rfl (by rw [isConnected, hs]; rfl) rfl rfl
  | _ => refine spares_sessionLost ?_ ?_ _ <;> rfl

theorem Effect.spares (h : Effect c c') : Spares none c c' := by
  cases h with
  | untouched h => exact .of_eq h.config h.session h.ackDone h.confirmation
  | publish e h => exact .of_eq rfl rfl rfl rfl
  | send d h => exact .of_eq rfl rfl rfl rfl
  | keep t h ho => exact ⟨rfl, fun _ => Or.inl ⟨h, ho, rfl⟩, id, Or.inl rfl⟩
  | lose t reason hs ht ho =>
    refine spares_sessionLost ?_ ?_ reason
    · rfl
    · exact ht
  | fail f => exact c.spares_transportFailed f

/-- **Effects spare a delivery.** -/
theorem Effects.spares (h : Effects c c') : Spares none c c' := by
  induction h with
  | refl => exact .refl c
  | tail _ h ih => exact ih.effects h.spares (.single h)

theorem Still.spares (h : Still c c') : Spares none c c' :=
  .of_eq h.config h.session h.ackDone h.confirmation

end Client

open Client

/-! ### What calls do -/

theorem Connecting.spares_poll (k : Connecting) (c : Client) : Spares none c (k.poll c).2 := by
  cases k with
  | start =>
    unfold poll begin
    rcases c.session.connectRequest_cases with h | ⟨hs, h⟩
    · simp only [h]
      exact .refl c
    · simp only [h]
      generalize hb : ({ c with session := _, connectDone := _, dataEndpoint := _ } : Client) = b
      have hdial : Spares none c b := by
        subst hb
        exact .of_not_isConnected rfl (by rw [isConnected, hs]; rfl) rfl rfl
      have hsend : Effects b ((b.publish (.connecting c.config.gateway)).transmitFrame
          (.connectRequest ⟨c.session.control, c.session.control, .tunnel⟩)
          c.config.gateway).2 :=
        .trans (.single (.publish b _ rfl)) (effects_transmitFrame _ (by simp [Frame.service]) _)
      split <;> rename_i heq <;> rw [heq] at hsend <;> exact hdial.effects hsend.spares hsend
  | awaiting deadline =>
    unfold poll
    simp only
    split
    · exact .of_eq rfl rfl rfl rfl
    · split
      · unfold expired
        rcases c.session.connectExpired_cases with h | ⟨hs, h⟩
        · simp only [h]
          split <;> exact .refl c
        · have hconn : c.isConnected = false := by rw [isConnected, hs]; rfl
          simp only [h]
          split <;> exact .of_not_isConnected rfl hconn rfl rfl
      · exact .refl c

namespace Disconnecting

theorem spares_conclude {c b : Client} (hb : Spares none c b) (hs : b.session = c.session) :
    Spares none c (conclude b) := by
  unfold conclude Session.forceDisconnected
  simp only
  split
  · refine spares_sessionLost ?_ ?_ _
    · exact hb.config
    · rfl
  · rename_i hd
    refine hb.trans (.of_not_isConnected rfl ?_ rfl rfl) ?_
    · simp_all [isConnected, Status.isConnected]
    · rintro ⟨⟩

theorem spares_poll (k : Disconnecting) (c : Client) : Spares none c (k.poll c).2 := by
  cases k with
  | start =>
    unfold poll begin
    rcases c.session.disconnectRequest_cases with h | ⟨-, h⟩
    · simp only [h]
      exact .refl c
    · simp only [h]
      generalize hb : ({ c with session := _, disconnectDone := _, ackDone := _ } : Client) = b
      have hleave : Spares none c b := by
        subst hb
        exact ⟨rfl, fun _ => Or.inr ⟨rfl, Or.inr rfl⟩, fun _ => Or.inr rfl, Or.inl rfl⟩
      have hsend := b.effects_transmitFrame
        (f := .disconnectRequest ⟨c.session.channel, c.session.control⟩) (by simp [Frame.service])
        c.config.gateway
      split <;> rename_i heq <;> rw [heq] at hsend <;> exact hleave.effects hsend.spares hsend
  | awaiting deadline =>
    unfold poll
    simp only
    split
    · exact spares_conclude (.of_eq rfl rfl rfl rfl) rfl
    · split
      · exact spares_conclude (.refl c) rfl
      · exact .refl c

end Disconnecting

theorem Closing.spares_poll (k : Closing) (c : Client) : Spares none c (k.poll c).2 := by
  have hconclude : ∀ p, Spares none c p.2 → Spares none c (conclude p).2 := by
    rintro ⟨_ | stage, b⟩ hb
    · exact hb.trans (.of_eq rfl rfl rfl rfl) id
    · exact hb
  cases k with
  | start =>
    unfold poll
    simp only
    split
    · exact hconclude _ (Disconnecting.spares_poll _ c)
    · exact .of_eq rfl rfl rfl rfl
  | disconnecting stage => exact hconclude _ (stage.spares_poll c)

/-- **A call spares a delivery**, unless it closes the session. -/
theorem Call.spares_poll (k : Call) (c : Client) : Spares none c (k.poll c).2 := by
  cases k with
  | connect stage => exact stage.spares_poll c
  | disconnect stage => exact stage.spares_poll c
  | close stage => exact stage.spares_poll c
  | _ => exact (still_poll rfl c).spares

/-! ### What arrives -/

/-- The acknowledgement that a frame is, if it is one. -/
def Frame.ack? : Frame → Option TunnelingAck
  | .tunnelingAck b => some b
  | _ => none

namespace Client

/-- The confirmation that a frame brings into the session, if it brings one. -/
def confirmationIn? (c : Client) : Frame → Option Cemi
  | .tunnelingRequest b =>
    if (c.session.onTunnelingRequest b c.now).1.isOk then b.confirmation? else none
  | _ => none

variable {c : Client} {b : TunnelingAck}

/-- **An acknowledgement that fits** is left for the sender. -/
theorem onTunnelingAck_of_fits (h : c.session.Fits b) :
    c.onTunnelingAck b =
      { c with session := (c.session.onTunnelingAck b c.now).2, ackDone := some b.verdict } := by
  unfold onTunnelingAck
  rw [Session.onTunnelingAck_of_fits h]
  by_cases hz : b.status = 0 <;> simp [TunnelingAck.verdict, hz, Fault.isTunneling]

/-- **An acknowledgement that does not fit** is published as a fault, and that is all. -/
theorem onTunnelingAck_of_not_fits (h : ¬ c.session.Fits b) :
    ∃ cause t, (t = c.session ∨ t = c.session.recordActivity c.now) ∧
      c.onTunnelingAck b = { c with session := t }.publishFault (.protocol cause) := by
  obtain ⟨cause, t, ht, hr⟩ := Session.onTunnelingAck_of_not_fits h c.now
  exact ⟨cause, t, ht, by simp [onTunnelingAck, hr, Fault.isTunneling]⟩

theorem spares_onConnectResponse (c : Client) (response : ConnectResponse) :
    Spares none c (c.onConnectResponse response) := by
  unfold onConnectResponse
  rcases c.session.onConnectResponse_cases response c.now with h | ⟨hs, h⟩ | ⟨hs, h⟩
  · simp only [h, Fault.isProtocol, if_true]
    exact .refl c
  · have hconn : c.isConnected = false := by rw [isConnected, hs]; rfl
    simp only [h, Fault.isProtocol]
    exact .of_not_isConnected rfl hconn rfl rfl
  · have hconn : c.isConnected = false := by rw [isConnected, hs]; rfl
    simp only [h]
    exact .of_not_isConnected rfl hconn rfl rfl

/-- **A request of the gateway** spares a delivery, and may bring a confirmation. -/
theorem spares_onTunnelingRequest (c : Client) (request : TunnelingRequest) :
    Spares ((c.confirmationIn? (.tunnelingRequest request)).map Cemi.verdict) c
      (c.onTunnelingRequest request) := by
  rcases c.onTunnelingRequest_cases request with ⟨hr, h⟩ | ⟨hr, b, hb, h⟩
  · simpa [confirmationIn?, hr] using h.spares
  · simp only [confirmationIn?, hr, if_true]
    rw [h]
    rcases b.onMessage_cases request with ⟨hm, h⟩ | ⟨m, hm, h⟩
    · rw [hm]
      exact hb.spares.effects h.spares h
    · rw [hm, h]
      exact hb.spares.confirm m.verdict

/-- **A frame spares a delivery**, unless it is the acknowledgement of the request. -/
theorem spares_onFrame {frame : Frame} (h : ∀ b, frame.ack? = some b → ¬ c.session.Fits b) :
    Spares ((c.confirmationIn? frame).map Cemi.verdict) c (c.onFrame frame) := by
  cases frame with
  | connectResponse b => exact c.spares_onConnectResponse b
  | connectionStateResponse b => exact (c.effects_onHeartbeatResponse b).spares
  | disconnectRequest b => exact (c.effects_onDisconnectRequest b).spares
  | disconnectResponse b => exact (c.effects_onDisconnectResponse b).spares
  | tunnelingRequest b => exact c.spares_onTunnelingRequest b
  | tunnelingAck b =>
    obtain ⟨cause, t, ht, heq⟩ := onTunnelingAck_of_not_fits (h b rfl)
    have hk : c.session.Keeps t := by
      rcases ht with rfl | rfl
      · exact .refl _
      · exact .of_eq rfl rfl rfl
    have ho : t.outstanding = c.session.outstanding := by rcases ht with rfl | rfl <;> rfl
    have he : Effects c (c.onTunnelingAck b) := by
      rw [heq]
      exact .tail (.single (.keep c t hk ho)) (.publish _ _ rfl)
    exact he.spares
  | connectRequest b => exact .refl c
  | connectionStateRequest b => exact .refl c

/-- What a datagram does is what its frame does. -/
theorem onDatagram_of_frame? {d : Datagram} {frame : Frame} (h : c.frame? d = some frame) :
    c.onDatagram d = c.onFrame frame := by
  rcases c.onDatagram_cases d with ⟨frame', hf, hon⟩ | ⟨hf, -⟩
  · rw [hon, Option.some.inj (hf.symm.trans h)]
  · cases hf.symm.trans h

/-- What cannot be read is published as a fault, and what comes from somebody else is passed
over. -/
theorem onDatagram_of_frame?_eq_none {d : Datagram} (h : c.frame? d = none) :
    c.onDatagram d = c ∨ ∃ f, c.onDatagram d = c.publishFault f := by
  unfold onDatagram
  split
  · rename_i hp
    cases hf : Frame.decode d.octets.toList with
    | ok frame => simp [frame?, hp, hf, Except.toOption] at h
    | error f => exact Or.inr ⟨f, rfl⟩
  · exact Or.inl rfl

/-- Neither has to do with a delivery. -/
theorem spares_onDatagram_of_frame?_eq_none {d : Datagram} (h : c.frame? d = none) :
    Spares none c (c.onDatagram d) := by
  rcases onDatagram_of_frame?_eq_none h with h | ⟨f, h⟩ <;> rw [h]
  · exact .refl c
  · exact .of_eq rfl rfl rfl rfl

/-- Whatever arrives, no request is sent. -/
theorem outbox_onDatagram (c : Client) (d : Datagram) :
    ∃ quiet, (c.onDatagram d).outbox = c.outbox ++ quiet ∧ requests quiet = [] := by
  rcases c.onDatagram_cases d with ⟨frame, -, h⟩ | ⟨-, h⟩
  · rw [h]
    rcases c.onFrame_cases frame with ⟨response, -, -, h⟩ | ⟨-, -, h⟩ | ⟨-, -, h⟩
    · exact ⟨_, h.outbox, rfl⟩
    · exact ⟨[], by rw [h.outbox, List.append_nil], rfl⟩
    · exact h.calm.outbox
  · exact h.calm.outbox

end Client

/-! ### What is published -/

namespace Client

/-- **Two clients look alike** to the sender. -/
structure Alike (c c' : Client) : Prop where
  config : c'.config = c.config
  now : c'.now = c.now
  outbox : requests c'.outbox = requests c.outbox

theorem Alike.symm {c c' : Client} (h : Alike c c') : Alike c' c :=
  ⟨h.config.symm, h.now.symm, h.outbox.symm⟩

theorem Alike.trans {c c' c'' : Client} (h : Alike c c') (h' : Alike c' c'') : Alike c c'' :=
  ⟨h'.config.trans h.config, h'.now.trans h.now, h'.outbox.trans h.outbox⟩

theorem alike_transportFailed (c : Client) (f : Fault) : Alike c (c.transportFailed f) := by
  unfold transportFailed
  cases c.session.status
  all_goals
    constructor <;> simp [sessionLost_eq, publishFault, publish, requests, Output.request?]

end Client

/-- What a delivery does next does not depend on what is published. -/
theorem Transfer.alike_poll (transfer : Transfer) (c : Client) (f : Fault) (t : Session) :
    let b := { c with session := t }.publishFault f
    (transfer.poll b).1 = (transfer.poll c).1 ∧ Alike (transfer.poll c).2 (transfer.poll b).2 := by
  have ho : requests (c.outbox ++ [.event (.fault f)]) = requests c.outbox := by
    simp [requests, Output.request?]
  simp only [publishFault, publish]
  cases transfer with
  | awaitingAck copy attempt deadline =>
    unfold poll
    cases c.ackDone with
    | some result =>
      obtain f | u := result
      · exact ⟨rfl, rfl, rfl, ho⟩
      · unfold acknowledged
        by_cases hconfig : c.config.awaitConfirmation
        · simp only [hconfig, if_true]
          cases c.confirmation <;> exact ⟨rfl, rfl, rfl, ho⟩
        · simp only [hconfig]
          exact ⟨rfl, rfl, rfl, ho⟩
    | none =>
      unfold ackExpired sendCopy transmit
      by_cases ht : deadline ≤ c.now
      · by_cases hr : attempt < c.config.ackRetries.toNat
        · cases hs : c.socket.sendFault? with
          | none =>
            simp only [ht, hr, if_true, true_and]
            refine ⟨rfl, rfl, ?_⟩
            simp only [requests_append]
            rw [← requests_append, ho]
          | some f' =>
            simp only [ht, hr, if_true, true_and]
            refine (alike_transportFailed _ f').symm.trans (.trans ?_ (alike_transportFailed _ f'))
            exact ⟨rfl, rfl, ho⟩
        · simp only [ht, hr, if_true, if_false, true_and]
          exact ⟨rfl, rfl, ho⟩
      · simp only [ht, if_false, true_and]
        exact ⟨rfl, rfl, ho⟩
  | awaitingConfirmation deadline =>
    unfold poll
    cases c.confirmation with
    | some result => exact ⟨rfl, rfl, rfl, ho⟩
    | none =>
      by_cases ht : deadline ≤ c.now
      · simp only [ht, if_true, true_and]
        exact ⟨rfl, rfl, ho⟩
      · simp only [ht, if_false, true_and]
        exact ⟨rfl, rfl, ho⟩

namespace Sender

/-- To finish with a request sends nothing and takes no time. -/
theorem alike_finish (job : Job) (result : Except Fault Unit) (c : Client) :
    (finish job result c).1 = .resting (c.now + c.config.sendQueueInterval) ∧
      Alike c (finish job result c).2 := by
  obtain ⟨m, _ | id⟩ := job
  · cases result with
    | ok u => exact ⟨rfl, rfl, rfl, rfl⟩
    | error f =>
      exact ⟨rfl, rfl, rfl, by simp [finish, publishFault, publish, requests, Output.request?]⟩
  · simp only [finish, completeSlot_eq]
    exact ⟨rfl, rfl, rfl, rfl⟩

/-- **The sender does not notice what is published**, nor when the last frame came: it does what
it would have done, and sends what it would have sent. -/
theorem poll_publishFault (job : Job) (transfer : Transfer) (c : Client) (f : Fault)
    (t : Session) :
    let b := { c with session := t }.publishFault f
    ((delivering job transfer).poll b).1 = ((delivering job transfer).poll c).1 ∧
      requests ((delivering job transfer).poll b).2.outbox =
        requests ((delivering job transfer).poll c).2.outbox := by
  obtain ⟨hprogress, hb⟩ := transfer.alike_poll c f t
  simp only [poll]
  generalize transfer.poll ({ c with session := t }.publishFault f) = p' at hprogress hb ⊢
  generalize transfer.poll c = p at hprogress hb ⊢
  obtain ⟨progress, c₁⟩ := p
  obtain ⟨progress', c₂⟩ := p'
  obtain rfl : progress' = progress := hprogress
  cases progress' with
  | waiting transfer' => exact ⟨rfl, hb.outbox⟩
  | done result =>
    obtain ⟨hs₁, h₁⟩ := alike_finish job result c₁
    obtain ⟨hs₂, h₂⟩ := alike_finish job result c₂
    refine ⟨?_, (h₁.symm.trans (hb.trans h₂)).outbox⟩
    rw [follow, follow, hs₁, hs₂, hb.config, hb.now]

end Sender

end KnxIp
