import KnxIp.Proofs.Host.Ledger

/-!
# The wire discipline of tunnelling requests

The sender is one of many that work on the session, and it remembers a copy of its request
over its waits. That no copy is ever sent into another session, or under a wrong number,
rests on the mailbox for acknowledgements: whoever ends a session, and whoever accepts or
refuses a request, leaves something there, and the sender repeats a copy only while the
mailbox is empty. So as long as it is empty, the session is still the one in which the first
copy was sent, and no request has been accepted since.

What others may do to a client is `KnxIp.Client.Calm`: it sends no requests, begins no
session, keeps the number of the next request, and takes nothing out of the mailbox; and if
the mailbox stays empty, the session goes on. All moves are calm. What the sender itself does
when it does not send is less than that, `KnxIp.Client.Hush`, since it empties the mailbox.

The state of the wire after any run is `KnxIp.Ledger.Disciplined`, and what is known of the
request on its way is `KnxIp.Ledger.Underway`.

## Main statements

* `KnxIp.Ledger.wire_run`: of every run, all requests that were sent are proper, their copies
  are the same, contiguous and not too many, and they come in the order in which they
  entered the queue.
-/

namespace KnxIp

theorem requests_append (os os' : List Output) :
    requests (os ++ os') = requests os ++ requests os' := List.filterMap_append

/-! ### What does not disturb the wire -/

namespace Client

/-- **Nothing is sent and no session begins.** -/
structure Hush (c c' : Client) : Prop where
  config : c'.config = c.config
  connected : c'.isConnected → c.isConnected
  channel : c'.isConnected → c'.session.channel = c.session.channel
  sendSequence : c'.isConnected → c'.session.sendSequence = c.session.sendSequence
  dataEndpoint : c'.isConnected → c'.dataEndpoint = c.dataEndpoint
  outbox : ∃ quiet, c'.outbox = c.outbox ++ quiet ∧ requests quiet = []

/-- **What others than the sender may do**: the mailbox for acknowledgements is not emptied,
and stays empty only as long as the session goes on. -/
structure Calm (c c' : Client) : Prop extends Hush c c' where
  ackDone : c'.ackDone = none → c.ackDone = none
  goesOn : c'.ackDone = none → c.isConnected → c'.isConnected

variable {c c' c'' : Client}

theorem Hush.refl (c : Client) : Hush c c :=
  ⟨rfl, id, fun _ => rfl, fun _ => rfl, fun _ => rfl, [], by simp, rfl⟩

theorem Hush.trans (h : Hush c c') (h' : Hush c' c'') : Hush c c'' := by
  obtain ⟨o, ho, hr⟩ := h.outbox
  obtain ⟨o', ho', hr'⟩ := h'.outbox
  refine ⟨h'.config.trans h.config, fun hc => h.connected (h'.connected hc), ?_, ?_, ?_, ?_⟩
  · exact fun hc => (h'.channel hc).trans (h.channel (h'.connected hc))
  · exact fun hc => (h'.sendSequence hc).trans (h.sendSequence (h'.connected hc))
  · exact fun hc => (h'.dataEndpoint hc).trans (h.dataEndpoint (h'.connected hc))
  · exact ⟨o ++ o', by rw [ho', ho, List.append_assoc], by rw [requests_append, hr, hr']; rfl⟩

theorem Calm.refl (c : Client) : Calm c c := ⟨.refl c, id, fun _ => id⟩

theorem Calm.trans (h : Calm c c') (h' : Calm c' c'') : Calm c c'' :=
  ⟨h.toHush.trans h'.toHush, fun ha => h.ackDone (h'.ackDone ha),
    fun ha hc => h'.goesOn ha (h.goesOn (h'.ackDone ha) hc)⟩

/-- A client that is not connected any more sends nothing, wherever it says requests go. -/
theorem Hush.of_not_isConnected (hn : c'.config = c.config) (hc : c'.isConnected = false)
    (ho : ∃ quiet, c'.outbox = c.outbox ++ quiet ∧ requests quiet = []) : Hush c c' := by
  refine ⟨hn, ?_, ?_, ?_, ?_, ho⟩ <;> intro h <;> rw [hc] at h <;> cases h

theorem Hush.of_keeps (hn : c'.config = c.config) (hs : c.session.Keeps c'.session)
    (hd : c'.dataEndpoint = c.dataEndpoint)
    (ho : ∃ quiet, c'.outbox = c.outbox ++ quiet ∧ requests quiet = []) : Hush c c' :=
  ⟨hn, fun h => by simpa [isConnected, hs.isConnected_eq] using h, fun _ => hs.channel,
    fun _ => hs.sendSequence, fun _ => hd, ho⟩

/-- Whatever leaves the mailbox alone and goes on with the session is calm. -/
theorem Calm.of_keeps (hn : c'.config = c.config) (hs : c.session.Keeps c'.session)
    (hd : c'.dataEndpoint = c.dataEndpoint) (ha : c'.ackDone = c.ackDone)
    (ho : ∃ quiet, c'.outbox = c.outbox ++ quiet ∧ requests quiet = []) : Calm c c' :=
  ⟨.of_keeps hn hs hd ho, fun h => by rwa [ha] at h,
    fun _ h => by simpa [isConnected, hs.isConnected_eq] using h⟩

theorem Silent.hush (h : Silent c c') : Hush c c' :=
  .of_keeps h.config h.session h.dataEndpoint ⟨[], by rw [h.outbox, List.append_nil], rfl⟩

theorem Apart.calm (h : Apart c c') : Calm c c' := by
  refine .of_keeps h.config ?_ h.dataEndpoint h.ackDone ⟨[], by rw [h.outbox, List.append_nil], rfl⟩
  rw [h.session]
  exact .refl _

/-- **The end of a session is calm.** -/
theorem calm_sessionLost (c : Client) (t : Session) (reason : EndReason)
    (ht : t.status = .disconnected) : Calm c ({ c with session := t }.sessionLost reason) := by
  rw [sessionLost_eq]
  refine ⟨.of_not_isConnected rfl ?_ ⟨_, rfl, rfl⟩, fun h => ?_, fun h => ?_⟩
  · simp [isConnected, ht, Status.isConnected]
  · cases h
  · cases h

theorem Move.calm (h : Move c c') : Calm c c' := by
  cases h with
  | aside h => exact h.apart.calm
  | publish e h => exact .of_keeps rfl (.refl _) rfl rfl ⟨_, rfl, rfl⟩
  | send d h =>
    exact .of_keeps rfl (.refl _) rfl rfl ⟨_, rfl, by simp [requests, Output.request?, h]⟩
  | keep t h ho => exact .of_keeps rfl h rfl rfl ⟨[], by simp, rfl⟩
  | dial t hs ht =>
    refine ⟨.of_not_isConnected rfl ?_ ⟨[], by simp, rfl⟩, id, fun _ hc => ?_⟩
    · simp [isConnected, ht, Status.isConnected]
    · simp [isConnected, hs, Status.isConnected] at hc
  | hangUp t hs ht =>
    refine ⟨.of_not_isConnected rfl ?_ ⟨[], by simp, rfl⟩, id, fun _ hc => ?_⟩
    · simp [isConnected, ht, Status.isConnected]
    · simp [isConnected, hs, Status.isConnected] at hc
  | refuse t f h ho =>
    exact ⟨.of_keeps rfl h rfl ⟨[], by simp, rfl⟩, by rintro ⟨⟩, by rintro ⟨⟩⟩
  | leave t f hs ht =>
    refine ⟨.of_not_isConnected rfl ?_ ⟨[], by simp, rfl⟩, by rintro ⟨⟩, by rintro ⟨⟩⟩
    simp [isConnected, ht, Status.isConnected]
  | lose t reason hs ht => exact calm_sessionLost c t reason ht

/-- **All that others than the sender do is calm.** -/
theorem Moves.calm (h : Moves c c') : Calm c c' := by
  induction h with
  | refl => exact .refl _
  | tail _ h ih => exact ih.trans h.calm

theorem Overtakes.calm (h : Overtakes c c') : Calm c c' := by
  obtain ⟨t, hb, -, ht⟩ := h
  exact hb.apart.calm.trans (calm_sessionLost _ t _ ht)

/-- **A datagram is sent**, and nothing else happens to the session. -/
structure Sends (c c' : Client) (d : Datagram) : Prop where
  config : c'.config = c.config
  status : c'.session.status = c.session.status
  channel : c'.session.channel = c.session.channel
  sendSequence : c'.session.sendSequence = c.session.sendSequence
  dataEndpoint : c'.dataEndpoint = c.dataEndpoint
  outbox : c'.outbox = c.outbox ++ [.datagram d]

/-- As long as the session goes on, a request would be the same. -/
theorem Hush.request_eq (h : Hush c c') (hc : c'.isConnected) (m : Cemi) :
    c'.request m = c.request m := by
  rw [request, h.channel hc, h.sendSequence hc, h.dataEndpoint hc, request]

end Client

/-- A turn of a call is calm. -/
theorem Call.calm_poll (k : Call) (c : Client) : c.Calm (k.poll c).2 := by
  rcases k.poll_apart_or_moves c with ⟨-, ha | hm⟩ | ⟨-, b, ho, hm⟩
  · exact ha.calm
  · exact hm.calm
  · exact ho.calm.trans hm.calm

namespace Sender

/-- To stop the sender is calm. -/
theorem calm_cancel (s : Sender) (c : Client) : c.Calm (s.cancel c) := by
  unfold cancel
  cases s.job? with
  | none => exact .refl c
  | some job =>
    simp only [Client.dropJob_eq]
    exact .of_keeps rfl (.of_eq rfl rfl rfl) rfl rfl ⟨[], by simp, rfl⟩

/-- To finish with a request sends nothing. -/
theorem hush_finish (job : Job) (result : Except Fault Unit) (c : Client) :
    c.Hush (finish job result c).2 := by
  obtain ⟨m, _ | id⟩ := job
  · cases result with
    | ok u => exact .refl c
    | error f => exact .of_keeps rfl (.refl _) rfl ⟨_, rfl, rfl⟩
  · simp only [finish]
    rw [c.completeSlot_eq]
    exact .of_keeps rfl (.refl _) rfl ⟨[], by simp [Client.setSlot], rfl⟩

end Sender

/-! ### The wire after a run -/

namespace Ledger

open Host

/-- The copies that were sent of a request. -/
def copiesOf (L : Ledger) (t : Nat) : List Datagram :=
  (L.sent.filter fun e => e.ticket = t).map Emission.datagram

end Ledger

/-- **A request was sent properly**: while connected, to where the session says, on its
channel, and under the number of requests that the gateway had accepted. -/
structure Emission.IsProper (e : Emission) (entered : List Job) : Prop where
  before : e.before.isConnected
  after : e.after.isConnected
  datagram : ∃ g job, e.grant = some g ∧ entered[e.ticket]? = some job ∧
    e.datagram = ⟨(Frame.tunnelingRequest
      (.ofCemi g.channel (UInt8.ofNat e.accepted) job.message)).octets, g.endpoint⟩

/-- It was so also when more requests have entered the queue. -/
theorem Emission.IsProper.append {e : Emission} {jobs : List Job} (h : e.IsProper jobs)
    (new : List Job) : e.IsProper (jobs ++ new) := by
  obtain ⟨g, job, hg, hjob, hd⟩ := h.datagram
  have hlt : e.ticket < jobs.length := (List.getElem?_eq_some_iff.mp hjob).1
  exact ⟨h.before, h.after, g, job, hg, by rw [List.getElem?_append_left hlt, hjob], hd⟩

namespace Ledger

open Host

/-- **The wire is disciplined.** -/
structure Disciplined (config : Config) (L : Ledger) (c : Client) : Prop where
  config_eq : c.config = config
  /-- The session is the one that was granted last, and counts what was accepted. -/
  session : c.isConnected → L.grant = some ⟨c.session.channel, c.dataEndpoint⟩ ∧
    c.session.sendSequence = UInt8.ofNat L.accepted
  /-- Only what the sender has taken is sent. -/
  taken : ∀ e ∈ L.sent, e.ticket ∈ L.begun
  order : (L.sent.map Emission.ticket).Pairwise (· ≤ ·)
  /-- All copies of a request are the same, and they are not too many. -/
  copies : ∀ t, ∃ d, ∃ n ≤ 1 + config.ackRetries.toNat, L.copiesOf t = List.replicate n d
  proper : ∀ e ∈ L.sent, e.IsProper L.entered
  complete : requests c.outbox = L.sent.map Emission.datagram

/-- **A request is under way**: so many copies of it were sent, and unless something is in
the mailbox, another one may follow. -/
structure Underway (config : Config) (L : Ledger) (c : Client) (job : Job) (copy : Datagram)
    (attempt : Nat) : Prop where
  attempt_le : attempt ≤ config.ackRetries.toNat
  copies : ∀ t, L.inFlight = some t → L.copiesOf t = List.replicate (attempt + 1) copy
  current : c.ackDone = none → c.isConnected ∧ copy = c.request job.message

/-- **The invariant of the wire.** -/
structure Wired (config : Config) (L : Ledger) (c : Client) (s : Option Sender) : Prop where
  disciplined : L.Disciplined config c
  underway : ∀ job copy attempt deadline,
    s = some (.delivering job (.awaitingAck copy attempt deadline)) →
      L.Underway config c job copy attempt

/-- **Two ledgers tell the same of the wire**, except that requests may have entered the
queue. -/
structure SameWire (L L' : Ledger) : Prop where
  grant : L'.grant = L.grant
  accepted : L'.accepted = L.accepted
  begun : L'.begun = L.begun
  sent : L'.sent = L.sent
  entered : ∃ new, L'.entered = L.entered ++ new

variable {config : Config} {L L' : Ledger} {c c' : Client} {e : Emission}

theorem SameWire.refl (L : Ledger) : SameWire L L := ⟨rfl, rfl, rfl, rfl, [], by simp⟩

theorem SameWire.trans {L'' : Ledger} (h : SameWire L L') (h' : SameWire L' L'') :
    SameWire L L'' := by
  obtain ⟨new, hn⟩ := h.entered
  obtain ⟨new', hn'⟩ := h'.entered
  exact ⟨h'.grant.trans h.grant, h'.accepted.trans h.accepted, h'.begun.trans h.begun,
    h'.sent.trans h.sent, new ++ new', by rw [hn', hn, List.append_assoc]⟩

theorem sameWire_requeue (queue : List Job) (caller : Option Nat) :
    SameWire L (L.requeue queue caller) :=
  ⟨rfl, rfl, rfl, rfl, _, rfl⟩

theorem SameWire.copiesOf (h : SameWire L L') (t : Nat) : L'.copiesOf t = L.copiesOf t := by
  rw [Ledger.copiesOf, h.sent, Ledger.copiesOf]

/-- Nothing is sent and no session begins. -/
theorem Disciplined.hush (h : L.Disciplined config c) (hc : c.Hush c') (hL : SameWire L L') :
    L'.Disciplined config c' := by
  refine ⟨hc.config.trans h.config_eq, ?_, ?_, ?_, ?_, ?_, ?_⟩
  · intro hconn
    obtain ⟨hg, hn⟩ := h.session (hc.connected hconn)
    rw [hc.channel hconn, hc.dataEndpoint hconn, hc.sendSequence hconn, hL.grant, hL.accepted]
    exact ⟨hg, hn⟩
  · rw [hL.sent, hL.begun]
    exact h.taken
  · rw [hL.sent]
    exact h.order
  · intro t
    rw [hL.copiesOf]
    exact h.copies t
  · obtain ⟨new, hnew⟩ := hL.entered
    rw [hL.sent, hnew]
    exact fun e he => (h.proper e he).append new
  · obtain ⟨quiet, ho, hr⟩ := hc.outbox
    rw [ho, requests_append, hr, List.append_nil, hL.sent]
    exact h.complete

/-! ### What others do -/

/-- What is under way stays so as long as others are calm. -/
theorem Underway.calm {job : Job} {copy : Datagram} {attempt : Nat}
    (h : L.Underway config c job copy attempt) (hc : c.Calm c') (hL : SameWire L L')
    (hf : L'.inFlight = L.inFlight) : L'.Underway config c' job copy attempt := by
  refine ⟨h.attempt_le, ?_, ?_⟩
  · intro t ht
    rw [hL.copiesOf]
    exact h.copies t (by rw [← hf, ht])
  · intro ha
    obtain ⟨hconn, hcopy⟩ := h.current (hc.ackDone ha)
    have hconn' := hc.goesOn ha hconn
    exact ⟨hconn', by rw [hcopy, hc.request_eq hconn']⟩

/-- **Others are calm**, and the wire stays as it is. -/
theorem Wired.calm {s : Option Sender} (h : L.Wired config c s) (hc : c.Calm c')
    (hL : SameWire L L') (hf : L'.inFlight = L.inFlight) : L'.Wired config c' s :=
  ⟨h.disciplined.hush hc.toHush hL, fun job copy attempt deadline hs =>
    (h.underway job copy attempt deadline hs).calm hc hL hf⟩

/-- A sender that does not await an acknowledgement has nothing under way. -/
theorem Disciplined.wired {s : Option Sender} (h : L.Disciplined config c)
    (hs : ∀ job copy attempt deadline,
      s ≠ some (.delivering job (.awaitingAck copy attempt deadline))) : L.Wired config c s :=
  ⟨h, fun job copy attempt deadline heq => absurd heq (hs job copy attempt deadline)⟩

/-- **A session begins.** The mailbox cannot have been empty with a request under way, since
there was no session. -/
theorem Wired.grants {s : Option Sender} {response : ConnectResponse} (h : L.Wired config c s)
    (hg : Client.Grants response c c') :
    { L with
      grant := some ⟨response.channel, response.dataEndpoint c.config.gateway⟩
      accepted := 0 }.Wired config c' s := by
  have hd := h.disciplined
  refine ⟨⟨hg.config.trans hd.config_eq, fun _ => ?_, hd.taken, hd.order, hd.copies, hd.proper, ?_⟩,
    fun job copy attempt deadline hs => ?_⟩
  · rw [hg.channel, hg.dataEndpoint, hg.sendSequence]
    exact ⟨rfl, rfl⟩
  · have hquiet : requests [.event (.connected response.channel)] = [] := rfl
    rw [hg.outbox, requests_append, hquiet, List.append_nil]
    exact hd.complete
  · -- While a session is only being opened, no request can be under way with an empty mailbox.
    have hu := h.underway job copy attempt deadline hs
    refine ⟨hu.attempt_le, hu.copies, fun ha => ?_⟩
    obtain ⟨hconn, -⟩ := hu.current (hg.ackDone.symm.trans ha)
    simp [Client.isConnected, hg.connecting, Status.isConnected] at hconn

/-- **A request is accepted**, and the next one has the next number. -/
theorem Wired.accepts {s : Option Sender} (h : L.Wired config c s) (ha : Client.Accepts c c') :
    { L with accepted := L.accepted + 1 }.Wired config c' s := by
  have hd := h.disciplined
  refine ⟨⟨ha.config.trans hd.config_eq, fun _ => ?_, hd.taken, hd.order, hd.copies, hd.proper, ?_⟩,
    fun job copy attempt deadline hs => ?_⟩
  · obtain ⟨hg, hn⟩ := hd.session ha.connected
    rw [ha.channel, ha.dataEndpoint, ha.sendSequence, hn]
    exact ⟨hg, by simp⟩
  · rw [ha.outbox]
    exact hd.complete
  · -- The acknowledgement lies in the mailbox, so that no other copy follows.
    have hu := h.underway job copy attempt deadline hs
    refine ⟨hu.attempt_le, hu.copies, fun hnone => ?_⟩
    rw [ha.ackDone] at hnone
    cases hnone

/-- **A datagram** begins a session, or accepts a request, or is calm. -/
theorem Wired.receive {s : Option Sender} (h : L.Wired config c s) (d : Datagram)
    (socket : Socket) :
    (L.receive c d).Wired config ({ c with socket := socket }.onDatagram d) s := by
  have hb : c.Calm { c with socket := socket } := Client.Apart.calm ⟨rfl, rfl, rfl, rfl, rfl⟩
  have hwired := h.calm hb (.refl L) rfl
  -- To take the datagram out of the socket changes nothing that the ledger reads.
  generalize hbeq : ({ c with socket := socket } : Client) = b at hwired ⊢
  have hreceive : L.receive c d = L.receive b d := by
    subst hbeq
    rfl
  rw [hreceive]
  unfold Ledger.receive
  rcases b.onDatagram_cases d with ⟨frame, hf, hon⟩ | ⟨hf, hm⟩
  · simp only [hf, hon, granted]
    rcases b.onFrame_cases frame with ⟨response, hr, -, hg⟩ | ⟨hr, ha, hacc⟩ | ⟨hr, ha, hm⟩
    · simpa only [hr] using hwired.grants hg
    · simpa only [hr, ha, if_true] using hwired.accepts hacc
    · simpa only [hr, ha, Bool.false_eq_true, if_false] using hwired.calm hm.calm (.refl L) rfl
  · simp only [hf]
    exact hwired.calm hm.calm (.refl L) rfl

/-! ### What the sender does -/

/-- What is sent in a moment. -/
theorem emit_of_requests {m : Moment} {t : Nat} (ds : List Datagram) (hf : L.inFlight = some t)
    (h : requests (m.after.outbox.drop m.before.outbox.length) = ds) :
    (L.emit m).sent =
      L.sent ++ ds.map fun d => ⟨t, d, m.before, m.after, L.grant, L.accepted⟩ := by
  simp only [emit, hf, h]

theorem copiesOf_concat (h : L'.sent = L.sent ++ [e]) (t : Nat) :
    L'.copiesOf t = if e.ticket = t then L.copiesOf t ++ [e.datagram] else L.copiesOf t := by
  unfold copiesOf
  rw [h, List.filter_append, List.map_append]
  by_cases ht : e.ticket = t <;> simp [ht]

/-- A turn in which nothing is sent is not told. -/
theorem sameWire_emit {m : Moment} (h : m.before.Hush m.after) : SameWire L (L.emit m) := by
  obtain ⟨quiet, ho, hr⟩ := h.outbox
  refine ⟨rfl, rfl, rfl, ?_, [], by simp [emit]⟩
  cases hf : L.inFlight with
  | none => simp [emit, hf]
  | some t =>
    have hsent := emit_of_requests (m := m) [] hf (by rw [ho, List.drop_left, hr])
    rwa [List.map_nil, List.append_nil] at hsent

theorem sameWire_conclude (result : Except Fault Unit) : SameWire L (L.conclude result) := by
  unfold conclude
  split
  · exact ⟨rfl, rfl, rfl, rfl, [], by simp⟩
  · exact .refl L

/-- **A copy is sent** of the request that is delivered. -/
theorem Disciplined.emit {m : Moment} {t n : Nat} {job : Job}
    (h : L.Disciplined config m.before) (hc : m.before.isConnected)
    (hs : m.before.Sends m.after (m.before.request job.message)) (hf : L.inFlight = some t)
    (hmem : t ∈ L.begun) (hlast : ∀ t' ∈ L.begun, t' ≤ t) (hjob : L.entered[t]? = some job)
    (hn : L.copiesOf t = List.replicate n (m.before.request job.message))
    (hle : n ≤ config.ackRetries.toNat) :
    (L.emit m).Disciplined config m.after ∧
      (L.emit m).copiesOf t = List.replicate (n + 1) (m.before.request job.message) := by
  obtain ⟨hg, hacc⟩ := h.session hc
  have hnew : requests [.datagram (m.before.request job.message)] =
      [m.before.request job.message] := by
    simp [requests, Output.request?, Client.isRequest_request]
  have hsent := emit_of_requests (m := m) _ hf (by rw [hs.outbox, List.drop_left, hnew])
  simp only [List.map_cons, List.map_nil] at hsent
  have hcopies : (L.emit m).copiesOf t =
      List.replicate (n + 1) (m.before.request job.message) := by
    rw [copiesOf_concat hsent, if_pos rfl, hn, List.replicate_succ']
  refine ⟨⟨hs.config.trans h.config_eq, fun _ => ?_, ?_, ?_, fun t' => ?_, ?_, ?_⟩, hcopies⟩
  · rw [hs.channel, hs.dataEndpoint, hs.sendSequence]
    exact ⟨hg, hacc⟩
  · rw [hsent, List.forall_mem_append, List.forall_mem_singleton]
    exact ⟨h.taken, hmem⟩
  · rw [hsent, List.map_append, List.pairwise_append]
    refine ⟨h.order, by simp, ?_⟩
    -- What was sent before belongs to what was taken, of which this request is the last.
    intro t₁ ht₁ t₂ ht₂
    obtain ⟨e, he, rfl⟩ := List.mem_map.mp ht₁
    simp only [List.map_cons, List.map_nil, List.mem_singleton] at ht₂
    rw [ht₂]
    exact hlast _ (h.taken e he)
  · by_cases ht : t = t'
    · subst ht
      exact ⟨_, n + 1, by omega, hcopies⟩
    · rw [copiesOf_concat hsent, if_neg ht]
      exact h.copies t'
  · rw [hsent, List.forall_mem_append, List.forall_mem_singleton]
    refine ⟨h.proper, hc, by simpa [Client.isConnected, hs.status] using hc, _, job, hg, hjob, ?_⟩
    simp only [Client.request, hacc]
  · rw [hsent, hs.outbox, requests_append, hnew, h.complete, List.map_append]
    rfl

/-- The sender takes a request of which nothing has been sent. -/
theorem Disciplined.take (h : L.Disciplined config c) : L.take.Disciplined config c := by
  unfold Ledger.take
  split
  · exact ⟨h.config_eq, h.session, fun e he => List.mem_append_left _ (h.taken e he), h.order,
      h.copies, h.proper, h.complete⟩
  · exact h

theorem Disciplined.takeFor (h : L.Disciplined config c) (s : Sender) (b : Client) :
    (L.takeFor s b).Disciplined config c := by
  unfold Ledger.takeFor
  split
  · exact h.take
  · exact h

/-- Of what the sender takes now, no copy has been sent. -/
theorem Disciplined.copiesOf_take {job : Job} {rest : List Job} {t : Nat}
    (h : L.Disciplined config c) (hfits : L.Fits (job :: rest) none)
    (ht : L.take.inFlight = some t) : L.take.copiesOf t = [] := by
  have hsent : L.take.sent = L.sent := by
    unfold Ledger.take
    split <;> rfl
  simp only [copiesOf, hsent, List.map_eq_nil_iff, List.filter_eq_nil_iff, decide_eq_true_eq]
  rintro e he rfl
  exact hfits.notMem_begun ht (h.taken e he)

/-- **A delivery ends.** Nothing is sent, and no acknowledgement is awaited afterwards. -/
theorem Disciplined.wired_finish {job : Job} {deed : Deed} (h : L.Disciplined config c)
    (hc : c.Hush c') (result : Except Fault Unit) :
    ((L.emit ⟨deed, c, (Sender.finish job result c').2⟩).conclude result).Wired config
      (Sender.finish job result c').2 (some (Sender.finish job result c').1) := by
  have hfinish := hc.trans (Sender.hush_finish job result c')
  refine (h.hush hfinish ((sameWire_emit hfinish).trans (sameWire_conclude result))).wired ?_
  rintro job' copy attempt deadline heq
  cases Option.some.inj heq

/-- **What the sender works on** has been taken last. -/
theorem Fits.last {queue : List Job} {job : Job} (h : L.Fits queue (some job)) :
    ∃ t, L.inFlight = some t ∧ L.entered[t]? = some job ∧ t ∈ L.begun ∧
      ∀ t' ∈ L.begun, t' ≤ t := by
  obtain ⟨t, ht⟩ := Option.isSome_iff_exists.mp (h.inFlight_isSome.trans rfl)
  have hjob := h.job
  simp only [ht, Option.map_some, Option.some.injEq] at hjob
  -- It is the last of a list that grows strictly.
  obtain ⟨pre, hpre⟩ := List.getLast?_eq_some_iff.mp (h.begun t ht)
  refine ⟨t, ht, hjob, by simp [hpre], ?_⟩
  intro t' ht'
  have horder := (List.pairwise_append.mp h.order).1
  rw [hpre] at ht' horder
  rcases List.mem_append.mp ht' with ht' | ht'
  · exact Nat.le_of_lt ((List.pairwise_append.mp horder).2.2 t' ht' t (List.mem_singleton_self t))
  · exact Nat.le_of_eq (List.mem_singleton.mp ht')

/-- **A copy is sent, and another one may follow.** -/
theorem Disciplined.wired_emit {queue : List Job} {job : Job} {attempt deadline : Nat}
    {deed : Deed} (h : L.Disciplined config c) (hfits : L.Fits queue (some job))
    (hc : c.isConnected) (hs : c.Sends c' (c.request job.message))
    (hn : ∀ t, L.inFlight = some t →
      L.copiesOf t = List.replicate attempt (c.request job.message))
    (hle : attempt ≤ config.ackRetries.toNat) :
    (L.emit ⟨deed, c, c'⟩).Wired config c'
      (some (.delivering job (.awaitingAck (c.request job.message) attempt deadline))) := by
  obtain ⟨t, hf, hjob, hmem, hlast⟩ := hfits.last
  obtain ⟨hd, hcopies⟩ := Disciplined.emit (m := ⟨deed, c, c'⟩) h hc hs hf hmem hlast hjob
    (hn t hf) hle
  refine ⟨hd, fun job' copy attempt' deadline' heq => ?_⟩
  cases heq
  refine ⟨hle, fun t' ht' => ?_, fun _ => ⟨?_, ?_⟩⟩
  · have : t = t' := Option.some.inj (hf.symm.trans ht')
    rw [← this, hcopies]
  · simpa [Client.isConnected, hs.status] using hc
  · rw [Client.request, Client.request, hs.channel, hs.sendSequence, hs.dataEndpoint]

/-- **A turn of the sender** keeps the wire disciplined. -/
theorem Wired.send {s : Sender} (h : L.Wired config c (some s))
    (hfits : L.Fits c.queue.toList s.job?) :
    (L.note ⟨.send s, c, (s.poll c).2⟩).Wired config (s.poll c).2 (some (s.poll c).1) := by
  simp only [note]
  cases hw : s.work? c with
  | none =>
    obtain ⟨hc, hjob, -, -⟩ := Sender.poll_of_work?_eq_none hw
    rw [hc, hfits.takeFor_of_work?_eq_none hw]
    have hsame := (sameWire_requeue (L := L) c.queue.toList none).trans
      (sameWire_emit (m := ⟨.send s, c, c⟩) (.refl c))
    refine (h.disciplined.hush (.refl c) hsame).wired ?_
    rintro job copy attempt deadline heq
    simp [Option.some.inj heq, Sender.job?] at hjob
  | some r =>
    obtain ⟨job, p⟩ := r
    have hfits' := hfits.takeFor hw
    have hd : ((L.takeFor s c).requeue p.2.queue.toList none).Disciplined config c :=
      (h.disciplined.takeFor s c).hush (.refl c) (sameWire_requeue _ _)
    rw [Sender.poll_of_work? hw, Sender.queue_follow]
    obtain ⟨progress, c'⟩ := p
    rcases Sender.work?_cases hw with ⟨t, rfl, ht⟩ | ⟨q, hjob, hr, hq, ho⟩
    · -- The request was on its way: only where the mailbox is empty is it sent again.
      cases ht with
      | wait =>
        have hsame := (sameWire_requeue (L := L) c'.queue.toList none).trans
          (sameWire_emit (m := ⟨.send (.delivering job t), c', c'⟩) (.refl c'))
        exact h.calm (.refl c') hsame rfl
      | again copy attempt deadline ha hr =>
        have hu := h.underway job copy attempt deadline rfl
        obtain ⟨hconn, rfl⟩ := hu.current ha
        have hle : attempt + 1 ≤ config.ackRetries.toNat := by
          rw [← h.disciplined.config_eq]
          exact hr
        exact hd.wired_emit hfits' hconn ⟨rfl, rfl, rfl, rfl, rfl, rfl⟩ hu.copies hle
      | confirm _ deadline hc =>
        have hsame := sameWire_emit
          (L := (L.takeFor (.delivering job t) c).requeue c'.queue.toList none)
          (m := ⟨.send (.delivering job t), c, c'⟩) hc.hush
        refine (hd.hush hc.hush hsame).wired ?_
        rintro job' copy attempt deadline' heq
        cases Option.some.inj heq
      | ended _ result hb hc => exact hd.wired_finish (hb.hush.trans hc.calm.toHush) result
    · -- The request comes from the queue, so that this is its first copy, if there is one.
      have hpop : c.Hush { c with queue := q } := .of_keeps rfl (.refl _) rfl ⟨[], by simp, rfl⟩
      cases ho with
      | sent hc =>
        have hnew : ∀ t, (L.takeFor s c).inFlight = some t →
            (L.takeFor s c).copiesOf t = [] := by
          rw [hq, hjob] at hfits
          have htake : L.takeFor s c = L.take := by simp [takeFor, hr]
          intro t ht
          rw [htake] at ht ⊢
          exact h.disciplined.copiesOf_take hfits ht
        exact hd.wired_emit hfits' hc ⟨rfl, rfl, rfl, rfl, rfl, rfl⟩ hnew (Nat.zero_le _)
      | ended f hb hc => exact hd.wired_finish ((hpop.trans hb.hush).trans hc.calm.toHush) _

/-- **A turn** keeps the wire disciplined. -/
theorem Wired.turn {S S' : Stage} {m : Moment} (t : Turn S m S')
    (hfits : L.Fits S.client.queue.toList (S.sender.bind Sender.job?))
    (h : L.Wired config S.client S.sender) : (L.note m).Wired config S'.client S'.sender := by
  cases t with
  | receive c s ks d socket =>
    rw [note_receive]
    exact (h.receive d socket).calm (.refl _) (sameWire_requeue _ _) rfl
  | send c s ks => exact h.send hfits
  | stop s ks hb =>
    rw [note_stop]
    have hL : SameWire L (if s.job?.isSome then L.conclude (.error Client.lost) else L) := by
      split
      · exact sameWire_conclude _
      · exact .refl L
    have hc := hb.apart.calm.trans (s.calm_cancel _)
    exact (h.disciplined.hush hc.toHush hL).wired (by simp)
  | start c ks =>
    rw [note_other]
    refine (h.disciplined.hush (.refl c) (sameWire_requeue _ _)).wired ?_
    rintro job copy attempt deadline heq
    cases Option.some.inj heq
  | begin c s ks k hn hk =>
    rw [note_other]
    exact h.calm (.refl c) (sameWire_requeue _ _) rfl
  | call c s pre k post =>
    rw [note_call]
    have hL : SameWire L ((L.tell c k).forget k) := ⟨rfl, rfl, rfl, rfl, [], by simp [forget, tell]⟩
    exact h.calm (k.call.calm_poll c) (hL.trans (sameWire_requeue _ _)) rfl
  | cancel c s pre k post =>
    rw [note_cancel]
    exact h.calm (k.call.apart_cancel c).calm (.refl L) rfl
  | move s ks hm =>
    rw [note_other]
    exact h.calm hm.calm (sameWire_requeue _ _) rfl

/-! ### The wire after a run -/

/-- At first no request has been sent. -/
theorem wired_fresh (config : Config) : empty.Wired config (Host.fresh config).client none := by
  refine Disciplined.wired ⟨rfl, ?_, by simp [empty], by simp [empty], ?_, by simp [empty], rfl⟩
    (by simp)
  · simp [Host.fresh, Client.fresh, Client.isConnected, Session.fresh, Status.isConnected]
  · exact fun t => ⟨⟨Frame.octets (.tunnelingAck ⟨0, 0, 0⟩), config.gateway⟩, 0, Nat.zero_le _, rfl⟩

end Ledger

end KnxIp
