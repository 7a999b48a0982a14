import KnxIp.Proofs.Host.Meanwhile

/-!
# How an attempt to open a session ends

The gateway may answer an attempt to open a session late, twice, or not at all, the socket may fail,
and a session that was granted may have ended before the call that asked for it hears of it. This
module gathers from a history what happens to each attempt (`KnxIp.Dial`): which answers came while
the session was being opened, which sessions were announced, and with what the socket failed. From
this alone it can be told what the call returns (`KnxIp.Probe.IsFair`):

* the channel of a session, if that was announced;
* that the gateway has refused, if such an answer came in time;
* that nothing came, if the time passed without an answer and without a failure;
* that the session was lost, if the socket failed before an answer came.

This is so as long as calls that open or close sessions come one after the other, and none of them
is stopped (`KnxIp.Dials.orderly`). Between two turns of the call the status of the session, what
the history tells, and the word that waits for the call agree (`KnxIp.Dial.Stands`).

## Main statements

* `KnxIp.Dials.dials_run`: after every orderly run, each attempt to open a session had the outcome
  that it had to have; and in every run, connect responses that came when no session was being
  opened have changed nothing.
-/

namespace KnxIp

/-- **An attempt to open a session**, as a history tells of it. -/
structure Dial where
  /-- The number of the call. -/
  number : Nat
  /-- The client when the call had its first turn. -/
  start : Client
  /-- Whether the gateway was asked. -/
  asked : Bool
  /-- The channels of the sessions that were announced since. -/
  announced : List UInt8
  /-- The answers that came while the session was being opened. -/
  answers : List ConnectResponse
  /-- The faults with which the socket failed to receive since. While a session is being opened
  nothing is sent, so that it does not fail otherwise. -/
  failures : List Fault

/-- **A probe**: a turn of a call that opens a session, which sends the request or looks whether
there is word for it, and the attempt as it stood before. -/
structure Probe where
  dial : Dial
  /-- What the call returns, if this was its last turn. -/
  result : Option (Except Fault UInt8)
  moment : Host.Moment

/-- **What a history tells of attempts to open a session.** -/
structure Dials where
  /-- The call that opens or closes a session and has not returned. -/
  live : Option Nat
  /-- Whether there was never more than one, and none was stopped. -/
  orderly : Bool
  /-- The attempt that goes on. -/
  current : Option Dial
  probes : List Probe

open Host

/-! ### One attempt -/

namespace Dial

/-- An attempt that begins. -/
def begun (number : Nat) (c : Client) : Dial := ⟨number, c, false, [], [], []⟩

/-- **The attempt after another moment.** -/
def note (d : Dial) (m : Moment) : Dial :=
  { d with
    announced := d.announced ++ m.announced
    answers := d.answers ++ m.answer?.toList
    failures := d.failures ++ m.failure?.toList }

/-- When the time for an answer is up. -/
def deadline (config : Config) (d : Dial) : Nat := d.start.now + config.connectTimeout

/-- **No answer came** in time: the gateway was asked, nothing has been heard of it, and the socket
has not failed. -/
structure IsExpired (config : Config) (d : Dial) (now : Nat) : Prop where
  asked : d.asked = true
  waited : d.deadline config ≤ now
  answers : d.answers = []
  failures : d.failures = []

end Dial

/-- The sessions that were announced from the beginning of the attempt to the end of the turn. -/
def Probe.announced (v : Probe) : List UInt8 := (v.dial.note v.moment).announced

/-- **A probe is fair**: the call returns what has become of the attempt. -/
structure Probe.IsFair (config : Config) (v : Probe) : Prop where
  granted : ∀ channel, v.result = some (.ok channel) ↔ channel ∈ v.announced
  rejected : ∀ status, v.result = some (.error (.connection (.rejected status))) ↔
    status ≠ 0 ∧ ∃ answer ∈ v.dial.answers, answer.status = status
  expired : v.result = some (.error (.timeout .connect)) ↔
    v.dial.IsExpired config v.moment.before.now
  /-- The socket has failed before an answer came. -/
  lost : v.result = some (.error Client.lost) ↔ v.dial.answers = [] ∧ v.dial.failures ≠ []
  /-- There was a session when the gateway was to be asked. -/
  busy : v.result = some (.error (.connection .invalidState)) ↔
    v.dial.asked = false ∧ v.moment.before.session.status ≠ .disconnected
  /-- An attempt that has failed leaves no session, and none was announced. -/
  failed : ∀ f, v.result = some (.error f) → f ≠ .connection .invalidState →
    v.moment.after.session.status = .disconnected ∧ v.announced = []

/-! ### Gathering -/

/-- What a call that opens a session returns, if it does. -/
def Connecting.result? : Progress (Except Fault UInt8) Connecting → Option (Except Fault UInt8)
  | .done result => some result
  | .waiting _ => none

namespace Dials

/-- Nothing has happened. -/
def empty : Dials := ⟨none, true, none, []⟩

/-- A call that opens a session has its turn: it has begun before, or begins. -/
def probe (D : Dials) (number : Nat) (stage : Connecting) (m : Moment) : Probe :=
  ⟨D.current.getD (.begun number m.before), Connecting.result? (stage.poll m.before).1, m⟩

/-- A call that opens or closes a session has its turn. -/
def turn (D : Dials) (k : PendingCall) (m : Moment) : Dials :=
  let waits := (k.call.poll m.before).1.rest?.isSome
  let live := if waits then some k.number else none
  let orderly := D.orderly && D.live.all fun number => number = k.number
  match k.call with
  | .connect stage =>
    let v := D.probe k.number stage m
    ⟨live, orderly, if waits then some { v.dial.note m with asked := true } else none,
      D.probes ++ [v]⟩
  | _ => { D with live := live, orderly := orderly }

/-- Somebody else has a turn, of which the attempt that goes on takes note. -/
def others (D : Dials) (m : Moment) : Dials := { D with current := D.current.map fun d => d.note m }

/-- **What is known after another moment.** -/
def note (D : Dials) (m : Moment) : Dials :=
  match m.deed with
  | .call k => if k.call.isLifecycle then D.turn k m else D.others m
  | .cancel k => { D.others m with orderly := D.orderly && decide (D.live ≠ some k.number) }
  | _ => D.others m

/-- **What is known after a history.** -/
def of (ms : List Moment) : Dials := ms.foldl note empty

end Dials

/-! ### How an attempt stands -/

namespace Dial

/-- **How an attempt stands** between two turns of its call: the status of the session, what the
history tells, and the word that waits for the call agree. -/
inductive Stands (d : Dial) (c : Client) : Prop
  | pending (hs : c.session.status = .connecting) (hc : c.connectDone = none)
      (ha : d.answers = []) (hf : d.failures = []) (hn : d.announced = [])
  /-- The session was granted. It may have ended since. -/
  | granted (b : ConnectResponse) (hz : b.status = 0) (hs : c.session.status ≠ .connecting)
      (hc : c.connectDone = some (.ok b.channel)) (ha : d.answers = [b])
      (hn : d.announced = [b.channel])
  | refused (b : ConnectResponse) (hz : b.status ≠ 0) (hs : c.session.status = .disconnected)
      (hc : c.connectDone = some (.error (.connection (.rejected b.status))))
      (ha : d.answers = [b]) (hn : d.announced = [])
  | lost (hs : c.session.status = .disconnected)
      (hc : c.connectDone = some (.error Client.lost)) (ha : d.answers = [])
      (hf : d.failures ≠ []) (hn : d.announced = [])

variable {config : Config} {d : Dial} {c c' : Client} {m : Moment}

/-- **Others decide the attempt**, or leave it as it is; once it is decided, it stays so. -/
theorem Stands.meanwhile (h : d.Stands m.before) (hm : m.Meanwhile) :
    (d.note m).Stands m.after := by
  cases h with
  | pending hs hc ha hf hn =>
    cases hm with
    | aside hm hn' hs' =>
      obtain ⟨hstatus, hanswer, hfailure⟩ := hs' hs
      refine .pending hstatus ((hm.connectDone_eq fun _ => hstatus).trans hc) ?_ ?_ ?_
      · simp [note, ha, hanswer]
      · simp [note, hf, hfailure]
      · simp [note, hn, hn']
    | fails f hb hf' ha' hn' hs' hc' =>
      exact .lost hs' hc' (by simp [note, ha, ha']) (by simp [note, hf']) (by simp [note, hn, hn'])
    | grants b hz ha' hn' hs' hc' =>
      exact .granted b hz (by simp [hs']) hc' (by simp [note, ha, ha']) (by simp [note, hn, hn'])
    | refuses b hz ha' hn' hs' hc' =>
      exact .refused b hz hs' hc' (by simp [note, ha, ha']) (by simp [note, hn, hn'])
  | granted b hz hs hc ha hn =>
    obtain ⟨hb, hn', ha'⟩ := hm.of_not_connecting hs
    exact .granted b hz (fun hs' => hs (hb.connecting hs').1) ((hb.answered hs).trans hc)
      (by simp [note, ha, ha']) (by simp [note, hn, hn'])
  | refused b hz hs hc ha hn =>
    obtain ⟨hb, hn', ha'⟩ := hm.of_not_connecting (by simp [hs])
    exact .refused b hz (hb.disconnected hs) ((hb.answered (by simp [hs])).trans hc)
      (by simp [note, ha, ha']) (by simp [note, hn, hn'])
  | lost hs hc ha hf hn =>
    obtain ⟨hb, hn', ha'⟩ := hm.of_not_connecting (by simp [hs])
    exact .lost (hb.disconnected hs) ((hb.answered (by simp [hs])).trans hc)
      (by simp [note, ha, ha']) (by simp [note, hf]) (by simp [note, hn, hn'])

end Dial

/-! ### The turns of the call -/

namespace Connecting

variable {c c' : Client}

/-- **How a call that opens a session begins.** -/
inductive Opening (c : Client) : Progress (Except Fault UInt8) Connecting → Client → Prop
  /-- There is a session, or one is being opened or closed. -/
  | busy (hs : c.session.status ≠ .disconnected) :
      Opening c (.done (.error (.connection .invalidState))) c
  /-- The socket does not send. -/
  | fails (cause : TransportFault) {c' : Client} (hs : c.session.status = .disconnected)
      (hs' : c'.session.status = .disconnected) :
      Opening c (.done (.error (.transport cause))) c'
  /-- The gateway is asked. -/
  | asks {c' : Client} (hs : c.session.status = .disconnected)
      (hs' : c'.session.status = .connecting) (hc : c'.connectDone = none) :
      Opening c (.waiting (.awaiting (c.now + c.config.connectTimeout))) c'

/-- It begins in no other way. -/
theorem opening_poll (c : Client) : Opening c (start.poll c).1 (start.poll c).2 := by
  unfold poll begin
  by_cases hs : c.session.status = .disconnected
  · simp only [Session.connectRequest, hs, if_true]
    generalize hb : Client.publish _ _ = b
    have hstatus : b.session.status = .connecting := by
      subst hb
      rfl
    simp only [Client.transmitFrame]
    generalize hd : Datagram.mk _ _ = d
    unfold Client.transmit
    cases hf : b.socket.sendFault? with
    | some f =>
      obtain ⟨cause, rfl⟩ := Socket.exists_of_sendFault? hf
      exact .fails cause hs (by simp [Client.transportFailed, hstatus, Session.closed])
    | none =>
      subst hb
      exact .asks hs rfl rfl
  · simp only [Session.connectRequest, hs, if_false]
    exact .busy hs

end Connecting

namespace Dial

variable {config : Config} {d : Dial} {c c' : Client}
  {p : Progress (Except Fault UInt8) Connecting}

/-- In its own turns a call only takes note of what is announced in it, which is nothing. -/
theorem note_call (d : Dial) (k : PendingCall) (h : c.Moves c') : d.note ⟨.call k, c, c'⟩ = d := by
  have hn := Moment.announced_eq_nil (m := ⟨.call k, c, c'⟩) h.unheralded
  have ha := Moment.answer?_eq_none (m := ⟨.call k, c, c'⟩) (by simp)
  have hf := Moment.failure?_eq_none (m := ⟨.call k, c, c'⟩) (by simp)
  simp [note, hn, ha, hf]

/-- **The first probe** is fair. -/
theorem isFair_opening (k : PendingCall) (h : Connecting.Opening c p c') (hm : c.Moves c') :
    Probe.IsFair c.config
      ⟨begun k.number c, Connecting.result? p, ⟨.call k, c, c'⟩⟩ := by
  have hannounced : Probe.announced
      ⟨begun k.number c, Connecting.result? p, ⟨.call k, c, c'⟩⟩ = [] :=
    congrArg announced (note_call (begun k.number c) k hm)
  have hnone (channel : UInt8) : channel ∉ Probe.announced
      ⟨begun k.number c, Connecting.result? p, ⟨.call k, c, c'⟩⟩ := by
    rw [hannounced]
    exact List.not_mem_nil
  have hexpired : ¬ (begun k.number c).IsExpired c.config c.now := fun h => by cases h.asked
  cases h with
  | busy hs =>
    refine ⟨fun channel => ?_, fun status => ?_, ?_, ?_, ?_, fun f hf hne => ?_⟩
    · simpa [Connecting.result?] using hnone channel
    · simp [Connecting.result?, begun]
    · simpa [Connecting.result?] using hexpired
    · simp [Connecting.result?, begun, Client.lost]
    · simp [Connecting.result?, begun, hs]
    · simp [Connecting.result?] at hf
      exact absurd hf.symm hne
  | fails cause hs hs' =>
    refine ⟨fun channel => ?_, fun status => ?_, ?_, ?_, ?_, fun f hf hne => ⟨hs', hannounced⟩⟩
    · simpa [Connecting.result?] using hnone channel
    · simp [Connecting.result?, begun]
    · simpa [Connecting.result?] using hexpired
    · simp [Connecting.result?, begun, Client.lost]
    · simp [Connecting.result?, hs]
  | asks hs hs' hc =>
    refine ⟨fun channel => ?_, fun status => ?_, ?_, ?_, ?_, by rintro f ⟨⟩⟩
    · simpa [Connecting.result?] using hnone channel
    · simp [Connecting.result?, begun]
    · simpa [Connecting.result?] using hexpired
    · simp [Connecting.result?, begun]
    · simp [Connecting.result?, hs]

/-- **What a later turn makes of an attempt.** -/
inductive Turned (config : Config) (d : Dial) (c : Client) :
    Progress (Except Fault UInt8) Connecting → Client → Prop
  | waits (hx : ¬ d.IsExpired config c.now) (ha : d.answers = []) (hf : d.failures = [])
      (hn : d.announced = []) (hst : d.Stands c) :
      Turned config d c (.waiting (.awaiting (d.deadline config))) c
  | expired {c' : Client} (hx : d.IsExpired config c.now) (hn : d.announced = [])
      (hs : c'.session.status = .disconnected) :
      Turned config d c (.done (.error (.timeout .connect))) c'
  | granted (b : ConnectResponse) {c' : Client} (hz : b.status = 0) (ha : d.answers = [b])
      (hn : d.announced = [b.channel]) : Turned config d c (.done (.ok b.channel)) c'
  | refused (b : ConnectResponse) {c' : Client} (hz : b.status ≠ 0) (ha : d.answers = [b])
      (hn : d.announced = []) (hs : c'.session.status = .disconnected) :
      Turned config d c (.done (.error (.connection (.rejected b.status)))) c'
  | lost {c' : Client} (ha : d.answers = []) (hf : d.failures ≠ []) (hn : d.announced = [])
      (hs : c'.session.status = .disconnected) :
      Turned config d c (.done (.error Client.lost)) c'

/-- A later turn makes nothing else of it. -/
theorem Stands.turned (h : d.Stands c) (hd : d.asked = true) :
    d.Turned config c ((Connecting.awaiting (d.deadline config)).poll c).1
      ((Connecting.awaiting (d.deadline config)).poll c).2 := by
  unfold Connecting.poll
  simp only
  cases h with
  | pending hs hc ha hf hn =>
    simp only [hc]
    by_cases ht : d.deadline config ≤ c.now
    · -- The session is still being opened, so that it ends here.
      rw [if_pos ht]
      simp only [Connecting.expired, Session.connectExpired, hs, Session.openChannel?,
        Status.isConnected, if_true]
      exact .expired ⟨hd, ht, ha, hf⟩ hn rfl
    · rw [if_neg ht]
      exact .waits (fun hx => ht hx.waited) ha hf hn (.pending hs hc ha hf hn)
  | granted b hz hs hc ha hn =>
    simp only [hc]
    exact .granted b hz ha hn
  | refused b hz hs hc ha hn =>
    simp only [hc]
    exact .refused b hz ha hn hs
  | lost hs hc ha hf hn =>
    simp only [hc]
    exact .lost ha hf hn hs

theorem not_isExpired_of_answers {b : ConnectResponse} (ha : d.answers = [b]) (now : Nat) :
    ¬ d.IsExpired config now := fun hx => by cases hx.answers.symm.trans ha

/-- **A later probe** is fair. -/
theorem Turned.isFair (h : d.Turned config c p c') (hd : d.asked = true) (k : PendingCall)
    (hm : c.Moves c') : Probe.IsFair config ⟨d, Connecting.result? p, ⟨.call k, c, c'⟩⟩ := by
  have hannounced : Probe.announced ⟨d, Connecting.result? p, ⟨.call k, c, c'⟩⟩ = d.announced :=
    congrArg announced (d.note_call k hm)
  have hnone (hn : d.announced = []) (channel : UInt8) :
      channel ∉ Probe.announced ⟨d, Connecting.result? p, ⟨.call k, c, c'⟩⟩ := by
    rw [hannounced, hn]
    exact List.not_mem_nil
  cases h with
  | waits hx ha hf hn =>
    refine ⟨fun channel => ?_, fun status => ?_, ?_, ?_, ?_, by rintro f ⟨⟩⟩
    · simpa [Connecting.result?] using hnone hn channel
    · simp [Connecting.result?, ha]
    · simpa [Connecting.result?] using hx
    · simp [Connecting.result?, hf]
    · simp [Connecting.result?, hd]
  | expired hx hn hs =>
    refine ⟨fun channel => ?_, fun status => ?_, ?_, ?_, ?_, fun f hf hne => ⟨hs, ?_⟩⟩
    · simpa [Connecting.result?] using hnone hn channel
    · simp [Connecting.result?, hx.answers]
    · simpa [Connecting.result?] using hx
    · simp [Connecting.result?, hx.failures, Client.lost]
    · simp [Connecting.result?, hd]
    · exact hannounced.trans hn
  | granted b hz ha hn =>
    refine ⟨fun channel => ?_, fun status => ?_, ?_, ?_, ?_, by rintro f ⟨⟩⟩
    · rw [hannounced, hn]
      simp [Connecting.result?, eq_comm]
    · simpa [Connecting.result?, ha, hz] using fun hstatus hb => hstatus hb.symm
    · simpa [Connecting.result?] using not_isExpired_of_answers ha c.now
    · simp [Connecting.result?, ha]
    · simp [Connecting.result?, hd]
  | refused b hz ha hn hs =>
    refine ⟨fun channel => ?_, fun status => ?_, ?_, ?_, ?_, fun f hf hne => ⟨hs, ?_⟩⟩
    · simpa [Connecting.result?] using hnone hn channel
    · simp only [Connecting.result?, ha, List.mem_singleton, exists_eq_left, Option.some.injEq,
        Except.error.injEq, Fault.connection.injEq, ConnectionFault.rejected.injEq]
      exact ⟨fun h => ⟨h ▸ hz, h⟩, And.right⟩
    · simpa [Connecting.result?] using not_isExpired_of_answers ha c.now
    · simp [Connecting.result?, ha, Client.lost]
    · simp [Connecting.result?, hd]
    · exact hannounced.trans hn
  | lost ha hf hn hs =>
    refine ⟨fun channel => ?_, fun status => ?_, ?_, ?_, ?_, fun f _ hne => ⟨hs, ?_⟩⟩
    · simpa [Connecting.result?] using hnone hn channel
    · simp [Connecting.result?, ha, Client.lost]
    · have hx : ¬ d.IsExpired config c.now := fun hx => hf hx.failures
      simpa [Connecting.result?, Client.lost] using hx
    · simp [Connecting.result?, ha, hf]
    · simp [Connecting.result?, hd, Client.lost]
    · exact hannounced.trans hn

end Dial

/-! ### Calls that wait for the gateway's answer -/

/-- Until when a call that opens a session waits for the answer, if it does. -/
def Call.dials? : Call → Option Nat
  | .connect (.awaiting deadline) => some deadline
  | _ => none

/-- A call that opens no session does not come to it. -/
theorem Call.dials?_of_rest? {k k' : Call} {c : Client} (h : ∀ stage, k ≠ .connect stage)
    (hr : (k.poll c).1.rest? = some k') : k'.dials? = none := by
  cases k with
  | connect stage => exact absurd rfl (h stage)
  | refused f => cases hr
  | _ =>
    simp only [poll, Prod.map, Progress.rest?_map] at hr
    obtain ⟨stage, -, rfl⟩ := Option.map_eq_some_iff.mp hr
    rfl

/-- The same, with the number of the call. -/
def PendingCall.dials? (k : PendingCall) : Option (Nat × Nat) :=
  k.call.dials?.map fun deadline => (k.number, deadline)

namespace PendingCall

variable {k : PendingCall} {c : Client}

theorem dials?_of_fresh (h : k.call.Fresh) : k.dials? = none := by
  obtain ⟨number, device, call⟩ := k
  cases h <;> rfl

theorem dials?_eq_none (h : ∀ stage, k.call ≠ .connect stage) : k.dials? = none := by
  obtain ⟨number, device, call⟩ := k
  cases call with
  | connect stage => exact absurd rfl (h stage)
  | _ => rfl

theorem filterMap_dials?_rest (h : ∀ stage, k.call ≠ .connect stage) :
    (k.rest c).filterMap dials? = [] := by
  cases hr : (k.call.poll c).1.rest? with
  | none => simp [rest, hr]
  | some call => simp [rest, hr, dials?, Call.dials?_of_rest? h hr]

/-- What is left of a call that opens a session. -/
theorem filterMap_dials?_rest_connect {number : Nat} {device : Option Nat} {stage : Connecting} :
    (rest ⟨number, device, .connect stage⟩ c).filterMap dials? =
      ((stage.poll c).1.rest?.bind fun stage =>
        (Call.connect stage).dials?.map fun deadline => (number, deadline)).toList := by
  have hr : (Call.poll (.connect stage) c).1.rest? = (stage.poll c).1.rest?.map .connect := by
    simp [Call.poll]
  cases hs : (stage.poll c).1.rest? with
  | none => simp [rest, hr, hs]
  | some stage' =>
    cases hd : (Call.connect stage').dials? <;> simp [rest, hr, hs, dials?, hd]

end PendingCall

/-! ### Every turn -/

namespace Dials

/-- **What is known agrees with the stage**: who waits for an answer is the call of the attempt that
goes on. -/
inductive Tracks (config : Config) (D : Dials) (S : Stage) : Prop
  | idle (hd : D.current = none) (hcalls : S.calls.filterMap PendingCall.dials? = [])
  | dialling (d : Dial) (hd : D.current = some d) (hl : D.live = some d.number)
      (ha : d.asked = true) (hst : d.Stands S.client)
      (hcalls : S.calls.filterMap PendingCall.dials? = [(d.number, d.deadline config)])

/-- **What is known is as it should be**: of every delivery, and, as long as calls that open or
close sessions come one after the other, of every attempt to open one. -/
structure Kept (config : Config) (D : Dials) (S : Stage) : Prop where
  deliveries : ∃ E, Deliveries.Kept config E S
  nodup : (S.calls.map PendingCall.number).Nodup
  tracks : D.orderly = true → D.Tracks config S
  probes : D.orderly = true → ∀ v ∈ D.probes, v.IsFair config

variable {config : Config} {D : Dials} {S S' : Stage} {m : Moment} {c : Client}
  {s : Option Sender} {pre post : List PendingCall} {k : PendingCall} {stage : Connecting}

/-- **A turn of others** leaves those who wait for an answer, and the attempt stands as it has
to. -/
theorem Tracks.others (h : D.Tracks config S) (hm : m.Meanwhile) (hb : m.before = S.client)
    (ha : m.after = S'.client)
    (hcalls : S'.calls.filterMap PendingCall.dials? = S.calls.filterMap PendingCall.dials?)
    (orderly : Bool) : ({ D.others m with orderly := orderly } : Dials).Tracks config S' := by
  cases h with
  | idle hd hc => exact .idle (by simp [Dials.others, hd]) (hcalls.trans hc)
  | dialling d hd hl hasked hst hc =>
    rw [← hb] at hst
    exact .dialling (d.note m) (by simp [Dials.others, hd]) hl hasked (ha ▸ hst.meanwhile hm)
      (hcalls.trans hc)

/-- A call that opens or closes a session has its turn, and there is no other: either it waits for
the answer itself, or nobody does. -/
theorem Tracks.own (h : D.Tracks config ⟨c, s, pre ++ k :: post⟩)
    (hn : ((pre ++ k :: post).map PendingCall.number).Nodup)
    (ho : (D.live.all fun number => number = k.number) = true) :
    (pre ++ post).filterMap PendingCall.dials? = [] ∧
      (k.dials? = none ∧ D.current = none ∨
        ∃ d, k.dials? = some (k.number, d.deadline config) ∧ D.current = some d ∧
          d.number = k.number ∧ d.asked = true ∧ d.Stands c) := by
  cases h with
  | idle hd hcalls =>
    simp only [List.filterMap_append, List.filterMap_cons] at hcalls ⊢
    cases hk : k.dials? with
    | none => exact ⟨by simpa [hk] using hcalls, Or.inl ⟨rfl, hd⟩⟩
    | some x => simp [hk] at hcalls
  | dialling d hd hl ha hst hcalls =>
    simp only [List.filterMap_append, List.filterMap_cons] at hcalls ⊢
    have hnumber : d.number = k.number := by simpa [hl] using ho
    cases hk : k.dials? with
    | none =>
      -- Somebody else waits, but his number would be the same.
      have hmem : (d.number, d.deadline config) ∈ (pre ++ post).filterMap PendingCall.dials? := by
        simp only [hk] at hcalls
        rw [List.filterMap_append, hcalls]
        exact List.mem_singleton_self _
      obtain ⟨k', hk', hdials⟩ := List.mem_filterMap.mp hmem
      obtain ⟨deadline, -, heq⟩ := Option.map_eq_some_iff.mp hdials
      have hsame : k'.number = k.number := (Prod.mk.inj heq).1.trans hnumber
      rw [List.map_append, List.map_cons, List.nodup_middle, ← List.map_append] at hn
      exact absurd (List.mem_map.mpr ⟨k', hk', hsame⟩) (List.nodup_cons.mp hn).1
    | some x =>
      simp only [hk, List.append_eq_singleton_iff, List.cons_eq_cons] at hcalls
      obtain ⟨hpre, rfl, hpost⟩ | ⟨-, hnil⟩ := hcalls
      · exact ⟨by rw [hpre, hpost]; rfl, Or.inr ⟨d, by rw [hnumber], hd, hnumber, ha, hst⟩⟩
      · cases hnil

/-- **After its turn** a call that opens a session waits as long as its attempt goes on. -/
theorem tracks_turn_connect {d : Dial} (hk : k.call = .connect stage)
    (hothers : (pre ++ post).filterMap PendingCall.dials? = [])
    (hd : D.current.getD (.begun k.number c) = d) (hnumber : d.number = k.number)
    (hwaits : ∀ rest, (stage.poll c).1 = .waiting rest → rest = .awaiting (d.deadline config) ∧
      ({ d with asked := true } : Dial).Stands (stage.poll c).2) :
    (D.turn k ⟨.call k, c, (k.call.poll c).2⟩).Tracks config
      ⟨(k.call.poll c).2, s, pre ++ (k.rest c ++ post)⟩ := by
  obtain ⟨number, device, call⟩ := k
  cases hk
  have hcalls : (pre ++ (PendingCall.rest ⟨number, device, .connect stage⟩ c ++ post)).filterMap
      PendingCall.dials? = ((stage.poll c).1.rest?.bind fun stage =>
        (Call.connect stage).dials?.map fun deadline => (number, deadline)).toList := by
    rw [List.filterMap_append, List.append_eq_nil_iff] at hothers
    rw [List.filterMap_append, List.filterMap_append, hothers.1, hothers.2, List.nil_append,
      List.append_nil, PendingCall.filterMap_dials?_rest_connect]
  cases hp : (stage.poll c).1 with
  | done result => exact .idle (by simp [turn, Call.poll, hp]) (by simpa [hp] using hcalls)
  | waiting rest =>
    obtain ⟨rfl, hstands⟩ := hwaits rest hp
    have hnote : d.note ⟨.call ⟨number, device, .connect stage⟩, c, (stage.poll c).2⟩ = d :=
      d.note_call _ (stage.moves_poll c)
    refine .dialling { d with asked := true } ?_ ?_ rfl hstands (hcalls.trans ?_)
    · simp [turn, Call.poll, hp, probe, hd, hnote]
    · simp [turn, Call.poll, hp, hnumber]
    · simp [hp, Call.dials?, hnumber, Dial.deadline]

theorem orderly_turn (D : Dials) (k : PendingCall) (m : Moment) :
    (D.turn k m).orderly = (D.orderly && D.live.all fun number => number = k.number) := by
  unfold turn
  split <;> rfl

/-- A turn of a call that opens a session adds its probe. -/
theorem probes_turn_connect (hk : k.call = .connect stage) (m : Moment) :
    (D.turn k m).probes = D.probes ++ [D.probe k.number stage m] := by
  simp [turn, hk]

/-- A turn of a call that closes a session is not about an attempt. -/
theorem turn_of_not_connect (h : ∀ stage, k.call ≠ .connect stage) (m : Moment) :
    D.turn k m =
      { D with
        live := if (k.call.poll m.before).1.rest?.isSome then some k.number else none
        orderly := D.orderly && D.live.all fun number => number = k.number } := by
  unfold turn
  split
  · rename_i stage hs
    exact absurd hs (h stage)
  · rfl

/-- **The turn of a call that opens a session** is a fair probe. -/
theorem Kept.turn_connect (h : Kept config D ⟨c, s, pre ++ k :: post⟩)
    (hk : k.call = .connect stage)
    (ho : (D.turn k ⟨.call k, c, (k.call.poll c).2⟩).orderly = true) :
    (D.turn k ⟨.call k, c, (k.call.poll c).2⟩).Tracks config
        ⟨(k.call.poll c).2, s, pre ++ (k.rest c ++ post)⟩ ∧
      (D.probe k.number stage ⟨.call k, c, (k.call.poll c).2⟩).IsFair config := by
  obtain ⟨E, hE⟩ := h.deliveries
  have hconfig : c.config = config := hE.wired.disciplined.config_eq
  subst hconfig
  rw [orderly_turn, Bool.and_eq_true] at ho
  obtain ⟨hothers, hown⟩ := (h.tracks ho.1).own h.nodup ho.2
  have hclient : (k.call.poll c).2 = (stage.poll c).2 := by
    rw [hk]
    rfl
  have hmoves := stage.moves_poll c
  cases stage with
  | start =>
    have hcurrent : D.current = none := by
      rcases hown with ⟨-, hd⟩ | ⟨d, hdials, -⟩
      · exact hd
      · simp [PendingCall.dials?, hk, Call.dials?] at hdials
    have hopening := Connecting.opening_poll c
    have hd : D.current.getD (.begun k.number c) = .begun k.number c := by
      rw [hcurrent, Option.getD_none]
    refine ⟨tracks_turn_connect hk hothers hd rfl fun rest hrest => ?_, ?_⟩
    · rw [hrest] at hopening
      generalize (Connecting.start.poll c).2 = c' at hopening ⊢
      cases hopening with
      | asks hs hs' hc => exact ⟨rfl, .pending hs' hc rfl rfl rfl⟩
    · rw [probe, hclient, hcurrent]
      exact Dial.isFair_opening k hopening hmoves
  | awaiting deadline =>
    have hdials : k.dials? = some (k.number, deadline) := by
      simp [PendingCall.dials?, hk, Call.dials?]
    rcases hown with ⟨hnone, -⟩ | ⟨d, hsome, hd, hnumber, ha, hst⟩
    · cases hdials.symm.trans hnone
    · obtain rfl : deadline = d.deadline c.config := by simpa [hdials] using hsome
      have hturned : d.Turned c.config c _ _ := hst.turned ha
      have hd' : D.current.getD (.begun k.number c) = d := by rw [hd, Option.getD_some]
      refine ⟨tracks_turn_connect hk hothers hd' hnumber fun rest hrest => ?_, ?_⟩
      · rw [hrest] at hturned
        generalize ((Connecting.awaiting (d.deadline c.config)).poll c).2 = c' at hturned ⊢
        have hsame : ({ d with asked := true } : Dial) = d := by rw [← ha]
        cases hturned with
        | waits hx hans hf hn hst => exact ⟨rfl, hsame.symm ▸ hst⟩
      · rw [probe, hclient, hd]
        exact hturned.isFair ha k hmoves

/-- **A turn of a call that opens or closes a session**, if it is the only one. -/
theorem Kept.turn_lifecycle (h : Kept config D ⟨c, s, pre ++ k :: post⟩)
    (ho : (D.turn k ⟨.call k, c, (k.call.poll c).2⟩).orderly = true) :
    (D.turn k ⟨.call k, c, (k.call.poll c).2⟩).Tracks config
        ⟨(k.call.poll c).2, s, pre ++ (k.rest c ++ post)⟩ ∧
      ∀ v ∈ (D.turn k ⟨.call k, c, (k.call.poll c).2⟩).probes, v.IsFair config := by
  have hD := ho
  rw [orderly_turn, Bool.and_eq_true] at hD
  by_cases hconnect : ∃ stage, k.call = .connect stage
  · obtain ⟨stage, hconnect⟩ := hconnect
    obtain ⟨htracks, hfair⟩ := h.turn_connect hconnect ho
    refine ⟨htracks, ?_⟩
    rw [probes_turn_connect hconnect]
    intro v hv
    rcases List.mem_append.mp hv with hv | hv
    · exact h.probes hD.1 v hv
    · rwa [List.mem_singleton.mp hv]
  · have hnot : ∀ stage, k.call ≠ .connect stage := fun stage hs => hconnect ⟨stage, hs⟩
    obtain ⟨hothers, hown⟩ := (h.tracks hD.1).own h.nodup hD.2
    have hcurrent : D.current = none := by
      rcases hown with ⟨-, hd⟩ | ⟨d, hdials, -⟩
      · exact hd
      · cases (PendingCall.dials?_eq_none hnot).symm.trans hdials
    have hturn := turn_of_not_connect (D := D) hnot ⟨.call k, c, (k.call.poll c).2⟩
    rw [hturn]
    refine ⟨.idle hcurrent ?_, h.probes hD.1⟩
    rw [List.filterMap_append, List.append_eq_nil_iff] at hothers
    simp only [List.filterMap_append, hothers.1, hothers.2,
      PendingCall.filterMap_dials?_rest hnot, List.nil_append]

/-- Only the live call waits for an answer. -/
theorem Tracks.live_eq (h : D.Tracks config S) {k : PendingCall} (hk : k ∈ S.calls)
    (hd : k.dials? ≠ none) : D.live = some k.number := by
  obtain ⟨x, hx⟩ := Option.ne_none_iff_exists'.mp hd
  have hmem : x ∈ S.calls.filterMap PendingCall.dials? := List.mem_filterMap.mpr ⟨k, hk, hx⟩
  obtain ⟨deadline, -, rfl⟩ := Option.map_eq_some_iff.mp hx
  cases h with
  | idle hcurrent hcalls =>
    rw [hcalls] at hmem
    cases hmem
  | dialling d hcurrent hl ha hst hcalls =>
    rw [hcalls, List.mem_singleton] at hmem
    rw [hl, (Prod.mk.inj hmem).1]

/-- Who waits for an answer does so after a turn of others, unless he is stopped. -/
theorem filterMap_dials?_turn (t : Turn S m S')
    (hcall : ∀ k, m.deed = .call k → k.call.isLifecycle = false)
    (hcancel : ∀ k, m.deed = .cancel k → k.dials? = none) :
    S'.calls.filterMap PendingCall.dials? = S.calls.filterMap PendingCall.dials? := by
  cases t with
  | begin c s ks k hn hk hq hf =>
    simp [PendingCall.dials?_of_fresh hf]
  | call c s pre k post =>
    have hnot : ∀ stage, k.call ≠ .connect stage := fun stage hs => by
      have := hcall k rfl
      rw [hs] at this
      cases this
    simp only [List.filterMap_append, List.filterMap_cons, PendingCall.dials?_eq_none hnot,
      PendingCall.filterMap_dials?_rest hnot, List.nil_append]
  | cancel c s pre k post => simp [hcancel k rfl]
  | _ => rfl

/-- **A turn** keeps what is known as it should be. -/
theorem Kept.note (h : Kept config D S) (t : Turn S m S') : Kept config (D.note m) S' := by
  have hdeliveries : ∃ E, Deliveries.Kept config E S' := by
    obtain ⟨E, hE⟩ := h.deliveries
    exact ⟨_, hE.turn t⟩
  have hothers (hcall : ∀ k, m.deed = .call k → k.call.isLifecycle = false)
      (hcancel : ∀ k, m.deed = .cancel k → k.dials? = none) (hD : D.orderly = true)
      (orderly : Bool) : ({ D.others m with orderly := orderly } : Dials).Tracks config S' := by
    obtain ⟨hb, ha, hm⟩ := t.meanwhile h.deliveries hcall
    exact (h.tracks hD).others hm hb ha (filterMap_dials?_turn t hcall hcancel) orderly
  have hboth : (D.note m).orderly = true →
      (D.note m).Tracks config S' ∧ ∀ v ∈ (D.note m).probes, v.IsFair config := by
    cases t with
    | call c s pre k post =>
      intro ho
      by_cases hk : k.call.isLifecycle = true
      · have hnote : D.note ⟨.call k, c, (k.call.poll c).2⟩ =
            D.turn k ⟨.call k, c, (k.call.poll c).2⟩ := by simp [note, hk]
        rw [hnote] at ho ⊢
        exact h.turn_lifecycle ho
      · have hnote : D.note ⟨.call k, c, (k.call.poll c).2⟩ =
            D.others ⟨.call k, c, (k.call.poll c).2⟩ := by simp [note, hk]
        rw [hnote] at ho ⊢
        refine ⟨hothers (fun k' hk' => ?_) (by simp) ho _, h.probes ho⟩
        obtain rfl := Deed.call.inj hk'
        exact Bool.eq_false_iff.mpr hk
    | cancel c s pre k post =>
      intro ho
      obtain ⟨hD, hlive⟩ : D.orderly = true ∧ D.live ≠ some k.number := by simpa [note] using ho
      refine ⟨hothers (by simp) (fun k' hk' => ?_) hD _, h.probes hD⟩
      obtain rfl := Deed.cancel.inj hk'
      by_contra hdials
      exact hlive ((h.tracks hD).live_eq (by simp) hdials)
    | _ => exact fun ho => ⟨hothers (by simp) (by simp) ho _, h.probes ho⟩
  exact ⟨hdeliveries, t.nodup h.nodup, fun ho => (hboth ho).1, fun ho => (hboth ho).2⟩

theorem kept_fresh (config : Config) : Kept config empty (Host.fresh config).stage where
  deliveries := ⟨_, Deliveries.kept_fresh config⟩
  nodup := List.nodup_nil
  tracks := fun _ => .idle rfl rfl
  probes := by rintro - v ⟨⟩

theorem kept_run (config : Config) (actions : List Action) :
    Kept config (of ((Host.fresh config).history actions))
      ((Host.fresh config).run actions).stage :=
  fold_induction config (kept_fresh config) (fun t h => h.note t) actions

/-! ### Every run -/

/-- **After every run** in which calls that open or close sessions come one after the other, each
attempt to open one has ended as it had to; and in every run, connect responses that come at
another time have changed nothing. -/
theorem dials_run (config : Config) (actions : List Action) :
    let history := (Host.fresh config).history actions
    ((of history).orderly = true → ∀ v ∈ (of history).probes, v.IsFair config) ∧
      ∀ m ∈ history, ∀ b, m.connectResponse? = some b → m.before.session.status ≠ .connecting →
        m.after = { m.before with socket := m.after.socket } := by
  refine ⟨(kept_run config actions).probes, fun m hm b hb hs => ?_⟩
  obtain ⟨S, S', t⟩ := (turns_run (Host.fresh config) List.nodup_nil actions).exists_turn hm
  exact t.after_eq_of_connectResponse? hb hs

/-- The gateway grants a session, then another one, and ends the first, all before the call that
waits for the answer has its turn. -/
def answeredTwice (gateway : Endpoint) : List Action :=
  let granted (channel : UInt8) : Frame :=
    .connectResponse ⟨channel, 0, some (Hpai.ofEndpoint gateway), some (Crd.tunnel ⟨0x11FF⟩)⟩
  let ended : Frame := .disconnectRequest ⟨7, Hpai.ofEndpoint gateway⟩
  [.startDriver, .begin 0 .connect, .pollCall 0, .arrive ⟨(granted 7).octets, gateway⟩,
    .arrive ⟨(granted 8).octets, gateway⟩, .arrive ⟨ended.octets, gateway⟩, .pollDriver,
    .pollCall 0]

/-- The call returns the channel of the session that was announced, and the other one is passed
over. -/
theorem dials_answered_twice :
    let gateway : Endpoint := ⟨⟨192, 168, 1, 10⟩, 3671⟩
    let history := (Host.fresh (.ofGateway gateway)).history (answeredTwice gateway)
    (of history).orderly = true ∧
      (∃ v ∈ (of history).probes, v.result = some (.ok 7) ∧ 7 ∈ v.announced ∧
        v.IsFair (.ofGateway gateway)) ∧
      ∃ m ∈ history, (∃ b, m.connectResponse? = some b) ∧ m.before.session.status ≠ .connecting ∧
        m.after = { m.before with socket := m.after.socket } := by
  intro gateway history
  have horderly : (of history).orderly = true := by decide +kernel
  have hreturned : ∃ v ∈ (of history).probes, v.result = some (.ok 7) := by decide +kernel
  have hstray : ∃ m ∈ history, m.connectResponse?.isSome ∧
      m.before.session.status ≠ .connecting := by decide +kernel
  obtain ⟨hfair, hpassed⟩ := dials_run (.ofGateway gateway) (answeredTwice gateway)
  obtain ⟨v, hv, hresult⟩ := hreturned
  obtain ⟨m, hm, hsome, hs⟩ := hstray
  obtain ⟨b, hb⟩ := Option.isSome_iff_exists.mp hsome
  have hfair' := hfair horderly v hv
  exact ⟨horderly, ⟨v, hv, hresult, (hfair'.granted 7).mp hresult, hfair'⟩,
    m, hm, ⟨b, hb⟩, hs, hpassed m hm b hb hs⟩

end Dials

end KnxIp
