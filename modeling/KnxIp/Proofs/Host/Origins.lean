import KnxIp.Proofs.Client.Mailboxes
import KnxIp.Proofs.Host.Sessions

/-!
# Which session a request belongs to

A call that hands over a request looks once whether there is a session, when it begins. Then
it may have to wait for room in the queue, and while it waits the session may end, and the
next one may begin. So there are two moments that may count as the origin of a request
(`KnxIp.Origin`): when the call looked, and when the request entered the queue.

Whoever ends a session lets the queue go and leaves something in the mailbox of the sender, so
that no request is sent once a session has ended since it entered the queue. But of the calls
that wait for room nobody is told. Their requests enter the queue that has just been let go,
and are sent in the next session.

## Main statements

* `KnxIp.Origins.origins_run`: in every run, no session ends between the moment in which a
  request enters the queue and the moments in which it is sent; and it is sent in the session
  in which the call looked if and only if no session ended while the call waited for room.
* `KnxIp.Origins.exists_stale`: a run in which a request is sent in a later session than that
  in which the call looked.
-/

namespace KnxIp

open Client

/-! ### What the sender sends -/

/-- **A turn of the sender may send a copy**: it takes a request from the queue while there
is a session, or it awaits an acknowledgement and nothing is in the mailbox. -/
inductive Sender.Emits (s : Sender) (c : Client) : Prop
  | first (hjob : s.job? = none) (hr : s.isReady c = true) (hc : c.isConnected)
  | again (hu : s.isUnacked = true) (ha : c.ackDone = none)

namespace Sender

/-- In any other turn it sends nothing. -/
theorem hush_or_emits {s : Sender} {c : Client} {job : Job}
    {p : Progress (Except Fault Unit) Transfer × Client} (h : s.work? c = some (job, p)) :
    c.Hush (follow job p).2 ∨ s.Emits c := by
  obtain ⟨progress, c'⟩ := p
  rcases work?_cases h with ⟨t, rfl, ht⟩ | ⟨q, hjob, hr, -, ho⟩
  · cases ht with
    | wait => exact Or.inl (.refl _)
    | again copy attempt deadline ha _ => exact Or.inr (.again rfl ha)
    | confirm _ deadline hc => exact Or.inl hc.hush
    | ended _ result hb hc =>
      exact Or.inl ((hb.hush.trans hc.calm.toHush).trans (hush_finish job result c'))
  · have hpop : c.Hush { c with queue := q } := .of_keeps rfl (.refl _) rfl ⟨[], by simp, rfl⟩
    cases ho with
    | sent hc => exact Or.inr (.first hjob hr hc)
    | ended f hb hc =>
      exact Or.inl (((hpop.trans hb.hush).trans hc.calm.toHush).trans (hush_finish job _ c'))

/-- It does not begin to await an acknowledgement in any other turn. -/
theorem emits_of_isUnacked {s : Sender} {c b : Client} {job : Job} {t : Transfer}
    (h : s.work? c = some (job, .waiting t, b)) (ht : t.isUnacked = true)
    (hb : b.ackDone = none) : s.Emits c := by
  rcases work?_cases h with ⟨t', rfl, hturn⟩ | ⟨q, hjob, hr, -, ho⟩
  · cases hturn with
    | wait => exact .again ht hb
    | again copy attempt deadline ha _ => exact .again rfl ha
    | confirm _ deadline hc => cases ht
  · cases ho with
    | sent hc => exact .first hjob hr hc

end Sender

namespace Ledger

variable {config : Config} {L : Ledger} {c : Client} {s : Sender}

/-- It sends a copy only while there is a session. -/
theorem Wired.isConnected_of_emits (h : L.Wired config c (some s)) (hs : s.Emits c) :
    c.isConnected := by
  cases hs with
  | first hjob hr hc => exact hc
  | again hu ha =>
    obtain ⟨job, copy, attempt, deadline, rfl⟩ := Sender.exists_of_isUnacked hu
    exact ((h.underway job copy attempt deadline rfl).current ha).1

theorem Fits.ne_nil_of_mem_queued {queue : List Job} {job : Option Job} (h : L.Fits queue job)
    {t : Nat} (ht : t ∈ L.queued) : queue ≠ [] := by
  rintro rfl
  exact List.ne_nil_of_mem ht (List.length_eq_zero_iff.mp h.length_eq)

/-- If the queue stays or is let go, no ticket is given, and what is still in it was in it. -/
theorem Fits.requeue_of_drops {queue queue' : List Job} {job : Option Job}
    (h : L.Fits queue job) (caller : Option Nat) (hq : queue' = queue ∨ queue' = []) :
    (L.requeue queue' caller).entered = L.entered ∧
      ∀ t ∈ (L.requeue queue' caller).queued, t ∈ L.queued ∧ queue' ≠ [] := by
  rcases hq with rfl | rfl
  · rw [requeue_of_length h.length_eq.symm]
    exact ⟨rfl, fun t ht => ⟨ht, h.ne_nil_of_mem_queued ht⟩⟩
  · rw [Ledger.requeue_nil]
    exact ⟨rfl, by simp⟩

theorem mem_sent_emit {m : Host.Moment} {e : Emission} (he : e ∈ (L.emit m).sent) :
    e ∈ L.sent ∨ e.before = m.before ∧ L.inFlight = some e.ticket := by
  simp only [emit, List.mem_append] at he
  refine he.imp_right fun hnew => ?_
  split at hnew
  · rename_i t ht
    obtain ⟨d, -, rfl⟩ := List.mem_map.mp hnew
    exact ⟨rfl, ht⟩
  · cases hnew

/-- **What the sender sends in its turn** is what is then in flight. -/
theorem mem_sent_send {e : Emission}
    (he : e ∈ (L.note ⟨.send s, c, (s.poll c).2⟩).sent) :
    e ∈ L.sent ∨ e.before = c ∧ (L.takeFor s c).inFlight = some e.ticket ∧ s.Emits c := by
  have htake : (L.takeFor s c).sent = L.sent := by
    obtain ⟨queued, inFlight, begun, h⟩ := L.takeFor_eq s c
    rw [h]
  simp only [note] at he
  cases hw : s.work? c with
  | none =>
    obtain ⟨hc, -, -, -⟩ := Sender.poll_of_work?_eq_none hw
    rw [hw, hc] at he
    rw [(sameWire_emit (m := ⟨.send s, c, c⟩) (.refl c)).sent] at he
    exact Or.inl (htake ▸ he)
  | some r =>
    obtain ⟨job, p⟩ := r
    -- Whether the delivery has ended makes no difference to what was sent.
    replace he : e ∈ (((L.takeFor s c).requeue (s.poll c).2.queue.toList none).emit
        ⟨.send s, c, (s.poll c).2⟩).sent := by
      obtain ⟨result | t, b⟩ := p
      · rw [hw] at he
        rwa [(sameWire_conclude result).sent] at he
      · rwa [hw] at he
    rcases Sender.hush_or_emits hw with hhush | hs
    · rw [← Sender.poll_of_work? hw] at hhush
      rw [(sameWire_emit (m := ⟨.send s, c, (s.poll c).2⟩) hhush).sent] at he
      exact Or.inl (htake ▸ he)
    · exact (mem_sent_emit he).imp (fun hold => htake ▸ hold) fun hnew => ⟨hnew.1, hnew.2, hs⟩

/-- **The sender** gives no ticket, and what it leaves in the queue was in it. -/
theorem mem_queued_send (hfits : L.Fits c.queue.toList s.job?) :
    (L.note ⟨.send s, c, (s.poll c).2⟩).entered = L.entered ∧
      ∀ t ∈ (L.note ⟨.send s, c, (s.poll c).2⟩).queued,
        t ∈ L.queued ∧ (s.poll c).2.queue.toList ≠ [] := by
  simp only [note]
  cases hw : s.work? c with
  | none =>
    obtain ⟨hc, -, -, -⟩ := Sender.poll_of_work?_eq_none hw
    rw [hc, hfits.takeFor_of_work?_eq_none hw]
    exact hfits.requeue_of_drops none (Or.inl rfl)
  | some r =>
    obtain ⟨job, p⟩ := r
    obtain ⟨b, -, hfits', hdrops⟩ := hfits.work hw
    rw [Sender.poll_of_work? hw, Sender.queue_follow]
    obtain ⟨hentered, hqueued⟩ := hfits'.requeue_of_drops none hdrops.toList
    have htake : (L.takeFor s c).entered = L.entered ∧
        ∀ t ∈ (L.takeFor s c).queued, t ∈ L.queued := by
      unfold takeFor take
      split
      · split
        · rename_i hq
          exact ⟨rfl, fun t ht => by simp [hq, ht]⟩
        · exact ⟨rfl, fun _ => id⟩
      · exact ⟨rfl, fun _ => id⟩
    have hall : ((L.takeFor s c).requeue p.2.queue.toList none).entered = L.entered ∧
        ∀ t ∈ ((L.takeFor s c).requeue p.2.queue.toList none).queued,
          t ∈ L.queued ∧ p.2.queue.toList ≠ [] :=
      ⟨hentered.trans htake.1, fun t ht => ⟨htake.2 t (hqueued t ht).1, (hqueued t ht).2⟩⟩
    obtain ⟨result | t, b'⟩ := p
    · simp only [conclude]
      split <;> exact hall
    · exact hall

end Ledger

/-! ### Origins -/

/-- **Where a request comes from**: the client when the call looked whether there is a session,
and when the request entered the queue. -/
structure Origin where
  checked : Client
  entered : Client

/-- **What a history tells of where requests come from.** -/
structure Origins where
  ledger : Ledger
  /-- The origins of the requests that have entered the queue, in that order. -/
  origins : List Origin
  /-- The client when the call with a number last had a turn in which it did not wait for room
  in the queue. -/
  checked : Nat → Client

/-- **A request was sent in time**: no session has ended since it entered the queue, and the
session is the one in which the call looked if none ended while the call waited for room. -/
structure Emission.IsTimely (e : Emission) (o : Origin) : Prop where
  checked : o.checked.isConnected
  entered : o.entered.ends = e.before.ends
  session : o.checked.sessions = e.before.sessions ↔ o.checked.ends = o.entered.ends

namespace Origins

open Host

/-! ### Gathering -/

/-- Nothing has happened. -/
def empty (config : Config) : Origins := ⟨.empty, [], fun _ => .fresh config⟩

/-- A call has its turn. If it does not wait for room, it looks whether there is a session. -/
def check (O : Origins) (k : PendingCall) (c : Client) : Nat → Client :=
  if k.call.isQueueing then O.checked else Function.update O.checked k.number c

/-- **What is known after another moment.** -/
def note (O : Origins) (m : Moment) : Origins :=
  let L := O.ledger.note m
  match m.deed with
  | .call k =>
    { ledger := L
      origins := O.origins ++ (L.entered.drop O.ledger.entered.length).map fun _ =>
        ⟨O.check k m.before k.number, m.before⟩
      checked := O.check k m.before }
  | _ => { O with ledger := L }

/-- **What is known after a history.** -/
def of (config : Config) (ms : List Moment) : Origins := ms.foldl note (empty config)

variable {O O' : Origins} {c c' : Client} {S S' : Stage} {m : Moment} {t : Nat}

/-- A request that may be sent: its call looked when there was a session, and none has ended
since the request entered the queue. -/
def MaySend (O : Origins) (c : Client) (t : Nat) : Prop :=
  ∃ o, O.origins[t]? = some o ∧ o.checked.isConnected ∧ c.Follows o.checked ∧
    o.entered.ends = c.ends

/-- **The invariant of origins.** -/
structure Traced (O : Origins) (S : Stage) : Prop where
  nodup : (S.calls.map PendingCall.number).Nodup
  length : O.origins.length = O.ledger.entered.length
  /-- A call that waits for room has found a session. -/
  queueing : ∀ k ∈ S.calls, k.call.isQueueing = true →
    (O.checked k.number).isConnected ∧ S.client.Follows (O.checked k.number)
  queued : ∀ t ∈ O.ledger.queued, O.MaySend S.client t
  /-- Another copy may be sent only while nothing is in the mailbox. -/
  inFlight : ∀ t, O.ledger.inFlight = some t → S.sender.any Sender.isUnacked = true →
    S.client.ackDone = none → O.MaySend S.client t
  sent : ∀ e ∈ O.ledger.sent, ∃ o, O.origins[e.ticket]? = some o ∧ e.IsTimely o

/-- Origins that are added come last. -/
theorem getElem?_of_append {o : Origin} (hO : ∃ new, O'.origins = O.origins ++ new)
    (ho : O.origins[t]? = some o) : O'.origins[t]? = some o := by
  obtain ⟨new, hnew⟩ := hO
  rw [hnew, List.getElem?_append_left (List.getElem?_eq_some_iff.mp ho).1, ho]

/-- What may be sent may still be sent if no session has ended. -/
theorem MaySend.mono (h : O.MaySend c t) (hO : ∃ new, O'.origins = O.origins ++ new)
    (ha : c.Advances c') (he : c'.ends = c.ends) : O'.MaySend c' t := by
  obtain ⟨o, ho, hc, hf, hends⟩ := h
  exact ⟨o, getElem?_of_append hO ho, hc, ha _ hf, hends.trans he.symm⟩

/-- What is sent while it may be sent is sent in time. -/
theorem MaySend.isTimely (h : O.MaySend c t) {e : Emission} (he : e.before = c)
    (hc : c.isConnected) : ∃ o, O.origins[t]? = some o ∧ e.IsTimely o := by
  obtain ⟨o, ho, hconn, hf, hends⟩ := h
  refine ⟨o, ho, hconn, he ▸ hends, ?_⟩
  rw [he, hends]
  exact hf.sessions_eq_iff hc

/-- **What everybody but the sender keeps.** What is in the queue may still be sent, since a
session that ends lets it go; and so may what is in flight, unless something is in the
mailbox. -/
theorem Traced.advance (h : Traced O S) (hO : ∃ new, O'.origins = O.origins ++ new)
    (ha : S.client.Advances S'.client) (hc : S.client.Clears S'.client)
    (hn : (S'.calls.map PendingCall.number).Nodup)
    (hlength : O'.origins.length = O'.ledger.entered.length)
    (hqueueing : ∀ k ∈ S'.calls, k.call.isQueueing = true →
      (O'.checked k.number).isConnected ∧ S.client.Follows (O'.checked k.number))
    (hqueued : ∀ t ∈ O'.ledger.queued,
      O'.MaySend S'.client t ∨ t ∈ O.ledger.queued ∧ S'.client.queue.toList ≠ [])
    (hs : S'.sender = S.sender ∧ O'.ledger.inFlight = O.ledger.inFlight ∨
      S'.sender.any Sender.isUnacked = false)
    (hsent : O'.ledger.sent = O.ledger.sent) : Traced O' S' := by
  refine ⟨hn, hlength, fun k hk hq => ?_, fun t ht => ?_, fun t ht hu hnone => ?_, fun e he => ?_⟩
  · obtain ⟨hconn, hf⟩ := hqueueing k hk hq
    exact ⟨hconn, ha _ hf⟩
  · rcases hqueued t ht with hnew | ⟨hold, hne⟩
    · exact hnew
    · rcases hc.ends with he | ⟨hnil, -⟩
      · exact (h.queued t hold).mono hO ha he
      · exact absurd hnil hne
  · rcases hs with ⟨hsender, hflight⟩ | hs
    · rcases hc.ends with he | ⟨-, hsome⟩
      · exact (h.inFlight t (hflight ▸ ht) (hsender ▸ hu) (hc.ackDone hnone)).mono hO ha he
      · exact absurd hnone hsome
    · rw [hs] at hu
      cases hu
  · rw [hsent] at he
    obtain ⟨o, ho, htimely⟩ := h.sent e he
    exact ⟨o, getElem?_of_append hO ho, htimely⟩

/-- A turn in which nobody hands over a request. -/
theorem Traced.aside {L : Ledger} (h : Traced O S) (ha : S.client.Advances S'.client)
    (hc : S.client.Clears S'.client)
    (hn : (S'.calls.map PendingCall.number).Nodup)
    (hcalls : ∀ k ∈ S'.calls, k ∈ S.calls ∨ k.call.isQueueing = false)
    (hL : L.entered = O.ledger.entered ∧
      ∀ t ∈ L.queued, t ∈ O.ledger.queued ∧ S'.client.queue.toList ≠ [])
    (hs : S'.sender = S.sender ∧ L.inFlight = O.ledger.inFlight ∨
      S'.sender.any Sender.isUnacked = false)
    (hsent : L.sent = O.ledger.sent) : Traced { O with ledger := L } S' := by
  refine h.advance ⟨[], by simp⟩ ha hc hn ?_ (fun k hk hq => ?_)
    (fun t ht => Or.inr (hL.2 t ht)) hs hsent
  · rw [hL.1]
    exact h.length
  · rcases hcalls k hk with hold | hnone
    · exact h.queueing k hold hq
    · rw [hnone] at hq
      cases hq

/-! ### What calls do -/

/-- What is known of a call with another number stays. -/
theorem check_of_ne {k : PendingCall} {number : Nat} (h : number ≠ k.number) :
    O.check k c number = O.checked number := by
  unfold check
  split
  · rfl
  · exact Function.update_of_ne h _ _

/-- **A call that hands over a request**, or that waits for room to do so, has found a
session when it looked. -/
theorem Traced.check {s : Option Sender} {ks : List PendingCall} {k : PendingCall}
    (h : Traced O ⟨c, s, ks⟩) (hk : k ∈ ks)
    (hq : Call.queues (k.call.poll c).1 = true ∨
      ∃ j, (k.call.poll c).2.queue.toList = c.queue.toList ++ [j]) :
    (O.check k c k.number).isConnected ∧ c.Follows (O.check k c k.number) := by
  unfold Origins.check
  split
  · rename_i hqueueing
    exact h.queueing k hk hqueueing
  · rename_i hqueueing
    rw [Function.update_self]
    have hconn : c.isConnected = true := by
      by_contra hnot
      obtain ⟨hw, hqueue⟩ := Call.poll_of_not_isConnected (by simpa using hqueueing)
        (by simpa using hnot)
      rcases hq with hq | ⟨j, hj⟩
      · rw [hw] at hq
        cases hq
      · rcases hqueue with hqueue | hqueue <;> simp [hj] at hqueue
    exact ⟨hconn, .refl hconn⟩

/-- **A turn of a call** may enter a request, the origin of which is known. -/
theorem Traced.call {s : Option Sender} {pre post : List PendingCall} {k : PendingCall}
    (h : Traced O ⟨c, s, pre ++ k :: post⟩)
    (hfits : O.ledger.Fits c.queue.toList (s.bind Sender.job?)) :
    Traced (O.note ⟨.call k, c, (k.call.poll c).2⟩)
      ⟨(k.call.poll c).2, s, pre ++ (k.rest c ++ post)⟩ := by
  have turn := Turn.call c s pre k post
  have hadvances := k.call.advances_poll c
  have hclears := k.call.clears_poll c
  have hcheck := h.check (k := k) (by simp)
  have hqueue := k.call.queue_poll c
  have hfits' := (hfits.tell c k).forget k
  -- The other calls have other numbers.
  have hother : ∀ k' ∈ pre ++ post, O.check k c k'.number = O.checked k'.number := by
    have hnodup : ((k :: (pre ++ post)).map PendingCall.number).Nodup :=
      (List.perm_middle.map _).nodup_iff.mp h.nodup
    exact fun k' hk' => check_of_ne fun heq =>
      (List.nodup_cons.mp hnodup).1 (heq ▸ List.mem_map_of_mem hk')
  refine h.advance ⟨_, rfl⟩ hadvances hclears (turn.nodup h.nodup) ?_ ?_ ?_
    (Or.inl ⟨rfl, rfl⟩) rfl
  · simp [note, Ledger.note_call, Ledger.requeue, Ledger.forget, Ledger.tell, h.length]
  · intro k' hk' hqueueing
    simp only [note]
    rcases List.mem_append.mp hk' with hpre | hk'
    · rw [hother k' (List.mem_append_left _ hpre)]
      exact h.queueing k' (List.mem_append_left _ hpre) hqueueing
    rcases List.mem_append.mp hk' with hrest | hpost
    · -- The call goes on to wait, so that it has found a session in this turn or before.
      obtain ⟨call, hcall, rfl⟩ : ∃ call, (k.call.poll c).1.rest? = some call ∧
          { k with call := call } = k' := by
        simpa [PendingCall.rest, Option.mem_toList] using hrest
      refine hcheck (Or.inl ?_)
      rw [Call.queues, hcall]
      exact hqueueing
    · rw [hother k' (List.mem_append_right _ hpost)]
      exact h.queueing k' (by simp [hpost]) hqueueing
  · intro t ht
    simp only [note, Ledger.note_call] at ht ⊢
    rw [← or_assoc] at hqueue
    rcases hqueue with hdrops | ⟨j, hj⟩
    · exact Or.inr ((hfits'.requeue_of_drops _ hdrops).2 t ht)
    · have hends : (k.call.poll c).2.ends = c.ends :=
        hclears.ends.resolve_right fun hnil => by simp [hj] at hnil
      rw [hj, Ledger.requeue_concat hfits'.length_eq.symm] at ht ⊢
      rcases List.mem_append.mp ht with hold | hnew
      · exact Or.inr ⟨hold, by simp⟩
      · -- The ticket that is given now is that of the origin that is added now.
        obtain ⟨hconn, hf⟩ := hcheck (Or.inr ⟨j, hj⟩)
        rw [List.mem_singleton] at hnew
        refine Or.inl ⟨⟨O.check k c k.number, c⟩, ?_, hconn, hadvances _ hf, hends.symm⟩
        simp [hnew, Ledger.forget, Ledger.tell, h.length]

/-! ### What the sender does -/

/-- If a copy may be sent in a turn of the sender, then of a request that may be sent. -/
theorem Traced.maySend {s : Sender} {ks : List PendingCall} (h : Traced O ⟨c, some s, ks⟩)
    (hfits : O.ledger.Fits c.queue.toList s.job?) (hs : s.Emits c)
    (ht : (O.ledger.takeFor s c).inFlight = some t) : O.MaySend c t := by
  cases hs with
  | first hjob hr hc =>
    have hflight : O.ledger.inFlight = none := by simpa [hjob] using hfits.job
    simp only [Ledger.takeFor, hr, if_true, Ledger.take] at ht
    split at ht
    · rename_i t' rest hqueued
      obtain rfl := Option.some.inj ht
      exact h.queued t' (by simp [hqueued])
    · simp [hflight] at ht
  | again hu ha =>
    obtain ⟨job, copy, attempt, deadline, rfl⟩ := Sender.exists_of_isUnacked hu
    exact h.inFlight t ht hu ha

/-- Another copy may follow only of a request that may be sent. -/
theorem Traced.inFlight_send {s : Sender} {ks : List PendingCall} (h : Traced O ⟨c, some s, ks⟩)
    (hfits : O.ledger.Fits c.queue.toList s.job?)
    (ht : (O.ledger.note ⟨.send s, c, (s.poll c).2⟩).inFlight = some t)
    (hu : (s.poll c).1.isUnacked = true) (hnone : (s.poll c).2.ackDone = none) :
    (O.note ⟨.send s, c, (s.poll c).2⟩).MaySend (s.poll c).2 t := by
  have hadvances := (Turn.send c s ks).advances
  cases hw : s.work? c with
  | none =>
    obtain ⟨-, hjob, -, -⟩ := Sender.poll_of_work?_eq_none hw
    have hfalse := Sender.any_isUnacked_eq_false (s := some (s.poll c).1) hjob
    rw [Option.any_some, hu] at hfalse
    cases hfalse
  | some r =>
    obtain ⟨job, result | transfer, b⟩ := r
    · -- A delivery that has ended awaits nothing.
      rw [Sender.poll_of_work? hw] at hu
      cases hu
    · have hpoll : s.poll c = (.delivering job transfer, b) := Sender.poll_of_work? hw
      have hsame : b.ends = c.ends :=
        (Sender.ends_of_work? hw).resolve_right fun hnot => by simp [Progress.rest?] at hnot
      simp only [Ledger.note, hw] at ht
      simp only [hpoll] at hu hnone hadvances ⊢
      exact (h.maySend hfits (Sender.emits_of_isUnacked hw hu hnone) ht).mono
        ⟨[], by simp [note]⟩ hadvances hsame

/-- **A turn of the sender** sends only what may be sent. -/
theorem Traced.send {config : Config} {s : Sender} {ks : List PendingCall}
    (h : Traced O ⟨c, some s, ks⟩) (hfits : O.ledger.Fits c.queue.toList s.job?)
    (hwired : O.ledger.Wired config c (some s)) :
    Traced (O.note ⟨.send s, c, (s.poll c).2⟩) ⟨(s.poll c).2, some (s.poll c).1, ks⟩ := by
  have hadvances := (Turn.send c s ks).advances
  obtain ⟨hentered, hqueued⟩ := Ledger.mem_queued_send hfits
  refine ⟨h.nodup, h.length.trans (congrArg List.length hentered.symm), fun k hk hq => ?_,
    fun t ht => ?_, fun t ht hu hnone => h.inFlight_send hfits ht hu hnone, fun e he => ?_⟩
  · obtain ⟨hconn, hf⟩ := h.queueing k hk hq
    exact ⟨hconn, hadvances _ hf⟩
  · obtain ⟨hold, hne⟩ := hqueued t ht
    exact (h.queued t hold).mono ⟨[], by simp [note]⟩ hadvances
      ((s.ends_poll c).resolve_right hne)
  · rcases Ledger.mem_sent_send he with hold | ⟨hbefore, ht, hs⟩
    · exact h.sent e hold
    · exact (h.maySend hfits hs ht).isTimely hbefore (hwired.isConnected_of_emits hs)

/-! ### Every turn -/

/-- A turn in which nothing is taken from the queue, sent or handed over. -/
theorem Traced.requeue {L : Ledger} {c c' : Client} {s : Option Sender} {ks ks' : List PendingCall}
    (h : Traced O ⟨c, s, ks⟩) (hL : ∃ grant accepted,
      L = { O.ledger with grant := grant, accepted := accepted })
    (hfits : L.Fits c.queue.toList (s.bind Sender.job?)) (hd : c.Drops c') (ha : c.Advances c')
    (hc : c.Clears c') (hn : (ks'.map PendingCall.number).Nodup)
    (hcalls : ∀ k ∈ ks', k ∈ ks ∨ k.call.isQueueing = false) :
    Traced { O with ledger := L.requeue c'.queue.toList none } ⟨c', s, ks'⟩ := by
  have hqueue := hfits.requeue_of_drops none hd.toList
  obtain ⟨grant, accepted, rfl⟩ := hL
  exact h.aside ha hc hn hcalls hqueue (Or.inl ⟨rfl, rfl⟩) rfl

/-- **A turn** keeps track of the origins. -/
theorem Traced.turn {config : Config} (turn : Turn S m S') (h : Traced O S)
    (hfits : O.ledger.Fits S.client.queue.toList (S.sender.bind Sender.job?))
    (hwired : O.ledger.Wired config S.client S.sender) : Traced (O.note m) S' := by
  have hadvances := turn.advances
  have hn := turn.nodup h.nodup
  cases turn with
  | receive c s ks d socket =>
    have hb : c.Apart { c with socket := socket } := ⟨rfl, rfl, rfl, rfl, rfl⟩
    have hd : c.Drops { c with socket := socket } := .none rfl rfl
    exact h.requeue (O.ledger.receive_eq c d) (hfits.receive c d)
      (hd.trans (drops_onDatagram _ d)) hadvances
      (hb.clears.trans (clears_onDatagram _ d) (drops_onDatagram _ d)) hn fun _ => Or.inl
  | send c s ks => exact h.send hfits hwired
  | stop s ks hb hq hu =>
    rename_i c b
    have hL : ∃ inFlight produced, O.ledger.note ⟨.stop s, c, s.cancel b⟩ =
        { O.ledger with inFlight := inFlight, produced := produced } := by
      rw [Ledger.note_stop]
      unfold Ledger.conclude
      split
      · split <;> exact ⟨_, _, rfl⟩
      · exact ⟨_, _, rfl⟩
    have hclears : c.Clears (s.cancel b) :=
      ⟨(hb.apart.calm.trans (s.calm_cancel b)).ackDone,
        Or.inl ((s.ends_cancel b).trans (ends_eq_of_outbox_eq hb.outbox))⟩
    obtain ⟨inFlight, produced, heq⟩ := hL
    simp only [note, heq]
    refine h.aside hadvances hclears hn (fun _ => Or.inl) ⟨rfl, fun t ht => ⟨ht, ?_⟩⟩
      (Or.inr rfl) rfl
    rw [s.queue_cancel, hb.queue]
    exact hfits.ne_nil_of_mem_queued ht
  | start c ks =>
    exact h.aside hadvances ⟨id, Or.inl rfl⟩ hn (fun _ => Or.inl)
      (hfits.requeue_of_drops none (Or.inl rfl)) (Or.inr rfl) rfl
  | begin c s ks k hn' hk hq =>
    refine h.requeue ⟨_, _, rfl⟩ hfits (.none rfl rfl) hadvances ⟨id, Or.inl rfl⟩ hn ?_
    intro k' hk'
    rcases List.mem_append.mp hk' with hold | hnew
    · exact Or.inl hold
    · exact Or.inr (by rwa [List.mem_singleton.mp hnew])
  | call c s pre k post => exact h.call hfits
  | cancel c s pre k post =>
    have hkept : ∀ k' ∈ pre ++ post, k' ∈ pre ++ k :: post := fun k' hk' => by
      simp only [List.mem_append, List.mem_cons] at hk' ⊢
      tauto
    refine h.aside hadvances (k.call.apart_cancel c).clears hn (fun k' hk' => Or.inl (hkept k' hk'))
      ⟨rfl, fun t ht => ⟨ht, ?_⟩⟩ (Or.inl ⟨rfl, rfl⟩) rfl
    rw [k.call.queue_cancel]
    exact hfits.ne_nil_of_mem_queued ht
  | move s ks hm hq =>
    exact h.requeue ⟨_, _, rfl⟩ hfits hm.drops hadvances hm.clears hn fun _ => Or.inl

/-! ### Every run -/

end Origins

end KnxIp
