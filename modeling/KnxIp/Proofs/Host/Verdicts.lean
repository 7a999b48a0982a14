import KnxIp.Proofs.Host.Fates
import KnxIp.Proofs.Host.Places

/-!
# What is said of requests that were accepted

That the gateway has accepted a request, and what the application is told of it, are two
things. The dispatcher leaves the news in a mailbox, and the sender takes it from there in its
next turn; what is in the mailbox then is the *verdict*. Whoever ends the session, or begins to
close it, leaves a verdict in the same mailbox, namely that the request has failed, and does not
look whether there was another one. So a request that the gateway has accepted may be reported
as failed.

This module says when that happens. A request is *overruled* if the session breaks off, or the
sender is stopped, after the gateway has accepted the request and before the sender has had its
next turn (`KnxIp.Verdicts`). If confirmations are not awaited, what is told of an accepted
request is that all is well, unless it was overruled, and then that it has failed.

What others do to a verdict is `KnxIp.Client.Upholds`: if all is well it stays so as long as the
session goes on, and otherwise the request has failed; and that it has failed is final.

## Main statements

* `KnxIp.Verdicts.verdicts_run`: after every run, each request that the gateway has accepted has
  ended well if and only if it was not overruled, and this is what its call is told.
* `KnxIp.Verdicts.exists_overruled`: a run in which a request is accepted and its call is told
  that the session was lost.
-/

namespace KnxIp

/-! ### The verdict in the mailbox -/

namespace Client

/-- **The verdict is that all is well**, and the session goes on. -/
def IsApproved (c : Client) : Prop := c.isConnected ∧ c.ackDone = some (.ok ())

/-- **The verdict is that the request has failed.** -/
def IsRefused (c : Client) : Prop := ∃ f, c.ackDone = some (.error f)

/-- **The verdict on a request** is as it has to be for one that was overruled, or was not. -/
structure Judges (overruled : Prop) (c : Client) : Prop where
  approved : ¬ overruled → c.IsApproved
  refused : overruled → c.IsRefused

/-- **A verdict is upheld**, unless the session breaks off. -/
structure Upholds (c c' : Client) : Prop where
  approved : c.IsApproved → c.session.outstanding = none →
    c'.IsApproved ∨ c'.isConnected = false ∧ c'.IsRefused
  refused : c.IsRefused → c'.IsRefused

variable {c c' : Client}

/-- What the sender will find in the mailbox. -/
theorem Judges.exists_ackDone {overruled : Prop} (h : Judges overruled c) :
    ∃ result, c.ackDone = some result ∧ (result = .ok () ↔ ¬ overruled) := by
  by_cases ho : overruled
  · obtain ⟨f, hf⟩ := h.refused ho
    exact ⟨_, hf, by simp [ho]⟩
  · exact ⟨_, (h.approved ho).2, by simp [ho]⟩

/-- **A request is overruled** if the session breaks off. -/
theorem Upholds.judges {overruled : Prop} (h : Upholds c c') (hj : Judges overruled c)
    (hout : c.session.outstanding = none) :
    Judges (overruled ∨ (c.isConnected && !c'.isConnected) = true) c' := by
  by_cases ho : overruled
  · exact ⟨fun hno => absurd (Or.inl ho) hno, fun _ => h.refused (hj.refused ho)⟩
  · have ha := hj.approved ho
    rcases h.approved ha hout with ha' | ⟨hc, hr⟩
    · exact ⟨fun _ => ha', fun hyes => absurd (hyes.resolve_left ho) (by simp [ha'.1])⟩
    · exact ⟨fun hno => absurd (Or.inr (by simp [ha.1, hc])) hno, fun _ => hr⟩

/-- What leaves the session and the mailbox alone upholds every verdict. -/
theorem Upholds.of_eq (hs : c'.session = c.session) (ha : c'.ackDone = c.ackDone) :
    Upholds c c' := by
  refine ⟨fun h _ => Or.inl ?_, fun h => ?_⟩
  · rwa [IsApproved, isConnected, hs, ha]
  · rwa [IsRefused, ha]

/-- While a session is only about to be opened, no request is approved. -/
theorem Upholds.of_connecting (hs : c.session.status = .connecting)
    (hr : c.IsRefused → c'.IsRefused) : Upholds c c' := by
  refine ⟨fun h => ?_, hr⟩
  simp [IsApproved, isConnected, hs, Status.isConnected] at h

theorem isRefused_sessionLost (c : Client) (reason : EndReason) :
    (c.sessionLost reason).IsRefused := by
  rw [sessionLost_eq]
  exact ⟨lost, rfl⟩

theorem Move.isRefused (h : Move c c') (hr : c.IsRefused) : c'.IsRefused := by
  cases h with
  | aside h => rwa [IsRefused, h.ackDone]
  | refuse t f h ho => exact ⟨f, rfl⟩
  | leave t f hs ht => exact ⟨f, rfl⟩
  | lose t reason hs ht => exact isRefused_sessionLost _ reason
  | _ => exact hr

/-- **A move leaves a request approved** for which nothing is outstanding, or breaks off the
session and refuses it. -/
theorem Move.isApproved (h : Move c c') (ha : c.IsApproved) (hout : c.session.outstanding = none) :
    c'.IsApproved ∧ c'.session.outstanding = none ∨ c'.isConnected = false ∧ c'.IsRefused := by
  cases h with
  | aside h =>
    refine Or.inl ⟨?_, by rw [h.session, hout]⟩
    rwa [IsApproved, isConnected, h.session, h.ackDone]
  | publish e h => exact Or.inl ⟨ha, hout⟩
  | send d h => exact Or.inl ⟨ha, hout⟩
  | keep t h ho =>
    exact Or.inl ⟨⟨by simpa [isConnected, h.isConnected_eq] using ha.1, ha.2⟩, ho hout⟩
  | dial t hs ht => simp [IsApproved, isConnected, hs, Status.isConnected] at ha
  | hangUp t hs ht => simp [IsApproved, isConnected, hs, Status.isConnected] at ha
  | refuse t f h ho => exact absurd hout ho
  | leave t f hs ht => exact Or.inr ⟨by simp [isConnected, ht, Status.isConnected], f, rfl⟩
  | lose t reason hs ht =>
    refine Or.inr ⟨?_, isRefused_sessionLost _ reason⟩
    rw [sessionLost_eq]
    simp [isConnected, ht, Status.isConnected]

/-- **Moves uphold verdicts.** -/
theorem Moves.upholds (h : Moves c c') : Upholds c c' := by
  refine ⟨fun ha hout => ?_, fun hr => ?_⟩
  · -- That nothing is outstanding is carried along, since only then nobody refuses the request.
    have : c'.IsApproved ∧ c'.session.outstanding = none ∨
        c'.isConnected = false ∧ c'.IsRefused := by
      induction h with
      | refl => exact Or.inl ⟨ha, hout⟩
      | tail _ h ih =>
        rcases ih with ⟨ha, hout⟩ | ⟨hc, hr⟩
        · exact h.isApproved ha hout
        · exact Or.inr ⟨Bool.eq_false_iff.mpr fun hc' => by simp [h.calm.connected hc'] at hc,
            h.isRefused hr⟩
    exact this.imp_left And.left
  · induction h with
    | refl => exact hr
    | tail _ h ih => exact h.isRefused ih

theorem Overtakes.isRefused (h : Overtakes c c') :
    c.session.status = .connecting ∧ c'.IsRefused := by
  obtain ⟨t, -, hs, -⟩ := h
  exact ⟨hs, isRefused_sessionLost _ _⟩

/-- **A datagram upholds verdicts**, unless it accepts the request that is outstanding. -/
theorem upholds_onDatagram {d : Datagram} (h : c.acceptedBy? d = none) :
    Upholds c (c.onDatagram d) := by
  rcases c.onDatagram_cases d with ⟨frame, hf, hon⟩ | ⟨-, hm⟩
  · rw [hon]
    rcases c.onFrame_cases frame with ⟨response, -, -, hg⟩ | ⟨-, ha, -⟩ | ⟨-, -, hm⟩
    · exact .of_connecting hg.connecting fun hr => by rwa [IsRefused, hg.ackDone]
    · simp [← isSome_acceptedBy? hf, h] at ha
    · exact hm.upholds
  · exact hm.upholds

theorem accepts_onDatagram {d : Datagram} {b : TunnelingAck} (h : c.acceptedBy? d = some b) :
    Accepts c (c.onDatagram d) := by
  rcases c.onDatagram_cases d with ⟨frame, hf, hon⟩ | ⟨hf, -⟩
  · have ha : c.isAcceptedBy frame = true := by rw [← isSome_acceptedBy? hf, h, Option.isSome_some]
    rw [hon]
    rcases c.onFrame_cases frame with ⟨-, -, hno, -⟩ | ⟨-, -, hacc⟩ | ⟨-, hno, -⟩
    · cases hno.symm.trans ha
    · exact hacc
    · cases hno.symm.trans ha
  · simp [acceptedBy?, hf] at h

end Client

/-- **A call upholds verdicts.** -/
theorem Call.upholds_poll (k : Call) (c : Client) : c.Upholds (k.poll c).2 := by
  rcases k.poll_apart_or_moves c with ⟨-, ha | hm⟩ | ⟨-, b, ho, hm⟩
  · exact .of_eq ha.session ha.ackDone
  · exact hm.upholds
  · obtain ⟨hs, hr⟩ := ho.isRefused
    exact .of_connecting hs fun _ => hm.upholds.refused hr

/-- **The sender takes the verdict** from the mailbox, and if confirmations are not awaited
nothing else is needed. -/
theorem Transfer.poll_of_ackDone {copy : Datagram} {attempt deadline : Nat} {c : Client}
    {result : Except Fault Unit} (h : c.ackDone = some result)
    (hconfig : c.config.awaitConfirmation = false) :
    (awaitingAck copy attempt deadline).poll c = (.done result, { c with ackDone := none }) := by
  obtain f | u := result <;> simp [poll, h, acknowledged, hconfig]

/-! ### How requests leave a ledger -/

namespace Host

/-- Whether something is done by the sender, or to it. -/
def Deed.isOfSender : Deed → Bool
  | .send _ => true
  | .stop _ => true
  | _ => false

end Host

namespace Ledger

open Host

variable {L : Ledger} {x : Nat × Except Fault Unit} {t : Nat}

theorem mem_produced_requeue (queue : List Job) (caller : Option Nat)
    (h : x ∈ (L.requeue queue caller).produced) :
    x ∈ L.produced ∨ x.1 ∈ L.queued ∧ x.2 = .error Client.lost := by
  refine (List.mem_append.mp h).imp_right fun h => ?_
  obtain ⟨t, ht, rfl⟩ := List.mem_map.mp h
  exact ⟨List.mem_of_mem_take ht, rfl⟩

theorem mem_produced_conclude {result : Except Fault Unit}
    (h : x ∈ (L.conclude result).produced) :
    x ∈ L.produced ∨ L.inFlight = some x.1 ∧ x.2 = result := by
  unfold conclude at h
  split at h
  · rename_i t ht
    refine (List.mem_append.mp h).imp_right fun h => ?_
    obtain rfl := List.mem_singleton.mp h
    exact ⟨ht, rfl⟩
  · exact Or.inl h

@[simp] theorem inFlight_conclude (L : Ledger) (result : Except Fault Unit) :
    (L.conclude result).inFlight = none := by
  unfold conclude
  split
  · rfl
  · assumption

theorem queued_takeFor_subset (L : Ledger) (s : Sender) (c : Client) :
    (L.takeFor s c).queued ⊆ L.queued := by
  unfold takeFor take
  split
  · split
    · rename_i t rest hq
      rw [hq]
      exact List.subset_cons_self t rest
    · exact fun _ => id
  · exact fun _ => id

/-- **Others than the sender** leave in flight what is, and what they end was in the queue and is
let go. -/
theorem note_of_others (L : Ledger) {m : Moment} (h : m.deed.isOfSender = false) :
    (L.note m).inFlight = L.inFlight ∧
      ∀ x ∈ (L.note m).produced,
        x ∈ L.produced ∨ x.1 ∈ L.queued ∧ x.2 = .error Client.lost := by
  obtain ⟨deed, c, c'⟩ := m
  cases deed with
  | receive d =>
    obtain ⟨grant, accepted, heq⟩ := L.receive_eq c d
    rw [note_receive, heq]
    exact ⟨rfl, fun _ => mem_produced_requeue _ _⟩
  | call k => exact ⟨rfl, fun _ => mem_produced_requeue _ _⟩
  | cancel k => exact ⟨rfl, fun _ => Or.inl⟩
  | other => exact ⟨rfl, fun _ => mem_produced_requeue _ _⟩
  | send s => cases h
  | stop s => cases h

/-- **A turn of the sender** ends what it works on if it is done with that. -/
theorem note_send_cases (L : Ledger) (s : Sender) (c : Client) :
    (∃ job result b, s.work? c = some (job, .done result, b) ∧
        L.note ⟨.send s, c, (s.poll c).2⟩ = (Fates.atWork L s c).conclude result) ∨
      (∀ job result b, s.work? c ≠ some (job, .done result, b)) ∧
        L.note ⟨.send s, c, (s.poll c).2⟩ = Fates.atWork L s c := by
  simp only [note, Fates.atWork]
  cases hw : s.work? c with
  | none => exact Or.inr ⟨by simp, rfl⟩
  | some r =>
    obtain ⟨job, result | transfer, b⟩ := r
    · exact Or.inl ⟨job, result, b, rfl, rfl⟩
    · exact Or.inr ⟨by simp, rfl⟩

/-- What the sender ends was in the queue and is let go, or is what it delivers. -/
theorem mem_produced_note_send {s : Sender} {c : Client}
    (h : x ∈ (L.note ⟨.send s, c, (s.poll c).2⟩).produced) :
    x ∈ L.produced ∨ (x.1 ∈ L.queued ∧ x.2 = .error Client.lost) ∨
      (L.takeFor s c).inFlight = some x.1 ∧
        ∃ job b, s.work? c = some (job, .done x.2, b) := by
  have hwork : ∀ y ∈ (Fates.atWork L s c).produced,
      y ∈ L.produced ∨ y.1 ∈ L.queued ∧ y.2 = .error Client.lost := by
    intro y hy
    obtain ⟨queued, inFlight, begun, heq⟩ := L.takeFor_eq s c
    rcases mem_produced_requeue _ none hy with hy | hy
    · rw [heq] at hy
      exact Or.inl hy
    · exact Or.inr (hy.imp_left (L.queued_takeFor_subset s c ·))
  rcases L.note_send_cases s c with ⟨job, result, b, hw, heq⟩ | ⟨-, heq⟩
  · rw [heq] at h
    rcases mem_produced_conclude h with hx | ⟨ht, rfl⟩
    · exact (hwork x hx).imp_right Or.inl
    · exact Or.inr (Or.inr ⟨ht, job, b, hw⟩)
  · rw [heq] at h
    exact (hwork x h).imp_right Or.inl

/-- What the sender leaves in flight it works on, and is not done with. -/
theorem inFlight_of_note_send {s : Sender} {c : Client}
    (h : (L.note ⟨.send s, c, (s.poll c).2⟩).inFlight = some t) :
    (L.takeFor s c).inFlight = some t ∧
      ∀ job result b, s.work? c ≠ some (job, .done result, b) := by
  rcases L.note_send_cases s c with ⟨job, result, b, hw, heq⟩ | ⟨hnot, heq⟩
  · simp [heq] at h
  · rw [heq] at h
    exact ⟨h, hnot⟩

/-- What the sender works on and had taken before was in flight before. -/
theorem Fits.inFlight_of_begun {queue : List Job} {s : Sender} {c : Client} {job : Option Job}
    (h : L.Fits queue job) (ht : (L.takeFor s c).inFlight = some t) (hbegun : t ∈ L.begun) :
    L.inFlight = some t := by
  unfold Ledger.takeFor Ledger.take at ht
  split at ht
  · split at ht
    · rename_i t' rest hq
      obtain rfl := Option.some.inj ht
      exact absurd (by simp [hq]) (h.notMem_queued hbegun)
    · exact ht
  · exact ht

end Ledger

/-! ### Gathering -/

/-- **What a history tells of how accepted requests were judged.** -/
structure Verdicts where
  fates : Fates
  /-- The requests for which the session broke off, or the sender was stopped, when the gateway
  had accepted them and they were still being delivered. -/
  overruled : List Nat
  /-- Whether something was received since the sender had its last turn. -/
  unheard : Bool

namespace Host

/-- Whether the session breaks off in a moment, or the sender is stopped. -/
def Moment.breaksOff (m : Moment) : Bool :=
  match m.deed with
  | .stop _ => true
  | _ => m.before.isConnected && !m.after.isConnected

/-- Whether there is something that the sender has not heard of, after another deed. -/
def Deed.unheard (unheard : Bool) : Deed → Bool
  | .receive _ => true
  | .send _ => false
  | _ => unheard

end Host

namespace Verdicts

open Host

/-- Nothing has happened. -/
def empty : Verdicts := ⟨.empty, [], false⟩

/-- The requests that the gateway has accepted. -/
def accepted (V : Verdicts) : List Nat := V.fates.acks.map Prod.fst

/-- The request in flight, if the gateway has accepted it. -/
def undecided (V : Verdicts) : List Nat :=
  V.fates.ledger.inFlight.toList.filter (· ∈ V.accepted)

/-- **What is known after another moment.** -/
def note (V : Verdicts) (m : Moment) : Verdicts where
  fates := V.fates.note m
  overruled := V.overruled ++ if m.breaksOff then V.undecided else []
  unheard := m.deed.unheard V.unheard

/-- **What is known after a history.** -/
def of (ms : List Moment) : Verdicts := ms.foldl note empty

theorem unheard_of (ms : List Moment) :
    (of ms).unheard = ms.foldl (fun unheard m => m.deed.unheard unheard) false :=
  (List.foldl_hom Verdicts.unheard fun _ _ => rfl).symm

variable {config : Config} {V : Verdicts} {S S' : Stage} {m : Moment} {t : Nat}

theorem mem_undecided : t ∈ V.undecided ↔ V.fates.ledger.inFlight = some t ∧ t ∈ V.accepted := by
  simp [undecided]

theorem mem_overruled_note :
    t ∈ (V.note m).overruled ↔ t ∈ V.overruled ∨ m.breaksOff = true ∧ t ∈ V.undecided := by
  by_cases h : m.breaksOff <;> simp [note, h]

/-- **The invariant of the verdicts.** -/
structure Sound (V : Verdicts) (S : Stage) : Prop where
  overruled : ∀ t ∈ V.overruled, t ∈ V.accepted
  /-- The verdict on an accepted request that is in flight is in the mailbox. -/
  pending : ∀ t ∈ V.undecided,
    S.sender.any Sender.isUnacked = true ∧ S.client.Judges (t ∈ V.overruled)
  ended : ∀ t result, (t, result) ∈ V.fates.ledger.produced → t ∈ V.accepted →
    (result = .ok () ↔ t ∉ V.overruled)
  /-- Once the sender has had its turn there is none. -/
  heard : V.unheard = false → V.undecided = []

/-- **What is kept together**: the verdicts on the requests of a ledger that is kept well. -/
structure Kept (config : Config) (V : Verdicts) (S : Stage) : Prop where
  settled : V.fates.ledger.Settled S
  wired : V.fates.ledger.Wired config S.client S.sender
  known : V.fates.Known config S
  sound : V.Sound S

/-- Where nothing is undecided, it is enough to know what has ended. -/
theorem Sound.of_nil (hnil : V.undecided = []) (hover : ∀ t ∈ V.overruled, t ∈ V.accepted)
    (hended : ∀ t result, (t, result) ∈ V.fates.ledger.produced → t ∈ V.accepted →
      (result = .ok () ↔ t ∉ V.overruled)) : V.Sound S := by
  refine ⟨hover, fun t ht => ?_, hended, fun _ => hnil⟩
  rw [hnil] at ht
  cases ht

/-! ### What is accepted -/

/-- What the gateway has accepted was taken from the queue. -/
theorem Kept.begun (h : Kept config V S) (ht : t ∈ V.accepted) : t ∈ V.fates.ledger.begun := by
  obtain ⟨⟨t, b⟩, hb, rfl⟩ := List.mem_map.mp ht
  exact h.known.begun h.wired hb

theorem Kept.notMem_queued (h : Kept config V S) (ht : t ∈ V.accepted) :
    t ∉ V.fates.ledger.queued :=
  h.settled.fits.notMem_queued (h.begun ht)

/-- What is undecided has not ended. -/
theorem Kept.notMem_produced (h : Kept config V S) (ht : t ∈ V.undecided) :
    t ∉ V.fates.ledger.produced.map Prod.fst :=
  h.settled.fits.notMem_produced (mem_undecided.mp ht).1

/-- There is a verdict on what is undecided. -/
theorem Kept.verdict (h : Kept config V S) (ht : t ∈ V.undecided) :
    ∃ result, S.client.ackDone = some result ∧ (result = .ok () ↔ t ∉ V.overruled) :=
  (h.sound.pending t ht).2.exists_ackDone

/-- So it is not outstanding any more. -/
theorem Kept.outstanding (h : Kept config V S) (ht : t ∈ V.undecided) :
    S.client.session.outstanding = none := by
  obtain ⟨result, hr, -⟩ := h.verdict ht
  exact h.known.awaits.eq_none_of_ackDone (by simp [hr])

/-- That the session breaks off does not matter to what has ended. -/
theorem Kept.mem_overruled_note_iff (h : Kept config V S)
    (ht : t ∈ V.fates.ledger.produced.map Prod.fst) :
    t ∈ (V.note m).overruled ↔ t ∈ V.overruled := by
  rw [mem_overruled_note, or_iff_left]
  exact fun hu => h.notMem_produced hu.2 ht

/-- What had ended stays as it was. -/
theorem Kept.ended (h : Kept config V S) {result : Except Fault Unit}
    (hr : (t, result) ∈ V.fates.ledger.produced) (ht : t ∈ V.accepted) :
    result = .ok () ↔ t ∉ (V.note m).overruled := by
  rw [h.mem_overruled_note_iff (List.mem_map_of_mem hr)]
  exact h.sound.ended t result hr ht

/-- What is overruled had been accepted. -/
theorem Kept.accepted_of_overruled (h : Kept config V S) (ht : t ∈ (V.note m).overruled) :
    t ∈ V.accepted :=
  (mem_overruled_note.mp ht).elim (h.sound.overruled t) fun hu => (mem_undecided.mp hu.2).2

/-! ### What others do -/

/-- **Others uphold the verdicts**, unless they make the session break off. -/
theorem Kept.others (h : Kept config V S) (hm : m.deed.isOfSender = false)
    (hb : m.before = S.client) (ha : m.after = S'.client)
    (hs : S'.sender.any Sender.isUnacked = S.sender.any Sender.isUnacked)
    (hacks : (V.note m).fates.acks = V.fates.acks) (hup : S.client.Upholds S'.client) :
    (V.note m).Sound S' := by
  obtain ⟨hflight, hproduced⟩ := V.fates.ledger.note_of_others hm
  have haccepted : (V.note m).accepted = V.accepted := congrArg (List.map Prod.fst) hacks
  have hundecided : (V.note m).undecided = V.undecided := by
    unfold undecided
    rw [haccepted]
    exact congrArg (fun o : Option Nat => o.toList.filter (· ∈ V.accepted)) hflight
  have hbreaks : m.breaksOff = (S.client.isConnected && !S'.client.isConnected) := by
    rw [← hb, ← ha]
    unfold Moment.breaksOff
    split
    · rename_i s hd
      rw [hd] at hm
      cases hm
    · rfl
  refine ⟨fun t ht => haccepted ▸ h.accepted_of_overruled ht, fun t ht => ?_, ?_, fun hu => ?_⟩
  · rw [hundecided] at ht
    obtain ⟨hsender, hjudges⟩ := h.sound.pending t ht
    have hover : t ∈ (V.note m).overruled ↔
        t ∈ V.overruled ∨ (S.client.isConnected && !S'.client.isConnected) = true := by
      rw [mem_overruled_note, hbreaks, and_iff_left ht]
    rw [hover]
    exact ⟨hs.trans hsender, hup.judges hjudges (h.outstanding ht)⟩
  · intro t result hr ht
    rw [haccepted] at ht
    rcases hproduced _ hr with hr | ⟨hq, -⟩
    · exact h.ended hr ht
    · exact absurd hq (h.notMem_queued ht)
  · rw [hundecided]
    refine h.sound.heard ?_
    -- Others than the dispatcher leave it as it was.
    change m.deed.unheard V.unheard = false at hu
    cases hd : m.deed <;> simp_all [Deed.unheard, Deed.isOfSender]

/-- **The gateway accepts a request**, on which there was no verdict before. -/
theorem Kept.accept {c : Client} {s : Option Sender} {ks : List PendingCall} {d : Datagram}
    {b : TunnelingAck} (h : Kept config V ⟨c, s, ks⟩) (socket : Socket)
    (hb : c.acceptedBy? d = some b) :
    (V.note ⟨.receive d, c, { c with socket := socket }.onDatagram d⟩).Sound
      ⟨{ c with socket := socket }.onDatagram d, s, ks⟩ := by
  have hacc : Client.Accepts { c with socket := socket }
      ({ c with socket := socket }.onDatagram d) := Client.accepts_onDatagram hb
  generalize ({ c with socket := socket } : Client).onDatagram d = c' at hacc ⊢
  have hok := Client.ok_of_acceptedBy? hb
  obtain ⟨t, ht, -⟩ := h.wired.answers h.settled.fits h.known.awaits hok
  obtain ⟨-, -, hout, -⟩ := (c.session.onTunnelingAck_eq_ok_iff b c.now).mp hok
  obtain ⟨-, hnone, hsender⟩ := h.known.awaits _ hout
  -- It was not accepted before, since then there would be a verdict.
  have hnew : t ∉ V.accepted := fun hmem => by
    obtain ⟨result, hr, -⟩ := h.verdict (mem_undecided.mpr ⟨ht, hmem⟩)
    cases hnone.symm.trans hr
  have hundecided : V.undecided = [] := by simp [undecided, ht, hnew]
  have hover : ∀ t', t' ∈ (V.note ⟨.receive d, c, c'⟩).overruled ↔ t' ∈ V.overruled := by
    simp [mem_overruled_note, hundecided]
  have hacks : (V.note ⟨.receive d, c, c'⟩).fates.acks = V.fates.acks ++ [(t, b)] := by
    simp [note, Fates.note, Fates.receive, hb, ht]
  have haccepted : ∀ t', t' ∈ (V.note ⟨.receive d, c, c'⟩).accepted ↔ t' ∈ V.accepted ∨ t' = t := by
    simp [accepted, hacks, List.mem_append]
  obtain ⟨hflight, hproduced⟩ := V.fates.ledger.note_of_others
    (m := ⟨.receive d, c, c'⟩) rfl
  refine ⟨fun t' ht' => ?_, fun t' ht' => ?_, fun t' result hr ht' => ?_, ?_⟩
  · exact (haccepted t').mpr (Or.inl (h.sound.overruled t' ((hover t').mp ht')))
  · obtain ⟨hf, -⟩ := mem_undecided.mp ht'
    obtain rfl : t = t' := Option.some.inj (ht.symm.trans (hflight.symm.trans hf))
    refine ⟨hsender, fun _ => ⟨?_, hacc.ackDone⟩, fun hmem => ?_⟩
    · simpa [Client.isConnected, hacc.status] using hacc.connected
    · exact absurd (h.sound.overruled t ((hover t).mp hmem)) hnew
  · rw [hover]
    have hfits := h.settled.fits
    rcases (haccepted t').mp ht' with hold | rfl
    · rcases hproduced _ hr with hr | ⟨hq, -⟩
      · exact h.sound.ended t' result hr hold
      · exact absurd hq (h.notMem_queued hold)
    · rcases hproduced _ hr with hr | ⟨hq, -⟩
      · exact absurd (List.mem_map_of_mem hr) (hfits.notMem_produced ht)
      · exact absurd hq (hfits.notMem_queued (List.mem_of_getLast? (hfits.begun _ ht)))
  · rintro ⟨⟩

/-! ### What the sender does -/

/-- **An accepted request that the sender works on has ended**, as the verdict says. -/
theorem Kept.work {c : Client} {s : Sender} {ks : List PendingCall}
    (h : Kept config V ⟨c, some s, ks⟩) (hconfig : config.awaitConfirmation = false)
    (ht : t ∈ V.accepted) (hf : (V.fates.ledger.takeFor s c).inFlight = some t) :
    t ∈ V.undecided ∧ ∃ job result,
      s.work? c = some (job, .done result, { c with ackDone := none }) ∧
        (result = .ok () ↔ t ∉ V.overruled) := by
  have hu : t ∈ V.undecided :=
    mem_undecided.mpr ⟨h.settled.fits.inFlight_of_begun hf (h.begun ht), ht⟩
  obtain ⟨result, hr, hiff⟩ := h.verdict hu
  obtain ⟨job, copy, attempt, deadline, rfl⟩ :=
    Sender.exists_of_isUnacked (h.sound.pending t hu).1
  have hc : c.config.awaitConfirmation = false := by rw [h.wired.disciplined.config_eq, hconfig]
  exact ⟨hu, job, result, by rw [Sender.work?, Transfer.poll_of_ackDone hr hc], hiff⟩

/-- **The sender takes the verdict** on the request that it delivers, if there is one. -/
theorem Kept.send {c : Client} {s : Sender} {ks : List PendingCall}
    (h : Kept config V ⟨c, some s, ks⟩) (hconfig : config.awaitConfirmation = false) :
    (V.note ⟨.send s, c, (s.poll c).2⟩).Sound S' := by
  refine .of_nil (List.eq_nil_iff_forall_not_mem.mpr fun t ht => ?_)
    (fun t => h.accepted_of_overruled) fun t result hr ht => ?_
  · obtain ⟨hf, ht⟩ := mem_undecided.mp ht
    obtain ⟨hf, hnot⟩ := Ledger.inFlight_of_note_send hf
    obtain ⟨-, job, result, hw, -⟩ := h.work hconfig ht hf
    exact hnot _ _ _ hw
  · rcases Ledger.mem_produced_note_send hr with hr | ⟨hq, -⟩ | ⟨hf, job, b, hw⟩
    · exact h.ended hr ht
    · exact absurd hq (h.notMem_queued ht)
    · obtain ⟨hu, job', result', hw', hiff⟩ := h.work hconfig ht hf
      cases hw.symm.trans hw'
      rw [hiff, mem_overruled_note, or_iff_left]
      -- To finish with a request does not touch the session.
      rintro ⟨hbreak, -⟩
      simp [Moment.breaksOff, Sender.poll_of_work? hw, Sender.follow, Client.isConnected,
        Sender.session_finish] at hbreak

/-- **To stop the sender** overrules the verdict that it has not taken. -/
theorem Kept.stop {c b : Client} {s : Sender} {ks : List PendingCall}
    (h : Kept config V ⟨c, some s, ks⟩) :
    (V.note ⟨.stop s, c, s.cancel b⟩).Sound S' := by
  have hledger : (V.note ⟨.stop s, c, s.cancel b⟩).fates.ledger =
      if s.job?.isSome then V.fates.ledger.conclude (.error Client.lost) else V.fates.ledger := rfl
  have hflight : (V.note ⟨.stop s, c, s.cancel b⟩).fates.ledger.inFlight = none := by
    rw [hledger]
    split
    · simp
    · rename_i hjob
      simpa [Option.not_isSome_iff_eq_none.mp hjob] using h.settled.fits.job
  refine .of_nil (by simp [undecided, hflight]) (fun t => h.accepted_of_overruled)
    fun t result hr ht => ?_
  have hcases : (t, result) ∈ V.fates.ledger.produced ∨
      V.fates.ledger.inFlight = some t ∧ result = .error Client.lost := by
    rw [hledger] at hr
    split at hr
    · exact Ledger.mem_produced_conclude hr
    · exact Or.inl hr
  rcases hcases with hr | ⟨hf, rfl⟩
  · exact h.ended hr ht
  · have hover : t ∈ (V.note ⟨.stop s, c, s.cancel b⟩).overruled :=
      mem_overruled_note.mpr (Or.inr ⟨rfl, mem_undecided.mpr ⟨hf, ht⟩⟩)
    simp [hover]

/-! ### Every turn -/

/-- **A turn** keeps the verdicts sound. -/
theorem Kept.sound_turn (turn : Turn S m S') (h : Kept config V S)
    (hconfig : config.awaitConfirmation = false) : (V.note m).Sound S' := by
  cases turn with
  | receive c s ks d socket =>
    cases hb : c.acceptedBy? d with
    | some b => exact h.accept socket hb
    | none =>
      have hup : Client.Upholds { c with socket := socket }
          ({ c with socket := socket }.onDatagram d) := Client.upholds_onDatagram hb
      refine h.others rfl rfl rfl rfl ?_ ⟨hup.approved, hup.refused⟩
      simp [note, Fates.note, Fates.receive, hb]
  | send c s ks => exact h.send hconfig
  | stop s ks hb => exact h.stop
  | start c ks => exact h.others rfl rfl rfl rfl rfl (.of_eq rfl rfl)
  | begin c s ks k hn hk => exact h.others rfl rfl rfl rfl rfl (.of_eq rfl rfl)
  | call c s pre k post => exact h.others rfl rfl rfl rfl rfl (k.call.upholds_poll c)
  | cancel c s pre k post =>
    have ha := k.call.apart_cancel c
    exact h.others rfl rfl rfl rfl rfl (.of_eq ha.session ha.ackDone)
  | move s ks hm => exact h.others rfl rfl rfl rfl rfl hm.upholds

theorem Kept.turn (turn : Turn S m S') (h : Kept config V S)
    (hconfig : config.awaitConfirmation = false) : Kept config (V.note m) S' where
  settled := h.settled.turn turn
  wired := h.wired.turn turn h.settled.fits
  known := h.known.turn turn h.settled.fits h.wired
  sound := h.sound_turn turn hconfig

theorem kept_fresh (config : Config) : Kept config empty (Host.fresh config).stage where
  settled := Ledger.settled_fresh config
  wired := Ledger.wired_fresh config
  known := Fates.known_fresh config
  sound := .of_nil rfl (by rintro t ⟨⟩) (by rintro t result ⟨⟩)

/-! ### What the sender has not heard of -/

/-- Where nothing is received there is nothing to hear of. -/
theorem foldl_unheard {ms : List Moment} (h : ∀ m ∈ ms, ∀ d, m.deed ≠ .receive d) :
    ms.foldl (fun unheard m => m.deed.unheard unheard) false = false := by
  induction ms with
  | nil => rfl
  | cons m ms ih =>
    have hm : m.deed.unheard false = false := by
      have hno := h m List.mem_cons_self
      cases hd : m.deed with
      | receive d => exact absurd hd (hno d)
      | _ => rfl
    rw [List.foldl_cons, hm]
    exact ih fun m' hm' => h m' (List.mem_cons_of_mem m hm')

/-- **Whatever is received in an action**, the sender has a turn after it. -/
theorem foldl_unheard_moments (h : Host) (a : Action) :
    (h.moments a).foldl (fun unheard m => m.deed.unheard unheard) false = false := by
  by_cases ha : a = .pollDriver
  · subst ha
    simp only [moments]
    split
    · rename_i d hd
      unfold driverMoments
      -- The dispatcher comes first, and from the sender's turn on nothing is received.
      rw [List.foldl_append, List.foldl_cons]
      refine foldl_unheard fun m hm d hd => ?_
      split at hm
      · simp only [List.mem_cons, List.not_mem_nil, or_false] at hm
        rcases hm with rfl | rfl <;> cases hd
      · obtain rfl := List.mem_singleton.mp hm
        cases hd
    · rfl
  · exact foldl_unheard fun m hm d hd => ha (mem_dispatcherMoments_of_receive hm hd).1

theorem unheard_history (h : Host) (actions : List Action) :
    (h.history actions).foldl (fun unheard m => m.deed.unheard unheard) false = false := by
  induction actions generalizing h with
  | nil => rfl
  | cons a rest ih =>
    rw [history, List.foldl_append, foldl_unheard_moments]
    exact ih (h.act a)

/-! ### Every run -/

/-- **The verdicts are exact**: what becomes of accepted requests depends on nothing but
whether they were overruled. -/
structure Exact (V : Verdicts) (h : Host) : Prop where
  /-- Each request that the gateway has accepted has ended, and has ended well if and only if
  it was not overruled. -/
  ended : ∀ t ∈ V.accepted, ∃ result, (t, result) ∈ V.fates.ledger.produced ∧
    (result = .ok () ↔ t ∉ V.overruled)
  /-- So calls were told of their requests. -/
  told : ∀ r ∈ V.fates.ledger.returned, ∀ t ∈ V.accepted, r.ticket = some t →
    (r.result = .ok () ↔ t ∉ V.overruled)
  /-- So a call to send a message will be told, if it still waits, when it has its next turn. -/
  awaiting : ∀ k ∈ h.calls, ∀ id, k.call = .send (.awaiting id) →
    ∃ t, V.fates.ledger.owner k.number = some t ∧ (t ∈ V.accepted →
      ∃ result : Except Fault Unit,
        (k.call.poll h.client).1 = .done (result.map fun _ => .nothing) ∧
          (result = .ok () ↔ t ∉ V.overruled))

/-- What is accepted has ended once the sender has heard of it. -/
theorem Kept.exists_produced (h : Kept config V S) (hheard : V.unheard = false)
    (ht : t ∈ V.accepted) : ∃ result, (t, result) ∈ V.fates.ledger.produced := by
  have hfits := h.settled.fits
  have hmem : t ∈ V.fates.ledger.pending ++ V.fates.ledger.produced.map Prod.fst :=
    hfits.count.mem_iff.mpr (List.mem_range.mpr (hfits.bound t (h.begun ht)))
  have hpending : t ∉ V.fates.ledger.pending := by
    intro hp
    rcases List.mem_append.mp hp with hf | hq
    · have hu : t ∈ V.undecided := mem_undecided.mpr ⟨Option.mem_toList.mp hf, ht⟩
      rw [h.sound.heard hheard] at hu
      cases hu
    · exact h.notMem_queued ht hq
  obtain ⟨⟨t, result⟩, hr, rfl⟩ :=
    List.mem_map.mp ((List.mem_append.mp hmem).resolve_left hpending)
  exact ⟨result, hr⟩

/-- Verdicts that are kept are exact once the sender has heard of everything. -/
theorem Kept.exact {host : Host} (h : Kept config V host.stage) (hheard : V.unheard = false) :
    V.Exact host := by
  have hplaces := h.settled.placesExact
  refine ⟨fun t ht => ?_, fun r hr t ht hticket => ?_, fun k hk id hcall => ?_⟩
  · obtain ⟨result, hr⟩ := h.exists_produced hheard ht
    exact ⟨result, hr, h.sound.ended t result hr ht⟩
  · obtain ⟨t', ht', hprod⟩ := hplaces.told r hr
    obtain rfl : t = t' := Option.some.inj (hticket.symm.trans ht')
    exact h.sound.ended t r.result hprod ht
  · obtain ⟨t, ho, -, hcases⟩ := hplaces.own k hk id (by rw [hcall]; rfl)
    refine ⟨t, ho, fun ht => ?_⟩
    obtain ⟨result', hr'⟩ := h.exists_produced hheard ht
    rcases hcases with ⟨-, hp⟩ | ⟨result, hdone, hr⟩
    · -- What has ended is not pending.
      have hnodup := h.settled.fits.count.nodup_iff.mpr List.nodup_range
      exact absurd rfl ((List.nodup_append.mp hnodup).2.2 t hp t (List.mem_map_of_mem hr'))
    · refine ⟨result, ?_, h.sound.ended t result hr ht⟩
      simp [hcall, Call.poll, Sending.poll, hdone, Progress.map]

/-- **After every run the verdicts are exact**, if confirmations are not awaited. -/
theorem verdicts_run (config : Config) (hconfig : config.awaitConfirmation = false)
    (actions : List Action) :
    (of ((Host.fresh config).history actions)).Exact ((Host.fresh config).run actions) := by
  have hkept : Kept config (of ((Host.fresh config).history actions))
      ((Host.fresh config).run actions).stage :=
    fold_induction config (kept_fresh config) (fun t h => h.turn t hconfig) actions
  exact hkept.exact ((unheard_of _).trans (unheard_history _ actions))

/-- The gateway grants a session, and a message is sent. Then these frames arrive, the driver
has its turn, and after it the call. -/
def sentThen (gateway : Endpoint) (frames : List Frame) : List Action :=
  let granted : Frame := .connectResponse
    ⟨7, 0, some (Hpai.ofEndpoint gateway), some (Crd.tunnel ⟨0x11FF⟩)⟩
  [.startDriver, .begin 0 .connect, .pollCall 0, .arrive ⟨granted.octets, gateway⟩, .pollDriver,
    .pollCall 0, .begin 1 (.send (.groupWrite ⟨0⟩ ⟨0x0901⟩ (.ofLowBits 1))), .pollCall 1,
    .pollDriver] ++
  (frames.map fun frame => .arrive ⟨frame.octets, gateway⟩) ++ [.pollDriver, .pollCall 1]

/-- If only the acknowledgement comes, it is not overruled, and the call is told so. -/
theorem verdicts_acknowledged :
    let gateway : Endpoint := ⟨⟨192, 168, 1, 10⟩, 3671⟩
    let host := Host.fresh (.ofGateway gateway)
    let actions := sentThen gateway [.tunnelingAck ⟨7, 0, 0⟩]
    (Config.ofGateway gateway).awaitConfirmation = false ∧
      0 ∈ (of (host.history actions)).accepted ∧ 0 ∉ (of (host.history actions)).overruled ∧
      .call 1 (.ok .nothing) ∈ (host.run actions).finished ∧
      (of (host.history actions)).Exact (host.run actions) :=
  ⟨rfl, by decide +kernel, by decide +kernel, by decide +kernel, verdicts_run _ rfl _⟩

/-- **It does happen that an accepted request is overruled**: the acknowledgement comes, and
right after it the gateway ends the session. The gateway has accepted the request, and the call
is told that the session was lost. -/
theorem exists_overruled : ∃ (config : Config) (actions : List Action),
    config.awaitConfirmation = false ∧
      0 ∈ (of ((Host.fresh config).history actions)).accepted ∧
      (∃ r ∈ (of ((Host.fresh config).history actions)).fates.ledger.returned,
        r.number = 1 ∧ r.ticket = some 0 ∧ r.result = .error Client.lost) ∧
      .call 1 (.error Client.lost) ∈ ((Host.fresh config).run actions).finished := by
  let gateway : Endpoint := ⟨⟨192, 168, 1, 10⟩, 3671⟩
  refine ⟨.ofGateway gateway, sentThen gateway [.tunnelingAck ⟨7, 0, 0⟩,
    .disconnectRequest ⟨7, Hpai.ofEndpoint gateway⟩], rfl, ?_⟩
  decide +kernel

end Verdicts

end KnxIp
