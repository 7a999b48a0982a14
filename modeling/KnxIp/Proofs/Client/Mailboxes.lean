import KnxIp.Proofs.Client.Quiet

/-!
# What the mailboxes tell the sender

The sender does not see what arrives. That its request was acknowledged, and that it was
confirmed, it learns from two mailboxes, into which others put what they have to say about
the request that is outstanding. The sender may rely on them for two reasons.

A request is outstanding only while the sender awaits its acknowledgement with an empty
mailbox (`KnxIp.Client.Awaits`); so an acknowledgement that is accepted is meant for the
request that is delivered, and not for an earlier one that the session has not forgotten.
And what is in the mailboxes, and the fact that the sender has gone on to await a
confirmation, is backed by what arrived during this delivery (`KnxIp.Transfer.Backed`): the
mailboxes were emptied when it began. So a delivery that succeeds was acknowledged, and
confirmed if confirmations are awaited.

## Main statements

* `KnxIp.Sender.awaits_poll`: the sender leaves no request outstanding behind.
* `KnxIp.Transfer.Backed.poll`: what the sender concludes from the mailboxes is so.
-/

namespace KnxIp

/-- Whether the acknowledgement of the request is still awaited. -/
def Transfer.isUnacked : Transfer → Bool
  | .awaitingAck _ _ _ => true
  | .awaitingConfirmation _ => false

namespace Client

/-- A socket that fails leaves no request outstanding. -/
theorem outstanding_transportFailed (c : Client) (f : Fault) :
    (c.transportFailed f).session.outstanding = none := by
  unfold transportFailed
  cases c.session.status with
  | disconnected => rfl
  | connecting => rfl
  | _ =>
    simp only
    rw [sessionLost_eq]
    rfl

/-- **If a request is outstanding**, it has the next number, nothing is in the mailbox for its
acknowledgement, and this is what is waited for. -/
def Awaits (c : Client) (waits : Bool) : Prop :=
  ∀ n, c.session.outstanding = some n →
    n = c.session.sendSequence ∧ c.ackDone = none ∧ waits = true

variable {c c' : Client} {waits acks confirms : Bool}

theorem awaits_of_eq_none (h : c.session.outstanding = none) (waits : Bool) : c.Awaits waits :=
  fun n hn => absurd (h.symm.trans hn) (by simp)

/-- Where nobody waits, no request is outstanding. -/
theorem Awaits.eq_none (h : c.Awaits false) : c.session.outstanding = none := by
  rw [Option.eq_none_iff_forall_ne_some]
  intro n hn
  cases (h n hn).2.2

/-- Nor is one outstanding if there is something in the mailbox. -/
theorem Awaits.eq_none_of_ackDone (h : c.Awaits waits) (ha : c.ackDone ≠ none) :
    c.session.outstanding = none := by
  rw [Option.eq_none_iff_forall_ne_some]
  intro n hn
  exact ha (h n hn).2.1

/-- Others leave it so. -/
theorem NoRequest.awaits (h : NoRequest acks confirms c c') (ha : c.Awaits waits) :
    c'.Awaits waits := by
  intro n hn
  obtain ⟨hn', hs, hack⟩ := h.outstanding n hn
  obtain ⟨heq, hnone, hw⟩ := ha n hn'
  exact ⟨heq.trans hs.symm, hack.trans hnone, hw⟩

end Client

open Client

/-! ### One request -/

namespace Transfer

/-- Whether a delivery goes on and awaits an acknowledgement. -/
def waits (p : Progress (Except Fault Unit) Transfer) : Bool := p.rest?.any isUnacked

theorem awaits_begin (m : Cemi) {c : Client} (h : c.session.outstanding = none) :
    (begin m c).2.Awaits (waits (begin m c).1) := by
  unfold begin
  rcases c.session.tunnelingRequest_cases m with ⟨f, hr⟩ | ⟨-, hr⟩
  · simp only [hr]
    exact awaits_of_eq_none h _
  · simp only [hr, sendCopy]
    generalize hb : ({ c with session := _, ackDone := _, confirmation := _ } : Client) = b
    rcases b.transmit_cases (c.request m) with ⟨f, ht⟩ | ht
    · simp only [Client.request] at ht
      simp only [ht]
      exact awaits_of_eq_none (b.outstanding_transportFailed f) _
    · simp only [Client.request] at ht
      simp only [ht]
      subst hb
      rintro n ⟨⟩
      exact ⟨rfl, rfl, rfl⟩

theorem awaits_poll (t : Transfer) {c : Client} (h : c.Awaits t.isUnacked) :
    (t.poll c).2.Awaits (waits (t.poll c).1) := by
  have hnone {c' : Client} (hs : c'.session = c.session)
      (ho : c.session.outstanding = none) (w : Bool) : c'.Awaits w :=
    awaits_of_eq_none (by rw [hs, ho]) w
  cases t with
  | awaitingAck copy attempt deadline =>
    cases ha : c.ackDone with
    | some result =>
      have ho := h.eq_none_of_ackDone (by simp [ha])
      obtain f | u := result
      · simp only [poll, ha]
        exact hnone (by rfl) ho _
      · simp only [poll, ha, acknowledged]
        split
        · split <;> exact hnone (by rfl) ho _
        · exact hnone (by rfl) ho _
    | none =>
      simp only [poll, ha]
      split
      · unfold ackExpired
        split
        · unfold sendCopy
          rcases c.transmit_cases copy with ⟨f, ht⟩ | ht
          · simp only [ht]
            exact awaits_of_eq_none (c.outstanding_transportFailed f) _
          · simp only [ht]
            exact h
        · exact awaits_of_eq_none rfl _
      · exact h
  | awaitingConfirmation deadline =>
    have ho := Awaits.eq_none h
    simp only [poll]
    split
    · exact hnone (by rfl) ho _
    · split <;> exact hnone (by rfl) ho _

/-- **What the mailboxes say is so**, where `acked` and `confirmed` say whether the request
was acknowledged and confirmed. -/
structure Backed (acked confirmed : Prop) (t : Transfer) (c : Client) : Prop where
  ackDone : t.isUnacked = true → c.ackDone = some (.ok ()) → acked
  acked : t.isUnacked = false → acked
  confirmation : c.confirmation = some (.ok ()) → confirmed

variable {c c' : Client} {t : Transfer} {acked confirmed acked' confirmed' : Prop}

/-- What arrives may say more. -/
theorem Backed.noRequest {acks confirms : Bool} (h : t.Backed acked confirmed c)
    (hno : NoRequest acks confirms c c') (ha : acked → acked') (hc : confirmed → confirmed')
    (hacks : acks = true → acked') (hconfirms : confirms = true → confirmed') :
    t.Backed acked' confirmed' c' := by
  refine ⟨fun ht hd => ?_, fun ht => ha (h.acked ht), fun hd => ?_⟩
  · exact (hno.ackDone hd).elim (fun hd => ha (h.ackDone ht hd)) hacks
  · exact (hno.confirmation hd).elim (fun hd => hc (h.confirmation hd)) hconfirms

/-- When a delivery begins the mailboxes are empty, and it does not succeed at once. -/
theorem backed_begin (m : Cemi) (c : Client) :
    (∀ t, (begin m c).1 = .waiting t → t.Backed False False (begin m c).2) ∧
      (begin m c).1 ≠ .done (.ok ()) := by
  have h := opening_begin m c
  generalize begin m c = p at h
  obtain ⟨progress, c'⟩ := p
  cases h with
  | sent hc =>
    refine ⟨?_, by simp⟩
    rintro t ⟨⟩
    exact ⟨by rintro - ⟨⟩, by rintro ⟨⟩, by rintro ⟨⟩⟩
  | ended f hb hc => exact ⟨by rintro t ⟨⟩, by simp⟩

/-- **What the sender concludes from the mailboxes is so**, and a delivery that succeeds was
acknowledged, and confirmed if confirmations are awaited. -/
theorem Backed.poll (h : t.Backed acked confirmed c) :
    (∀ t', (t.poll c).1 = .waiting t' → t'.Backed acked confirmed (t.poll c).2) ∧
      ((t.poll c).1 = .done (.ok ()) →
        acked ∧ (c.config.awaitConfirmation = true → confirmed)) := by
  cases t with
  | awaitingAck copy attempt deadline =>
    cases ha : c.ackDone with
    | some result =>
      obtain f | u := result
      · simp [Transfer.poll, ha]
      · have hacked : acked := h.ackDone rfl ha
        simp only [Transfer.poll, ha, acknowledged]
        split
        · split
          · rename_i result hresult
            refine ⟨by simp, ?_⟩
            rintro ⟨⟩
            exact ⟨hacked, fun _ => h.confirmation hresult⟩
          · refine ⟨?_, by simp⟩
            rintro t' ⟨⟩
            exact ⟨by rintro ⟨⟩, fun _ => hacked, h.confirmation⟩
        · rename_i hconfig
          exact ⟨by simp, fun _ => ⟨hacked, fun hc => absurd hc hconfig⟩⟩
    | none =>
      simp only [Transfer.poll, ha]
      split
      · unfold ackExpired
        split
        · unfold sendCopy
          rcases c.transmit_cases copy with ⟨f, ht⟩ | ht
          · simp [ht]
          · simp only [ht]
            refine ⟨?_, by simp⟩
            rintro t' ⟨⟩
            exact ⟨fun _ hd => by simp [ha] at hd, by rintro ⟨⟩, h.confirmation⟩
        · simp
      · refine ⟨?_, by simp⟩
        rintro t' ⟨⟩
        exact h
  | awaitingConfirmation deadline =>
    have hacked : acked := h.acked rfl
    simp only [Transfer.poll]
    split
    · rename_i result hresult
      refine ⟨by simp, ?_⟩
      rintro ⟨⟩
      exact ⟨hacked, fun _ => h.confirmation hresult⟩
    · split
      · simp
      · refine ⟨?_, by simp⟩
        rintro t' ⟨⟩
        exact h

end Transfer

/-! ### The sender -/

namespace Sender

/-- Whether a sender awaits an acknowledgement. -/
def isUnacked : Sender → Bool
  | .delivering _ t => t.isUnacked
  | _ => false

theorem exists_of_isUnacked {s : Sender} (h : s.isUnacked = true) :
    ∃ job copy attempt deadline, s = .delivering job (.awaitingAck copy attempt deadline) := by
  cases s with
  | delivering job t =>
    cases t with
    | awaitingAck copy attempt deadline => exact ⟨job, copy, attempt, deadline, rfl⟩
    | awaitingConfirmation deadline => cases h
  | _ => cases h

/-- A sender that delivers nothing awaits no acknowledgement. -/
theorem any_isUnacked_eq_false {s : Option Sender} (h : s.bind Sender.job? = none) :
    s.any Sender.isUnacked = false := by
  obtain _ | _ | _ | _ := s
  all_goals first | rfl | cases h

/-- To finish with a request leaves the session and the mailbox as they are. -/
theorem awaits_follow (job : Job) (p : Progress (Except Fault Unit) Transfer × Client)
    (h : p.2.Awaits (Transfer.waits p.1)) : (follow job p).2.Awaits (follow job p).1.isUnacked := by
  obtain ⟨result | t, c⟩ := p
  · have ho : c.session.outstanding = none := Awaits.eq_none h
    refine awaits_of_eq_none ?_ _
    rw [follow, session_finish, ho]
  · exact h

theorem awaits_takeJob {c : Client} (h : c.Awaits false) :
    (takeJob c).2.Awaits (takeJob c).1.isUnacked := by
  unfold takeJob
  cases c.queue.pop? with
  | none => exact h
  | some r => exact awaits_follow _ _ (Transfer.awaits_begin r.1.message h.eq_none)

/-- **The sender leaves no request outstanding** but the one whose acknowledgement it
awaits. -/
theorem awaits_poll (s : Sender) {c : Client} (h : c.Awaits s.isUnacked) :
    (s.poll c).2.Awaits (s.poll c).1.isUnacked := by
  cases s with
  | idle => exact awaits_takeJob h
  | delivering job t => exact awaits_follow _ _ (t.awaits_poll h)
  | resting deadline =>
    simp only [poll]
    split
    · exact awaits_takeJob h
    · exact h

/-- A sender that is stopped gives up its request. -/
theorem awaits_cancel (s : Sender) {c : Client} (h : c.Awaits s.isUnacked) (waits : Bool) :
    (s.cancel c).Awaits waits := by
  refine awaits_of_eq_none ?_ waits
  cases s with
  | delivering job t =>
    simp only [cancel, job?, dropJob_eq]
    rfl
  | _ => exact Awaits.eq_none h

end Sender

end KnxIp
