import KnxIp.Proofs.Host.Deliveries

/-!
# What confirms a request

A client that awaits confirmations tells a call that all is well only after the gateway has
confirmed something. That this is what the call has asked for does not follow: a confirmation has
no number, and the sender does not compare it with the request. What it does is to empty the
mailbox before it sends the first copy, so that no confirmation counts that came earlier. One that
comes later counts, whatever it confirms (`KnxIp.Deliveries.exists_confirmed_by_another`: it was
for a request that had been given up before).

So much can be said: whatever call is told that all is well, its request was delivered, and the
last confirmation that came since the first copy was sent tells of no error. If no confirmation of
something else came meanwhile, this one was for the request.

## Main statements

* `KnxIp.Deliveries.confirmations_run`: after every run this holds of all that calls were told, if
  confirmations are awaited.
* `KnxIp.Deliveries.exists_confirmed_by_another`: a run in which a call is told that all is well,
  and no confirmation of its request ever came.
-/

namespace KnxIp

/-- **A message confirms a request** if it repeats what was to be sent, and to whom. -/
def Cemi.Confirms (said request : Cemi) : Prop :=
  said.telegram.destination = request.telegram.destination ∧
    said.telegram.apci = request.telegram.apci ∧ said.telegram.data = request.telegram.data

instance (said request : Cemi) : Decidable (said.Confirms request) :=
  inferInstanceAs (Decidable (_ ∧ _ ∧ _))

open Host

namespace Ledger

/-- **What a ledger tells it will always tell.** -/
theorem grows_note (L : Ledger) (m : Moment) : L.Grows (L.note m) := by
  obtain ⟨deed, c, c'⟩ := m
  cases deed with
  | receive d =>
    rw [note_receive]
    exact (L.grows_receive c d).trans (grows_requeue _ _ _)
  | send s =>
    have hwork : L.Grows (((L.takeFor s c).requeue c'.queue.toList none).emit ⟨.send s, c, c'⟩) :=
      ((L.grows_takeFor s c).trans (grows_requeue _ _ _)).trans (grows_emit _ _)
    simp only [note]
    split
    · exact hwork.trans (grows_conclude _ _)
    · exact hwork
  | stop s =>
    simp only [note]
    split
    · exact L.grows_conclude _
    · exact .refl L
  | call k =>
    rw [note_call]
    exact (Fates.grows_call L c k).trans (grows_requeue _ _ _)
  | cancel k => exact .refl L
  | other =>
    rw [note_other]
    exact L.grows_requeue _ _

end Ledger

/-! ### One delivery -/

namespace Delivery

/-- **Confirmations count** only from the first copy on. -/
def IsTimely (d : Delivery) : Prop := ∀ said ∈ d.confirmations, 0 < said.2

/-- **The request was confirmed**: a confirmation of it came after it was sent, and tells of no
error. -/
def IsConfirmed (d : Delivery) : Prop :=
  ∃ said ∈ d.confirmations, 0 < said.2 ∧ said.1.Confirms d.job.message ∧ said.1.verdict = .ok ()

/-- **Enough was confirmed** for the call to be told that all is well. -/
structure IsCertified (d : Delivery) : Prop where
  /-- The last confirmation tells of no error. -/
  last : ∃ said, d.confirmations.getLast? = some said ∧ 0 < said.2 ∧ said.1.verdict = .ok ()
  /-- It was for the request, if none was for something else. -/
  confirmed : (∀ said ∈ d.confirmations, said.1.Confirms d.job.message) → d.IsConfirmed

variable {d : Delivery} {m : Moment}

theorem IsTimely.note (h : d.IsTimely) (hm : m.confirmation? = none ∨ d.copies ≠ []) :
    (d.note m).IsTimely := by
  intro said hsaid
  rcases List.mem_append.mp hsaid with hold | hnew
  · exact h said hold
  · obtain ⟨message, hmessage, rfl⟩ := List.mem_map.mp hnew
    rcases hm with hnone | hcopies
    · simp [hnone] at hmessage
    · exact List.length_pos_of_ne_nil hcopies

theorem IsTimely.isCertified (h : d.IsTimely)
    (hlast : ∃ said, d.confirmations.getLast? = some said ∧ said.1.verdict = .ok ()) :
    d.IsCertified := by
  obtain ⟨said, hsaid, hverdict⟩ := hlast
  have hmem : said ∈ d.confirmations := List.mem_of_getLast? hsaid
  exact ⟨⟨said, hsaid, h said hmem, hverdict⟩,
    fun hall => ⟨said, hmem, h said hmem, hall said hmem, hverdict⟩⟩

end Delivery

/-- **A turn of the sender ends a request** with a result. -/
structure Juncture.Ends (v : Juncture) (L : Ledger) (t : Nat) (result : Except Fault Unit) :
    Prop where
  ticket : v.delivery.ticket = some t
  job : L.entered[t]? = some v.delivery.job
  outcome : v.outcome = .returns result

theorem Juncture.Ends.grows {v : Juncture} {L L' : Ledger} {t : Nat} {result : Except Fault Unit}
    (h : v.Ends L t result) (hL : L.Grows L') : v.Ends L' t result :=
  ⟨h.ticket, hL.getElem? h.job, h.outcome⟩

/-- **What a call was told is certified**: its request was delivered with that result, and enough
was confirmed. -/
def Return.IsCertified (r : Return) (D : Deliveries) : Prop :=
  ∃ t, r.ticket = some t ∧
    ∃ v ∈ D.junctures, v.Ends D.ledger t r.result ∧ v.delivery.IsCertified

namespace Deliveries

variable {config : Config} {D : Deliveries} {S S' : Stage} {m : Moment} {c : Client} {s : Sender}
  {ks : List PendingCall} {t : Nat} {result : Except Fault Unit}

/-! ### Since when confirmations count -/

/-- What is delivered, or was delivered in a turn of the sender, has heard only what counts. -/
structure Timely (D : Deliveries) : Prop where
  current : ∀ d, D.current = some d → d.IsTimely
  junctures : ∀ v ∈ D.junctures, v.delivery.IsTimely

/-- The sender has its turn with what is delivered, or with something new. -/
theorem Timely.juncture {v : Juncture} (h : D.Timely) (hv : D.juncture? m = some v) :
    v.delivery.IsTimely ∧ m.confirmation? = none := by
  obtain ⟨deed, c, c'⟩ := m
  unfold juncture? at hv
  cases deed with
  | send s =>
    obtain ⟨⟨job, p, b⟩, -, rfl⟩ := Option.map_eq_some_iff.mp hv
    refine ⟨?_, rfl⟩
    cases hd : D.current with
    | none => rintro said ⟨⟩
    | some d => exact h.current d hd
  | stop s =>
    obtain ⟨d, hd, rfl⟩ := Option.map_eq_some_iff.mp hv
    exact ⟨h.current d hd, rfl⟩
  | _ => cases hv

theorem Timely.note (h : D.Timely) (hcopies : ∀ d, D.current = some d → d.copies ≠ []) :
    (D.note m).Timely := by
  refine ⟨fun d hd => ?_, fun v hv => ?_⟩
  · simp only [Deliveries.note] at hd
    split at hd
    · rename_i v hv
      obtain ⟨htimely, hnone⟩ := h.juncture hv
      split at hd
      · obtain rfl := Option.some.inj hd
        exact htimely.note (Or.inl hnone)
      · cases hd
    · obtain ⟨d', hd', rfl⟩ := Option.map_eq_some_iff.mp hd
      exact (h.current d' hd').note (Or.inr (hcopies d' hd'))
  · rcases List.mem_append.mp hv with hv | hv
    · exact h.junctures v hv
    · exact (h.juncture (Option.mem_toList.mp hv)).1

/-! ### How requests have ended -/

/-- **Whatever has ended** was let go, or delivered to its end. -/
def Ended (D : Deliveries) : Prop :=
  ∀ t result, (t, result) ∈ D.ledger.produced →
    result = .error Client.lost ∨ ∃ v ∈ D.junctures, v.Ends D.ledger t result

/-- It is enough to look at what ends now. -/
theorem Ended.note (h : D.Ended)
    (hnew : ∀ t result, (t, result) ∈ (D.ledger.note m).produced →
      (t, result) ∈ D.ledger.produced ∨ result = .error Client.lost ∨
        ∃ v ∈ D.juncture? m, v.Ends (D.ledger.note m) t result) : (D.note m).Ended := by
  intro t result hr
  rcases hnew t result hr with hold | hlost | ⟨v, hv, hends⟩
  · exact (h t result hold).imp_right fun ⟨v, hv, hends⟩ =>
      ⟨v, List.mem_append_left _ hv, hends.grows (D.ledger.grows_note m)⟩
  · exact Or.inl hlost
  · exact Or.inr ⟨v, List.mem_append_right _ (Option.mem_toList.mpr hv), hends⟩

/-- **The sender is done with a request** in a turn that ends it. -/
theorem Kept.ends {job : Job} {b : Client} (h : Kept config D ⟨c, some s, ks⟩)
    (ht : (D.ledger.takeFor s c).inFlight = some t)
    (hw : s.work? c = some (job, .done result, b)) :
    ∃ v ∈ D.juncture? ⟨.send s, c, (s.poll c).2⟩,
      v.Ends (D.ledger.note ⟨.send s, c, (s.poll c).2⟩) t result := by
  have hconfig : c.config = config := h.wired.disciplined.config_eq
  subst hconfig
  obtain ⟨d, hd, rfl, hticket, -⟩ := h.minds.work h.awaits hw
  have hentered : D.ledger.entered[t]? = some d.job := by
    obtain ⟨b', -, hfits, -⟩ := h.settled.fits.work hw
    obtain ⟨queued, inFlight, begun, heq⟩ := D.ledger.takeFor_eq s c
    have hjob := hfits.job
    rw [ht, heq] at hjob
    exact Option.some.inj hjob
  refine ⟨⟨d, .returns result, ⟨.send s, c, (s.poll c).2⟩⟩, ?_, hticket.trans ht, ?_, rfl⟩
  · simp [juncture?, hw, hd, Outcome.of]
  · exact (D.ledger.grows_note _).getElem? hentered

theorem Ended.turn (turn : Turn S m S') (h : D.Ended) (hkept : Kept config D S) :
    (D.note m).Ended := by
  have hothers (hm : m.deed.isOfSender = false) : (D.note m).Ended :=
    h.note fun t result hr =>
      ((D.ledger.note_of_others hm).2 _ hr).imp_right fun ⟨_, hlost⟩ => Or.inl hlost
  cases turn with
  | send c s ks =>
    refine h.note fun t result hr => ?_
    rcases Ledger.mem_produced_note_send hr with hold | ⟨-, hlost⟩ | ⟨ht, job, b, hw⟩
    · exact Or.inl hold
    · exact Or.inr (Or.inl hlost)
    · exact Or.inr (Or.inr (hkept.ends ht hw))
  | stop s ks hb hq hu =>
    refine h.note fun t result hr => ?_
    rw [Ledger.note_stop] at hr
    split at hr
    · exact (Ledger.mem_produced_conclude hr).imp_right fun ⟨_, hlost⟩ => Or.inl hlost
    · exact Or.inl hr
  | _ => exact hothers rfl

/-! ### Every run -/

/-- What is delivered was sent. -/
theorem Kept.copies_ne_nil {d : Delivery} (h : Kept config D S) (hd : D.current = some d) :
    d.copies ≠ [] := by
  have hminds := h.minds
  generalize S.sender = s at hminds
  cases hminds with
  | idle hs hnone => cases hnone.symm.trans hd
  | delivering d' t hd' ht hst hh =>
    obtain rfl := Option.some.inj (hd'.symm.trans hd)
    exact hst.copies_ne_nil

/-- **Whatever calls were told is well** is certified. -/
def IsCertified (D : Deliveries) : Prop :=
  ∀ r ∈ D.ledger.returned, r.result = .ok () → r.IsCertified D

/-- **After every run** whatever calls were told is well is certified, if confirmations are
awaited. -/
theorem confirmations_run (config : Config) (hconfig : config.awaitConfirmation = true)
    (actions : List Action) : (of ((Host.fresh config).history actions)).IsCertified := by
  intro r hr hok
  obtain ⟨hkept, htimely, hended⟩ :=
    fold_induction (P := fun D S => Kept config D S ∧ D.Timely ∧ D.Ended) config
      ⟨kept_fresh config, ⟨by rintro d ⟨⟩, by rintro v ⟨⟩⟩, by rintro t result ⟨⟩⟩
      (fun turn ⟨hkept, htimely, hended⟩ =>
        ⟨hkept.turn turn, htimely.note fun d => hkept.copies_ne_nil, hended.turn turn hkept⟩)
      actions
  obtain ⟨t, hticket, hproduced⟩ := hkept.settled.told r hr
  obtain ⟨v, hv, hends⟩ := (hended t _ hproduced).resolve_left (by rw [hok]; rintro ⟨⟩)
  have hwell := (hkept.junctures v hv).delivered (hok ▸ hends.outcome)
  exact ⟨t, hticket, v, hv, hends, (htimely.junctures v hv).isCertified (hwell.2 hconfig)⟩

/-- The client of a gateway awaits confirmations. -/
def awaiting (gateway : Endpoint) : Config :=
  { Config.ofGateway gateway with awaitConfirmation := true }

/-- The gateway confirms a request. -/
def confirming (number : UInt8) (request : Cemi) : Frame :=
  .tunnelingRequest (.ofCemi 7 number { request with code := .confirmation })

/-- A message is sent, and the confirmation comes with the acknowledgement. -/
def confirmedInTime (gateway : Endpoint) : List Action :=
  Verdicts.sentThen gateway
    [.tunnelingAck ⟨7, 0, 0⟩, confirming 0 (.groupWrite ⟨0⟩ ⟨0x0901⟩ (.ofLowBits 1))]

/-- If the confirmation comes in time, the request was confirmed. -/
theorem confirmations_in_time :
    let gateway : Endpoint := ⟨⟨192, 168, 1, 10⟩, 3671⟩
    let D := of ((Host.fresh (awaiting gateway)).history (confirmedInTime gateway))
    (awaiting gateway).awaitConfirmation = true ∧
      ∃ r ∈ D.ledger.returned, r.number = 1 ∧ r.result = .ok () ∧ r.IsCertified D ∧
        ∀ v ∈ D.junctures, v.outcome = .returns (.ok ()) → v.delivery.IsConfirmed := by
  intro gateway D
  have htold : ∃ r ∈ D.ledger.returned, r.number = 1 ∧ r.result = .ok () := by decide +kernel
  have hconfirmed : ∀ v ∈ D.junctures, v.outcome = .returns (.ok ()) →
      v.delivery.IsConfirmed := by
    unfold Delivery.IsConfirmed
    decide +kernel
  have hcertified : D.IsCertified :=
    confirmations_run (awaiting gateway) rfl (confirmedInTime gateway)
  -- What was evaluated is known, and need not be evaluated again.
  clear_value D
  obtain ⟨r, hr, hn, hok⟩ := htold
  exact ⟨rfl, r, hr, hn, hok, hcertified r hr hok, hconfirmed⟩

/-- A message is sent and acknowledged, but not confirmed as long as the sender waits. Then
another one is sent; the confirmation of the first arrives, and the acknowledgement of the
second. -/
def confirmedLate (gateway : Endpoint) : List Action :=
  let late := confirming 0 (.groupWrite ⟨0⟩ ⟨0x0901⟩ (.ofLowBits 1))
  let ack : Frame := .tunnelingAck ⟨7, 1, 0⟩
  Verdicts.sentThen gateway [.tunnelingAck ⟨7, 0, 0⟩] ++
    [.elapse 3000, .pollDriver, .pollCall 1, .elapse 25,
      .begin 2 (.send (.groupWrite ⟨0⟩ ⟨0x0902⟩ (.ofLowBits 1))), .pollCall 2, .pollDriver,
      .arrive ⟨late.octets, gateway⟩, .arrive ⟨ack.octets, gateway⟩, .pollDriver, .pollCall 2]

/-- **It does happen that a request is confirmed by another one's confirmation**: the first call
is told that no confirmation came, and the second that all is well, though none came for it. -/
theorem exists_confirmed_by_another : ∃ (config : Config) (actions : List Action),
    config.awaitConfirmation = true ∧
      let history := (Host.fresh config).history actions
      let L := (of history).ledger
      let request : Cemi := .groupWrite ⟨0⟩ ⟨0x0902⟩ (.ofLowBits 1)
      (∃ r ∈ L.returned, r.number = 1 ∧ r.result = .error (.timeout .confirmation)) ∧
        (∃ r ∈ L.returned, r.number = 2 ∧ r.result = .ok () ∧
          (r.ticket.bind (L.entered[·]?)).map Job.message = some request) ∧
        (∀ m ∈ history, ∀ said ∈ m.confirmation?.toList, ¬ said.Confirms request) ∧
        .call 2 (.ok .nothing) ∈ ((Host.fresh config).run actions).finished := by
  let gateway : Endpoint := ⟨⟨192, 168, 1, 10⟩, 3671⟩
  refine ⟨awaiting gateway, confirmedLate gateway, rfl, ?_⟩
  decide +kernel

end Deliveries

end KnxIp
