import KnxIp.Proofs.Host.Actions
import KnxIp.Proofs.Registry.Bindings
import KnxIp.Proofs.Registry.Reads

/-!
# What a host holds of its registry

A registry counts handles and keeps places for reads, and it relies on whoever has been given one
to give it up once. This module shows that a host does so. The handles that are held are those of
its devices, and the reads that are held are those of its calls: a call gives up its read when it
is answered, when its question cannot be delivered, when its time runs out, and when it is
stopped.

A call that waits for the answer to a read no longer knows for which group, or since when. That
it can be told from the history – it is the last question of a call of its number
(`KnxIp.Host.question?`) – is what makes it possible to say which answer is the right one.

## Main statements

* `KnxIp.Host.held_run`: after every run, what is held is what has been asked for and has not
  ended.
* `KnxIp.Host.bindings_run`: bindings are counted exactly, and the handles are those of the
  devices.
* `KnxIp.Host.reads_run`: reads are answered exactly, and what a call answers that reads is the
  answer to its own question.
-/

namespace KnxIp

open Registry

/-! ### The reads of calls -/

/-- The place of the read that is held. -/
def Reading.place? : Reading → Option ReadId
  | .start _ => none
  | .sending read _ => some read
  | .awaiting read _ => some read

namespace Call

/-- The place of the read that a call holds. -/
def place? : Call → Option ReadId
  | .read _ stage => stage.place?
  | _ => none

/-- The question of a call that is about to ask one: the group that is read, and how many
telegrams have been heard by then. -/
def asks? (heard : List News) : Call → Option (GroupAddress × Nat)
  | .read _ (.start address) => some (address, heard.length)
  | _ => none

end Call

/-- The read of a call that has asked a question and has a place. -/
def inquiry? (place : Option ReadId) (question : Option (GroupAddress × Nat)) : Option Inquiry :=
  place.bind fun id => question.map fun q => ⟨q.1, id, q.2⟩

namespace Client

/-- **What is held of the registry of a client**, which has been used in this way. -/
def Holds (c : Client) (ps : List Point) (qs : List Inquiry) : Prop :=
  c.registry.InUse ps qs c.heard

variable {c c' : Client} {ps : List Point} {qs : List Inquiry}

theorem Holds.of_hearing (h : c.Holds ps qs) (hc : c'.hearing = c.hearing) : c'.Holds ps qs := by
  obtain ⟨hr, hheard⟩ := Prod.mk.inj hc
  rwa [Holds, hr, hheard]

/-- What is heard takes nothing from anybody. -/
theorem Holds.listens (h : c.Holds ps qs) (hc : c.Listens c') : c'.Holds ps qs :=
  Listens.induction (P := fun x => x.1.InUse ps qs x.2) hc (fun _ t hx => hx.hear t) h

end Client

open Client

namespace Reading

variable {c c' : Client} {ps : List Point} {q : Inquiry} {qs : List Inquiry} {read : ReadId}
  {r : Progress (Except Fault Apdu) Reading × Client}

/-- **How a call goes on that holds a read**: it goes on to hold it, or it ends and gives it up,
and if it has an answer then that is what was found on its place. -/
inductive Goes (read : ReadId) (c : Client) :
    Progress (Except Fault Apdu) Reading × Client → Prop
  | waits (k : Reading) (h : k.place? = some read) : Goes read c (.waiting k, c)
  | fails (f : Fault) :
      Goes read c (.done (.error f), { c with registry := c.registry.endRead read })
  | succeeds (data : Apdu) (h : c.registry.answer? read = some data) :
      Goes read c (.done (.ok data), { c with registry := c.registry.endRead read })

theorem goes_await (h : Goes read c r) :
    Goes read c ((await read c).getD r) := by
  unfold await
  cases hanswer : c.registry.answer? read with
  | some data => exact .succeeds data hanswer
  | none => exact h

theorem goes_delivered (read : ReadId) (p : Progress (Except Fault Unit) Sending × Client) :
    Goes read p.2 (delivered read p) := by
  obtain ⟨(f | _) | question, c⟩ := p
  · exact .fails f
  · exact goes_await (.waits _ rfl)
  · exact .waits _ rfl

/-- A call that holds a read has a turn. -/
theorem goes_poll {k : Reading} (hk : k.place? = some read) (c : Client) :
    ∃ c', c'.hearing = c.hearing ∧ Goes read c' (k.poll c) := by
  cases k with
  | start address => cases hk
  | sending read' question =>
    obtain rfl := Option.some.inj hk
    exact ⟨_, question.hearing_poll c, goes_delivered read' _⟩
  | awaiting read' deadline =>
    obtain rfl := Option.some.inj hk
    refine ⟨c, rfl, goes_await ?_⟩
    split
    · exact .fails _
    · exact .waits _ rfl

/-- A call that begins is refused, or it holds a read. -/
theorem goes_poll_start (address : GroupAddress) (c : Client) :
    (∃ f, (start address).poll c = (.done (.error f), c)) ∨
      ∃ read registry c', c.registry.beginRead address = .ok (read, registry) ∧
        c'.hearing = (registry, c.heard) ∧ Goes read c' ((start address).poll c) := by
  simp only [poll]
  cases hr : c.registry.beginRead address with
  | error f => exact .inl ⟨f, rfl⟩
  | ok r =>
    exact .inr ⟨r.1, r.2, _, rfl, Sending.hearing_poll { c with registry := r.2 } _,
      goes_delivered r.1 _⟩

/-- What a call holds that has had a turn. -/
theorem Goes.holds (hg : Goes q.place c r) (h : c.Holds ps (q :: qs)) :
    r.2.Holds ps ((inquiry? (r.1.rest?.bind place?) (some (q.address, q.since))).toList ++ qs) := by
  cases hg with
  | waits k hk => simpa [inquiry?, hk] using h
  | fails | succeeds => exact h.endRead

theorem hearing_cancel (k : Reading) (c : Client) :
    (k.cancel c).hearing =
      ((k.place?.map c.registry.endRead).getD c.registry, c.heard) := by
  cases k with
  | start address => rfl
  | sending read question =>
    obtain ⟨hr, hheard⟩ := Prod.mk.inj (question.hearing_cancel c)
    exact Prod.ext (congrArg (Registry.endRead · read) hr) hheard
  | awaiting read deadline => rfl

end Reading

namespace Writing

variable {c : Client} {ps : List Point} {qs : List Inquiry}

theorem holds_queued (p : Point) (v : Value) {r : Progress (Except Fault Unit) Queueing × Client}
    (hr : r.2.hearing = c.hearing) (h : c.Holds ps qs) : (queued p v r).2.Holds ps qs := by
  have h' := h.of_hearing hr
  obtain ⟨(f | _) | request, c'⟩ := r
  · exact h'
  · exact InUse.store h' p.binding v
  · exact h'

/-- To write to a point stores a value. -/
theorem holds_poll (p : Point) (k : Writing) (h : c.Holds ps qs) :
    (k.poll p c).2.Holds ps qs := by
  cases k with
  | start setting =>
    simp only [poll]
    cases p.dpt.encode (valueOf p setting c) with
    | error f => exact h
    | ok data => exact holds_queued p _ (Queueing.hearing_poll c _) h
  | queueing v request => exact holds_queued p v (request.hearing_poll c) h

end Writing

/-- To wait for a value of a point takes the one that comes. -/
theorem Updating.holds_poll {c : Client} {ps : List Point} {qs : List Inquiry} (p : Point)
    (k : Updating) (h : c.Holds ps qs) : (k.poll p c).2.Holds ps qs := by
  cases k with
  | start => exact InUse.beginWait h p.binding
  | awaiting =>
    simp only [poll]
    cases hr : c.registry.takeUpdate? p.binding with
    | none => exact h
    | some r => exact InUse.takeUpdate h hr

namespace Call

variable {c : Client} {ps : List Point} {qs : List Inquiry} {question : Option (GroupAddress × Nat)}

/-- What goes on as a call that is no read holds no place. -/
theorem place?_rest_map {α β : Type} (p : Progress α β) (f : α → Except Fault Answer)
    {g : β → Call} (hg : ∀ b, (g b).place? = none) : ((p.map f g).rest?.bind place?) = none := by
  cases p with
  | done a => rfl
  | waiting b => exact hg b

/-- A call that asks a question has a turn. -/
theorem holds_poll_read (form : ReadForm) (stage : Reading)
    (hk : stage.place?.isSome → question.isSome)
    (h : c.Holds ps ((inquiry? stage.place? question).toList ++ qs)) :
    (stage.poll c).2.Holds ps ((inquiry? ((stage.poll c).1.rest?.bind Reading.place?)
      (((Call.read form stage).asks? c.heard).or question)).toList ++ qs) := by
  cases hp : stage.place? with
  | none =>
    cases stage with
    | start address =>
      rcases Reading.goes_poll_start address c with ⟨f, hf⟩ | ⟨read, registry, c', hr, hc', hg⟩
      · rw [hf]
        exact h
      · obtain ⟨hregistry, hheard⟩ := Prod.mk.inj hc'
        have hbegun : c'.Holds ps (⟨address, read, c.heard.length⟩ :: qs) := by
          rw [Holds, hregistry, hheard]
          exact InUse.beginRead h hr
        exact Reading.Goes.holds (q := ⟨address, read, c.heard.length⟩) hg hbegun
    | sending | awaiting => cases hp
  | some read =>
    have hasks : (Call.read form stage).asks? c.heard = none := by
      cases stage with
      | start address => cases hp
      | sending | awaiting => rfl
    obtain ⟨q, rfl⟩ := Option.isSome_iff_exists.mp (hk (by simp [hp]))
    obtain ⟨c', hc', hg⟩ := Reading.goes_poll hp c
    rw [hp] at h
    rw [hasks]
    exact Reading.Goes.holds (q := ⟨q.1, read, q.2⟩) hg (h.of_hearing hc')

/-- **A call has a turn**, and gives up its read, or begins one, or goes on to hold it. -/
theorem holds_poll (k : Call) (hk : k.place?.isSome → question.isSome)
    (h : c.Holds ps ((inquiry? k.place? question).toList ++ qs)) :
    (k.poll c).2.Holds ps ((inquiry? ((k.poll c).1.rest?.bind place?)
      ((k.asks? c.heard).or question)).toList ++ qs) := by
  have hnone : ((k.poll c).1.rest?.bind place?) = none → (k.poll c).2.Holds ps qs →
      (k.poll c).2.Holds ps ((inquiry? ((k.poll c).1.rest?.bind place?)
        ((k.asks? c.heard).or question)).toList ++ qs) := by
    intro hplace h'
    rw [hplace]
    exact h'
  cases k with
  | read form stage =>
    have hrest : ((Call.read form stage).poll c).1.rest?.bind place? =
        (stage.poll c).1.rest?.bind Reading.place? := by
      simp only [poll, Prod.map, Progress.rest?_map, Option.bind_map]
      rfl
    rw [hrest]
    exact holds_poll_read form stage hk h
  | connect stage =>
    exact hnone (place?_rest_map _ _ fun _ => rfl) (h.of_hearing (stage.hearing_poll c))
  | disconnect stage =>
    exact hnone (place?_rest_map _ _ fun _ => rfl) (h.of_hearing (stage.hearing_poll c))
  | close stage =>
    exact hnone (place?_rest_map _ _ fun _ => rfl) (h.of_hearing (stage.hearing_poll c))
  | send stage =>
    exact hnone (place?_rest_map _ _ fun _ => rfl) (h.of_hearing (stage.hearing_poll c))
  | enqueue stage =>
    exact hnone (place?_rest_map _ _ fun _ => rfl) (h.of_hearing (stage.hearing_poll c))
  | refused f => exact h
  | write p stage => exact hnone (place?_rest_map _ _ fun _ => rfl) (stage.holds_poll p h)
  | update p asNumber stage =>
    exact hnone (place?_rest_map _ _ fun _ => rfl) (stage.holds_poll p h)

/-- A call that holds a read after its turn has asked its question in that turn or before. -/
theorem isSome_of_rest (k : Call) (heard : List News) (hk : k.place?.isSome → question.isSome)
    (h : ((k.poll c).1.rest?.bind place?).isSome) :
    ((k.asks? heard).or question).isSome := by
  have hnone : ((k.poll c).1.rest?.bind place?) = none →
      ((k.asks? heard).or question).isSome := by
    intro hplace
    rw [hplace] at h
    cases h
  cases k with
  | read form stage =>
    cases stage with
    | start address => rfl
    | sending | awaiting => exact hk rfl
  | refused f => exact hnone rfl
  | _ => exact hnone (place?_rest_map _ _ fun _ => rfl)

/-- **A call is stopped**, and gives up its read. -/
theorem holds_cancel (k : Call) (hk : k.place?.isSome → question.isSome)
    (h : c.Holds ps ((inquiry? k.place? question).toList ++ qs)) : (k.cancel c).Holds ps qs := by
  cases k with
  | read form stage =>
    obtain ⟨hr, hheard⟩ := Prod.mk.inj (stage.hearing_cancel c)
    rw [Holds, cancel, hr, hheard]
    cases hp : stage.place? with
    | none => simpa [Holds, place?, hp, inquiry?] using h
    | some read =>
      obtain ⟨q, rfl⟩ := Option.isSome_iff_exists.mp (hk (by simp [place?, hp]))
      have hread : c.Holds ps (⟨q.1, read, q.2⟩ :: qs) := by
        simpa [place?, hp, inquiry?] using h
      exact InUse.endRead hread
  | send stage => exact h.of_hearing (stage.hearing_cancel c)
  | _ => exact h

end Call

namespace Host

/-! ### Questions in the history -/

/-- The question that a call of this number asks at a moment, if it asks one. -/
def Moment.question? (number : Nat) (m : Moment) : Option (GroupAddress × Nat) :=
  match m.deed with
  | .call k => if k.number = number then k.call.asks? m.before.heard else none
  | _ => none

/-- **The last question of a call** of this number. -/
def question? (ms : List Moment) (number : Nat) : Option (GroupAddress × Nat) :=
  ms.reverse.findSome? (Moment.question? number)

theorem question?_eq (ms : List Moment) (number : Nat) :
    question? ms number = said? (fun c k => k.asks? c.heard) ms number := by
  have hmoment : Moment.question? number = Moment.said? (fun c k => k.asks? c.heard) number := by
    funext m
    unfold Moment.question? Moment.said?
    cases m.deed <;> rfl
  rw [question?, said?, hmoment]

variable {ms ns : List Moment}

/-- When no call has a turn, no question is asked. -/
theorem question?_silent (hns : Silent ns) (ms : List Moment) (number : Nat) :
    question? (ms ++ ns) number = question? ms number := by
  rw [question?_eq, question?_eq, said?_silent hns]

theorem question?_turn (ms : List Moment) (k : PendingCall) (c c' : Client) (number : Nat) :
    question? (ms ++ [⟨.call k, c, c'⟩]) number =
      (if k.number = number then k.call.asks? c.heard else none).or (question? ms number) := by
  rw [question?_eq, question?_eq, said?_turn]

/-! ### Calls -/

/-- The read that a call holds, as it was begun in this history. -/
def inquiry? (ms : List Moment) (k : PendingCall) : Option Inquiry :=
  KnxIp.inquiry? k.call.place? (question? ms k.number)

/-- **What calls hold of the registry**: each the read that it has begun, if it has not ended. -/
structure Held (c : Client) (ps : List Point) (ks : List PendingCall) (ms : List Moment) :
    Prop where
  asked : ∀ k ∈ ks, k.call.place?.isSome → (question? ms k.number).isSome
  holds : c.Holds ps (ks.filterMap (inquiry? ms))

variable {c c' : Client} {ps : List Point} {ks pre post : List PendingCall} {k : PendingCall}

/-- When no call has a turn, every call holds what it held. -/
theorem Held.silent (h : Held c ps ks ms) (hns : Silent ns) : Held c ps ks (ms ++ ns) := by
  have hsame := question?_silent hns ms
  refine ⟨by simpa only [hsame] using h.asked, ?_⟩
  have hinquiry : inquiry? (ms ++ ns) = inquiry? ms := by
    funext k
    rw [inquiry?, inquiry?, hsame]
  rw [hinquiry]
  exact h.holds

theorem Held.listens (h : Held c ps ks ms) (hc : c.Listens c') : Held c' ps ks ms :=
  ⟨h.asked, h.holds.listens hc⟩

theorem filterMap_middle_perm {α β : Type} (f : α → Option β) (xs : List α) (x : α) (ys : List α) :
    ((xs ++ x :: ys).filterMap f).Perm ((f x).toList ++ (xs ++ ys).filterMap f) := by
  have hcons : (x :: (xs ++ ys)).filterMap f = (f x).toList ++ (xs ++ ys).filterMap f := by
    rw [List.filterMap_cons]
    cases f x <;> rfl
  rw [← hcons]
  exact List.perm_middle.filterMap f

/-- A call is stopped. -/
theorem Held.cancel (h : Held c ps (pre ++ k :: post) ms) :
    Held (k.call.cancel c) ps (pre ++ post) ms where
  asked k' hk' := h.asked k' (mem_of_others rfl hk')
  holds := by
    refine k.call.holds_cancel (h.asked k (by simp)) ?_
    exact InUse.perm h.holds (.refl _) (filterMap_middle_perm _ _ _ _)

/-- Calls are stopped, one after the other. -/
theorem Held.cancelAll (p : PendingCall → Bool) (pre : List PendingCall)
    (h : Held c ps (pre ++ ks) ms) :
    Held ((ks.filter p).foldl (fun c k => k.call.cancel c) c) ps
      (pre ++ ks.filter fun k => !p k) ms := by
  induction ks generalizing pre c with
  | nil => exact h
  | cons k ks ih =>
    by_cases hk : p k
    · rw [List.filter_cons_of_pos hk, List.filter_cons_of_neg (by simpa using hk), List.foldl_cons]
      exact ih pre h.cancel
    · rw [List.filter_cons_of_neg hk, List.filter_cons_of_pos (by simpa using hk)]
      -- The call stays, so from here on it belongs to those that come first.
      rw [List.append_cons] at h ⊢
      exact ih (pre ++ [k]) h

/-- A call has a turn. -/
theorem Held.call (h : Held c ps (pre ++ k :: post) ms)
    (hother : ∀ k' ∈ pre ++ post, k'.number ≠ k.number) :
    Held (k.call.poll c).2 ps (pre ++ (k.rest c ++ post))
      (ms ++ [⟨.call k, c, (k.call.poll c).2⟩]) := by
  have hquestion := question?_turn ms k c (k.call.poll c).2
  have hself := hquestion k.number
  rw [if_pos rfl] at hself
  have hsame : ∀ k' ∈ pre ++ post, question? (ms ++ [⟨.call k, c, (k.call.poll c).2⟩]) k'.number =
      question? ms k'.number := fun k' hk' => by
    rw [hquestion, if_neg (hother k' hk').symm, Option.none_or]
  -- What the question was matters to this call only, so it is enough to know both of these.
  generalize ms ++ [⟨.call k, c, (k.call.poll c).2⟩] = ms' at hself hsame ⊢
  have hasked : k.call.place?.isSome → (question? ms k.number).isSome := h.asked k (by simp)
  constructor
  case asked =>
    intro k' hk' hplace
    have hmem : k' ∈ k.rest c ∨ k' ∈ pre ++ post := by
      simp only [List.mem_append] at hk' ⊢
      tauto
    rcases hmem with hrest | hk'
    · cases hcall : (k.call.poll c).1.rest? with
      | none => simp [PendingCall.rest, hcall] at hrest
      | some call =>
        obtain rfl : k' = { k with call := call } := by simpa [PendingCall.rest, hcall] using hrest
        rw [hself]
        refine Call.isSome_of_rest (c := c) k.call c.heard hasked ?_
        rwa [hcall]
    · rw [hsame k' hk']
      exact h.asked k' (mem_of_others rfl hk') hplace
  case holds =>
    have hrest : (k.rest c).filterMap (inquiry? ms') =
        (KnxIp.inquiry? ((k.call.poll c).1.rest?.bind Call.place?)
          ((k.call.asks? c.heard).or (question? ms k.number))).toList := by
      rw [← hself, PendingCall.rest]
      cases (k.call.poll c).1.rest? with
      | none => rfl
      | some call =>
        simp only [Option.map_some, Option.toList_some, List.filterMap_cons, List.filterMap_nil,
          Option.bind_some, inquiry?]
        cases KnxIp.inquiry? call.place? (question? ms' k.number) <;> rfl
    have hothers : (pre ++ post).filterMap (inquiry? ms') =
        (pre ++ post).filterMap (inquiry? ms) :=
      List.filterMap_congr fun k' hk' => by rw [inquiry?, inquiry?, hsame k' hk']
    have hbefore : c.Holds ps ((KnxIp.inquiry? k.call.place? (question? ms k.number)).toList ++
        (pre ++ post).filterMap (inquiry? ms)) :=
      InUse.perm h.holds (.refl _) (filterMap_middle_perm _ _ _ _)
    have hnow := k.call.holds_poll hasked hbefore
    rw [← hrest, ← hothers, ← List.filterMap_append] at hnow
    refine InUse.perm hnow (.refl _) (List.Perm.filterMap _ ?_)
    rw [← List.append_assoc, ← List.append_assoc]
    exact List.perm_append_comm.append_right post

/-- A call begins. -/
theorem Held.begin (h : Held c ps ks ms) (hk : k.call.place? = none) :
    Held c ps (ks ++ [k]) ms := by
  have hnone : inquiry? ms k = none := by rw [inquiry?, hk]; rfl
  constructor
  case asked =>
    intro k' hk' hplace
    rcases List.mem_append.mp hk' with hk' | hk'
    · exact h.asked k' hk' hplace
    · rw [List.mem_singleton.mp hk', hk] at hplace
      cases hplace
  case holds =>
    rw [List.filterMap_append, List.filterMap_cons, hnone, List.filterMap_nil, List.append_nil]
    exact h.holds

end Host

/-- A call that begins holds no read yet. -/
theorem Call.Fresh.place? {k : Call} (h : k.Fresh) : k.place? = none := by
  cases h <;> rfl

namespace Host

/-! ### Runs -/

/-- The handles of the devices. -/
def points (h : Host) : List Point := h.devices.map fun d => d.2.point

variable {h : Host} {a : Action} {c : Client} {ps : List Point} {ks : List PendingCall}
  {k : PendingCall} {ms : List Moment}

/-- One handle less, of those of the devices. -/
theorem points_perm_release {n : Nat} {d : Device} (hd : h.device? n = some d) :
    h.points.Perm (d.point :: (h.release n).points) := by
  obtain ⟨⟨n', d'⟩, hfind, rfl⟩ := Option.map_eq_some_iff.mp hd
  obtain ⟨hn, front, back, hdevices, hfront⟩ := List.find?_eq_some_iff_append.mp hfind
  have herase : (h.release n).devices = front ++ back := by
    rw [(devices_release hd).1, hdevices, List.eraseP_append_right _ (by simpa using hfront)]
    exact congrArg (front ++ ·) (List.eraseP_cons_of_pos hn)
  rw [points, points, herase, hdevices, List.map_append, List.map_append, List.map_cons]
  exact List.perm_middle

/-- **What every action preserves**: what is held is what has been asked for and has not ended. -/
theorem Does.held {h' : Host} {ms' : List Moment} (hdoes : h.Does ms' h')
    (hh : Held h.client h.points h.calls ms) :
    Held h'.client h'.points h'.calls (ms ++ ms') := by
  cases hdoes with
  | hears hms hc hk hd hn =>
    rw [points, hd, hk]
    exact (hh.listens hc).silent hms
  | begins hms number r k hr =>
    exact (hh.begin (Request.fresh_of_call? hr).place?).silent hms
  | turn pre k post hcalls hother hc hk hd hn =>
    rw [points, hd, hk, hc]
    rw [hcalls] at hh
    exact hh.call hother
  | cancels hms p => exact (Held.cancelAll p [] hh).silent hms
  | releases hms n d hd =>
    have hcancelled := (Held.cancelAll (fun k => k.device = some n) [] hh).silent hms
    rw [client_release hd, calls_release hd]
    exact ⟨hcancelled.asked,
      InUse.unbind (InUse.perm hcancelled.holds (points_perm_release hd) (.refl _))⟩
  | binds hms kind p r hr => exact Held.silent ⟨hh.asked, InUse.bind hh.holds hr⟩ hms

/-- **A host gives up what it holds, once**: after every run, the handles that are held of the
registry are those of its devices, and the reads that are held are those of its calls. -/
theorem held_run (config : Config) (actions : List Action) :
    let h := (fresh config).run actions
    Held h.client h.points h.calls ((fresh config).history actions) := by
  -- The last action is taken off, so that the others are a run too.
  induction actions using List.reverseRecOn with
  | nil => exact ⟨by simp [run, fresh], inUse_empty⟩
  | append_singleton actions a ih =>
    rw [run_concat, history_concat]
    exact (does_run config actions a).held ih

/-- **Bindings are counted exactly.** However a registry was used, its bindings are those of the
handles that are held. And this is how a host uses its registry, whatever happens: what it holds
are the handles of its devices, neither more nor less. -/
theorem bindings_run :
    (∀ operations, (Usage.run operations).BindingsExact) ∧
      ∀ (config : Config) (actions : List Action),
        let h := (fresh config).run actions
        ∃ qs, h.client.registry.InUse h.points qs h.client.heard :=
  ⟨Usage.bindingsExact_run, fun config actions => ⟨_, (held_run config actions).holds⟩⟩

/-- **The calls that read have their answers.** -/
structure ReadsExact (h : Host) (ms : List Moment) : Prop where
  /-- No two calls have one place, -/
  nodup : (h.calls.filterMap fun k => k.call.place?).Nodup
  /-- and no other place is taken. -/
  ne_free_iff : ∀ id : ReadId, h.client.registry.reads[id] ≠ .free ↔
    ∃ k ∈ h.calls, k.call.place? = some id
  /-- A call cannot begin a read if there are as many as there can be, and for no other reason. -/
  refused_iff : ∀ address f, h.client.registry.beginRead address = .error f ↔
    f = .tunneling .tooManyPendingReads ∧
      (h.calls.filterMap fun k => k.call.place?).length = maxPendingReads
  /-- What a call finds on its place is the data of the first response to its question that was
  heard since it was asked. -/
  answer : ∀ k ∈ h.calls, ∀ id, k.call.place? = some id →
    ∃ q, inquiry? ms k = some q ∧ q.place = id ∧
      h.client.registry.answer? id = q.answer? h.client.heard
  /-- It is that which the call answers, if it answers anything. -/
  result : ∀ k ∈ h.calls, ∀ form stage answer, k.call = .read form stage →
    (k.call.poll h.client).1 = .done (.ok answer) →
      ∃ q data, inquiry? ms k = some q ∧ q.answer? h.client.heard = some data ∧
        form.answer data = .ok answer

theorem inquiry?_eq_some {id : ReadId} (hid : k.call.place? = some id)
    (hasked : (question? ms k.number).isSome) : ∃ q, inquiry? ms k = some q ∧ q.place = id := by
  obtain ⟨question, hq⟩ := Option.isSome_iff_exists.mp hasked
  exact ⟨⟨question.1, id, question.2⟩, by rw [inquiry?, KnxIp.inquiry?, hid, hq]; rfl, rfl⟩

theorem Held.map_place (hh : Held c ps ks ms) :
    (ks.filterMap (inquiry? ms)).map Inquiry.place = ks.filterMap fun k => k.call.place? := by
  rw [List.map_filterMap]
  refine List.filterMap_congr fun k hk => ?_
  cases hid : k.call.place? with
  | none => rw [inquiry?, KnxIp.inquiry?, hid]; rfl
  | some id =>
    obtain ⟨q, hq, rfl⟩ := inquiry?_eq_some hid (hh.asked k hk (by simp [hid]))
    rw [hq]
    rfl

/-- What a call finds on its place. -/
theorem Held.exists_answer (hh : Held c ps ks ms) (hk : k ∈ ks) {id : ReadId}
    (hid : k.call.place? = some id) :
    ∃ q, inquiry? ms k = some q ∧ q.place = id ∧ c.registry.answer? id = q.answer? c.heard := by
  obtain ⟨q, hq, rfl⟩ := inquiry?_eq_some hid (hh.asked k hk (by simp [hid]))
  have hmem : q ∈ ks.filterMap (inquiry? ms) := List.mem_filterMap.mpr ⟨k, hk, hq⟩
  exact ⟨q, hq, rfl, answer?_of_slot ((InUse.answers hh.holds).slot q hmem)⟩

/-- What a call answers that reads is what it has found. -/
theorem Held.exists_data (hh : Held c ps ks ms) {form : ReadForm} {stage : Reading}
    {answer : Answer} (hk : k.call = .read form stage)
    (hdone : (k.call.poll c).1 = .done (.ok answer)) :
    ∃ id data, k.call.place? = some id ∧ c.registry.answer? id = some data ∧
      form.answer data = .ok answer := by
  have hdata : ∃ data, (stage.poll c).1 = .done (.ok data) ∧ form.answer data = .ok answer := by
    rw [hk] at hdone
    simp only [Call.poll, Prod.map] at hdone
    cases hp : (stage.poll c).1 with
    | waiting stage => simp [hp, Progress.map] at hdone
    | done result =>
      cases result with
      | error f => simp [hp, Progress.map, Except.bind] at hdone
      | ok data => exact ⟨data, rfl, by simpa [hp, Progress.map, Except.bind] using hdone⟩
  obtain ⟨data, hdata, hanswer⟩ := hdata
  have hgoes : ∀ {read : ReadId} {c' : Client}, Reading.Goes read c' (stage.poll c) →
      c'.registry.answer? read = some data := by
    intro read c' hg
    generalize stage.poll c = r at hg hdata
    cases hg with
    | waits | fails => cases hdata
    | succeeds data' h' =>
      cases hdata
      exact h'
  rw [hk]
  cases hp : stage.place? with
  | some read =>
    obtain ⟨c', hc', hg⟩ := Reading.goes_poll hp c
    refine ⟨read, data, hp, ?_, hanswer⟩
    have hregistry : c'.registry = c.registry := congrArg Prod.fst hc'
    rw [← hregistry]
    exact hgoes hg
  | none =>
    -- A read that begins finds nothing, so its call cannot end with an answer yet.
    cases stage with
    | start address =>
      rcases Reading.goes_poll_start address c with ⟨f, hf⟩ | ⟨read, registry, c', hr, hc', hg⟩
      · rw [hf] at hdata
        cases hdata
      · have hfound := hgoes hg
        rw [show c'.registry = registry from congrArg Prod.fst hc',
          ((InUse.answers hh.holds).began hr).2] at hfound
        cases hfound
    | sending | awaiting => cases hp

theorem Held.readsExact (hh : Held h.client h.points h.calls ms) : h.ReadsExact ms := by
  have hanswers := InUse.answers hh.holds
  constructor
  case nodup =>
    rw [← hh.map_place]
    exact hanswers.nodup
  case ne_free_iff =>
    intro id
    rw [hanswers.ne_free_iff, ← List.mem_map, hh.map_place, List.mem_filterMap]
  case refused_iff =>
    intro address f
    rw [hanswers.refused_iff, ← hh.map_place, List.length_map]
  case answer => exact fun k hk id hid => hh.exists_answer hk hid
  case result =>
    intro k hk form stage answer hread hdone
    obtain ⟨id, data, hid, hfound, hanswer⟩ := hh.exists_data hread hdone
    obtain ⟨q, hq, -, heq⟩ := hh.exists_answer hk hid
    exact ⟨q, data, hq, heq.symm.trans hfound, hanswer⟩

/-- **Reads are answered by the right telegram.** However a registry was used, every read that is
held has a place of its own and finds its own answer there. And so it is for the calls of a host,
whatever happens: a place is taken exactly while a call holds it, and a call that reads answers
with the data of the first response for its group that was heard since it asked. -/
theorem reads_run :
    (∀ operations, (Usage.run operations).ReadsExact) ∧
      ∀ (config : Config) (actions : List Action),
        ((fresh config).run actions).ReadsExact ((fresh config).history actions) :=
  ⟨Usage.readsExact_run, fun config actions => (held_run config actions).readsExact⟩

end Host

end KnxIp
