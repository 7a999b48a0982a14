import KnxIp.Client.Point
import KnxIp.Proofs.Registry.Tables
import Mathlib.Data.List.Induction
import Mathlib.Data.List.Perm.Basic

/-!
# The use of a registry

Whoever uses a registry is given *handles* on bindings, which are its points, and *reads*; and
while it holds them, telegrams come from the bus. `KnxIp.Registry.Operation` is what can be done
with a registry, and `KnxIp.Registry.Usage` is a registry together with all that the tables of it
do not say: which handles and which reads are held, and what has come from the bus.
`KnxIp.Registry.Usage.run` does one operation after the other, so that a list of operations is
one way to use a registry.

A handle and a read are given up once: they are taken from a list of those that are held, and so
cannot be given up again. Everything else that names a place – to store a value, to wait for
one – may name any place at all.
-/

namespace KnxIp

namespace Registry

/-! ### Operations -/

/-- **A telegram for a group**, as it comes from the bus. -/
structure News where
  service : GroupService
  address : GroupAddress
  data : Apdu
  deriving DecidableEq

/-- **A read that is held.** -/
structure Inquiry where
  address : GroupAddress
  place : ReadId
  /-- How many telegrams had come before it began. -/
  since : Nat
  deriving DecidableEq

/-- **What can be done with a registry.** -/
inductive Operation
  | bind (address : GroupAddress) (dpt : Dpt)
  /-- Give up a handle, by its position among those that are held. -/
  | release (position : Nat)
  | store (place : BindingId) (value : Value)
  | beginWait (place : BindingId)
  | takeUpdate (place : BindingId)
  | beginRead (address : GroupAddress)
  /-- Give up a read, by its position among those that are held. -/
  | endRead (position : Nat)
  /-- A telegram for a group comes from the bus. -/
  | hear (news : News)
  deriving DecidableEq

/-- **A registry in use.** -/
structure Usage where
  registry : Registry
  /-- The handles that are held, in the order in which they were given. -/
  points : List Point
  /-- The reads that are held, in the order in which they began. -/
  reads : List Inquiry
  /-- What has come from the bus, the oldest first. -/
  heard : List News
  deriving DecidableEq

namespace Usage

/-- A registry that nobody has used. -/
def fresh : Usage := ⟨.empty, [], [], []⟩

/-- **What an operation does.** What fails does nothing. -/
def after (u : Usage) : Operation → Usage
  | .bind address dpt =>
    match u.registry.bind address dpt with
    | .ok (id, registry) =>
      { u with registry := registry, points := u.points ++ [⟨address, dpt, id⟩] }
    | .error _ => u
  | .release position =>
    match u.points[position]? with
    | some p =>
      { u with registry := u.registry.unbind p.binding, points := u.points.eraseIdx position }
    | none => u
  | .store place v => { u with registry := u.registry.store place v }
  | .beginWait place => { u with registry := u.registry.beginWait place }
  | .takeUpdate place =>
    match u.registry.takeUpdate? place with
    | some (_, registry) => { u with registry := registry }
    | none => u
  | .beginRead address =>
    match u.registry.beginRead address with
    | .ok (id, registry) =>
      { u with registry := registry, reads := u.reads ++ [⟨address, id, u.heard.length⟩] }
    | .error _ => u
  | .endRead position =>
    match u.reads[position]? with
    | some q =>
      { u with registry := u.registry.endRead q.place, reads := u.reads.eraseIdx position }
    | none => u
  | .hear t =>
    { u with
      registry := (u.registry.onTelegram t.service t.address t.data).2
      heard := u.heard ++ [t] }

/-- **A registry after one operation after the other.** -/
def run (operations : List Operation) : Usage := operations.foldl after fresh

/-- **What every operation preserves** holds of a registry however it was used. -/
theorem run_induction {P : Usage → Prop} (init : P fresh)
    (step : ∀ u operation, P u → P (u.after operation)) (operations : List Operation) :
    P (run operations) := by
  -- The last operation is taken off, so that the others are a run too.
  induction operations using List.reverseRecOn with
  | nil => exact init
  | append_singleton operations last ih =>
    rw [run, List.foldl_append]
    exact step _ last ih

end Usage

/-! ### A registry in use -/

variable {r r' : Registry} {ps ps' : List Point} {qs qs' : List Inquiry} {heard : List News}

/-- A usage is of this registry, with these handles and reads held, in some order, after this was
heard. -/
structure Usage.Matches (u : Usage) (r : Registry) (ps : List Point) (qs : List Inquiry)
    (heard : List News) : Prop where
  registry : u.registry = r
  points : u.points.Perm ps
  reads : u.reads.Perm qs
  heard : u.heard = heard

/-- **A registry is in use**, with these handles and reads held: there is a way to use one after
which this is how it is. -/
def InUse (r : Registry) (ps : List Point) (qs : List Inquiry) (heard : List News) : Prop :=
  ∃ operations, (Usage.run operations).Matches r ps qs heard

theorem inUse_empty : empty.InUse [] [] [] := ⟨[], rfl, .refl _, .refl _, rfl⟩

namespace InUse

theorem perm (h : r.InUse ps qs heard) (hp : ps.Perm ps') (hq : qs.Perm qs') :
    r.InUse ps' qs' heard := by
  obtain ⟨operations, hu⟩ := h
  exact ⟨operations, hu.registry, hu.points.trans hp, hu.reads.trans hq, hu.heard⟩

/-- **One more operation** leaves a registry in use. -/
theorem after {heard' : List News} (h : r.InUse ps qs heard)
    (step : ∀ u : Usage, u.Matches r ps qs heard → ∃ operation,
      (u.after operation).Matches r' ps' qs' heard') : r'.InUse ps' qs' heard' := by
  obtain ⟨operations, hu⟩ := h
  obtain ⟨operation, hu'⟩ := step _ hu
  refine ⟨operations ++ [operation], ?_⟩
  rwa [Usage.run, List.foldl_append]

theorem bind {address : GroupAddress} {dpt : Dpt} {id : BindingId} (h : r.InUse ps qs heard)
    (hr : r.bind address dpt = .ok (id, r')) : r'.InUse (⟨address, dpt, id⟩ :: ps) qs heard := by
  refine h.after fun u hu => ⟨.bind address dpt, ?_⟩
  simp only [Usage.after, hu.registry, hr]
  exact ⟨rfl, (List.perm_append_singleton _ _).trans (hu.points.cons _), hu.reads, hu.heard⟩

theorem unbind {p : Point} (h : r.InUse (p :: ps) qs heard) :
    (r.unbind p.binding).InUse ps qs heard := by
  refine h.after fun u hu => ?_
  obtain ⟨i, hi, rfl⟩ := List.getElem_of_mem (hu.points.mem_iff.mpr (List.mem_cons_self ..))
  refine ⟨.release i, ?_⟩
  simp only [Usage.after, List.getElem?_eq_getElem hi, hu.registry]
  have hrest : (u.points.eraseIdx i).Perm ps :=
    ((List.getElem_cons_eraseIdx_perm hi).trans hu.points).cons_inv
  exact ⟨rfl, hrest, hu.reads, hu.heard⟩

theorem store (h : r.InUse ps qs heard) (id : BindingId) (v : Value) :
    (r.store id v).InUse ps qs heard :=
  h.after fun _ hu =>
    ⟨.store id v, congrArg (Registry.store · id v) hu.registry, hu.points, hu.reads, hu.heard⟩

theorem beginWait (h : r.InUse ps qs heard) (id : BindingId) :
    (r.beginWait id).InUse ps qs heard :=
  h.after fun _ hu =>
    ⟨.beginWait id, congrArg (Registry.beginWait · id) hu.registry, hu.points, hu.reads, hu.heard⟩

theorem takeUpdate {id : BindingId} {v : Value} (h : r.InUse ps qs heard)
    (hr : r.takeUpdate? id = some (v, r')) : r'.InUse ps qs heard := by
  refine h.after fun u hu => ⟨.takeUpdate id, ?_⟩
  simp only [Usage.after, hu.registry, hr]
  exact ⟨rfl, hu.points, hu.reads, hu.heard⟩

theorem beginRead {address : GroupAddress} {id : ReadId} (h : r.InUse ps qs heard)
    (hr : r.beginRead address = .ok (id, r')) :
    r'.InUse ps (⟨address, id, heard.length⟩ :: qs) heard := by
  refine h.after fun u hu => ⟨.beginRead address, ?_⟩
  simp only [Usage.after, hu.registry, hr, hu.heard]
  exact ⟨rfl, hu.points, (List.perm_append_singleton _ _).trans (hu.reads.cons _), rfl⟩

theorem endRead {q : Inquiry} (h : r.InUse ps (q :: qs) heard) :
    (r.endRead q.place).InUse ps qs heard := by
  refine h.after fun u hu => ?_
  obtain ⟨i, hi, rfl⟩ := List.getElem_of_mem (hu.reads.mem_iff.mpr (List.mem_cons_self ..))
  refine ⟨.endRead i, ?_⟩
  simp only [Usage.after, List.getElem?_eq_getElem hi, hu.registry]
  have hrest : (u.reads.eraseIdx i).Perm qs :=
    ((List.getElem_cons_eraseIdx_perm hi).trans hu.reads).cons_inv
  exact ⟨rfl, hu.points, hrest, hu.heard⟩

theorem hear (h : r.InUse ps qs heard) (t : News) :
    (r.onTelegram t.service t.address t.data).2.InUse ps qs (heard ++ [t]) := by
  refine h.after fun u hu => ⟨.hear t, ?_⟩
  simp only [Usage.after, hu.registry, hu.heard]
  exact ⟨rfl, hu.points, hu.reads, rfl⟩

end InUse

end Registry

end KnxIp
