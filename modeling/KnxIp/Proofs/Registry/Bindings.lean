import KnxIp.Proofs.Registry.Usage
import Mathlib.Data.List.Perm.Basic

/-!
# Bindings are counted

A handle is nothing but a place in the table of bindings, and a binding does not say who its
handles are; it only counts them. So it has to be shown that the count is right: a count that is
too low gives the place away under a handle, which then sees the values of another address, and
one that is too high keeps it for ever.

What has to hold concerns one place at a time: its entry, and the handles that are held on it
(`KnxIp.Registry.Fits`). An operation changes one place, and there by one handle; and that no
address is bound at two places is all that the places have to do with each other. The two
together are the invariant, `KnxIp.Registry.Counts`.

## Main statement

* `KnxIp.Registry.Usage.bindingsExact_run`: however a registry was used, its bindings are those
  of the handles that are held, and to bind an address fails exactly when it has to.
-/

namespace KnxIp

/-- The binding without its values. -/
def Binding.bare (b : Binding) : Binding := { b with value := none, update := none }

namespace Registry

variable {r r' : Registry} {address : GroupAddress} {dpt : Dpt} {id : BindingId}
  {o : Option Binding} {b : Binding} {p : Point} {ps qs : List Point}

/-! ### One place -/

/-- **The entry of a place fits the handles that are held on it**: there is none if there are no
handles, and otherwise it counts them, and has the address and the type of each. -/
def Fits : Option Binding → List Point → Prop
  | none, ps => ps = []
  | some b, ps =>
    b.handles = ps.length ∧ 0 < b.handles ∧ b.handles ≤ maxHandles ∧
      ∀ p ∈ ps, p.address = b.address ∧ p.dpt = b.dpt

theorem Fits.isSome_iff (h : Fits o ps) : o.isSome ↔ ps ≠ [] := by
  cases o with
  | none => simpa [Fits] using h
  | some b =>
    obtain ⟨hlength, hpos, -⟩ := h
    have hne : ps ≠ [] := List.length_pos_iff.mp (hlength ▸ hpos)
    simpa using hne

theorem Fits.perm (h : Fits o ps) (hp : ps.Perm qs) : Fits o qs := by
  cases o with
  | none =>
    obtain rfl : ps = [] := h
    exact hp.symm.eq_nil
  | some b =>
    obtain ⟨hlength, hpos, hle, hall⟩ := h
    exact ⟨hlength.trans hp.length_eq, hpos, hle, fun p hq => hall p (hp.mem_iff.mpr hq)⟩

/-- One more handle of the same address and type. -/
theorem Fits.share (h : Fits (some b) ps) (ha : p.address = b.address) (ht : p.dpt = b.dpt)
    (hlt : b.handles < maxHandles) : Fits (some { b with handles := b.handles + 1 }) (p :: ps) := by
  obtain ⟨hlength, -, -, hall⟩ := h
  refine ⟨by simp [hlength], Nat.succ_pos _, hlt, ?_⟩
  exact List.forall_mem_cons.mpr ⟨⟨ha, ht⟩, hall⟩

/-- The first handle. -/
theorem Fits.take (h : Fits none ps) (p : Point) :
    Fits (some ⟨p.address, p.dpt, 1, none, none⟩) (p :: ps) := by
  obtain rfl : ps = [] := h
  exact ⟨rfl, Nat.one_pos, (by decide : 1 ≤ maxHandles), by simp⟩

/-- One handle less; the entry goes with the last. -/
theorem Fits.release (h : Fits (some b) (p :: ps)) :
    Fits (if b.handles ≤ 1 then none else some { b with handles := b.handles - 1 }) ps := by
  obtain ⟨hlength, hpos, hle, hall⟩ := h
  rw [List.length_cons] at hlength
  split
  · exact List.eq_nil_of_length_eq_zero (by omega)
  · exact ⟨by simp [hlength], by simp only; omega, by simp only; omega,
      fun q hq => hall q (List.mem_cons_of_mem _ hq)⟩

/-- What a binding counts is not a matter of its values. -/
theorem Fits.of_bare {o' : Option Binding} (h : Fits o ps)
    (hb : o'.map Binding.bare = o.map Binding.bare) : Fits o' ps := by
  cases o with
  | none =>
    obtain rfl : o' = none := by simpa using hb
    exact h
  | some b =>
    obtain ⟨b', rfl, hbare⟩ := Option.map_eq_some_iff.mp hb
    obtain ⟨haddress, hdpt, hhandles, -⟩ := Binding.mk.inj hbare
    simp only [Fits, haddress, hdpt, hhandles]
    exact h

/-! ### The invariant -/

/-- The handles that are held on a place. -/
def pointsAt (ps : List Point) (id : BindingId) : List Point := ps.filter fun p => p.binding = id

theorem mem_pointsAt : p ∈ pointsAt ps id ↔ p ∈ ps ∧ p.binding = id := by
  simp [pointsAt]

theorem pointsAt_cons (p : Point) (ps : List Point) (id : BindingId) :
    pointsAt (p :: ps) id = if p.binding = id then p :: pointsAt ps id else pointsAt ps id := by
  simp [pointsAt, List.filter_cons]

/-- **The bindings count the handles.** -/
structure Counts (r : Registry) (ps : List Point) : Prop where
  /-- Every place fits the handles that are held on it. -/
  fits : ∀ id, Fits r.bindings[id] (pointsAt ps id)
  /-- No address is bound at two places. -/
  distinct : ∀ id id' address, r.addressAt id = some address → r.addressAt id' = some address →
    id = id'

theorem counts_empty : empty.Counts [] where
  fits id := by
    rw [getElem_bindings_empty]
    rfl
  distinct id id' address h := by simp [addressAt] at h

theorem Counts.perm (h : r.Counts ps) (hp : ps.Perm qs) : r.Counts qs :=
  ⟨fun id => (h.fits id).perm (hp.filter _), h.distinct⟩

/-- What changes only values changes no count. -/
theorem Counts.of_bare (h : r.Counts ps)
    (hb : ∀ id : BindingId, r'.bindings[id].map Binding.bare = r.bindings[id].map Binding.bare) :
    r'.Counts ps := by
  have haddress : ∀ id, r'.addressAt id = r.addressAt id := by
    intro id
    have := congrArg (Option.map Binding.address) (hb id)
    simpa [addressAt, Function.comp_def, Binding.bare] using this
  refine ⟨fun id => (h.fits id).of_bare (hb id), ?_⟩
  simpa only [haddress] using h.distinct

/-- One more handle, on a place whose entry changes with it. -/
theorem Counts.cons (h : r.Counts ps) (hfits : Fits o (p :: pointsAt ps p.binding))
    (ha : ∀ id, r.addressAt id = some p.address → id = p.binding)
    (ho : o.map Binding.address = some p.address) :
    (r.setBinding p.binding o).Counts (p :: ps) := by
  have haddress : ∀ id, (r.setBinding p.binding o).addressAt id =
      if p.binding = id then some p.address else r.addressAt id := by
    intro id
    rw [addressAt, getElem_setBinding]
    split
    · exact ho
    · rfl
  constructor
  · intro id
    rw [getElem_setBinding, pointsAt_cons]
    split
    · subst id
      exact hfits
    · exact h.fits id
  · intro id id' address hid hid'
    rw [haddress] at hid hid'
    -- The new handle's address is at its own place only.
    split at hid <;> split at hid'
    · exact (‹p.binding = id›).symm.trans ‹p.binding = id'›
    · cases hid
      exact (‹p.binding = id›).symm.trans (ha id' hid').symm
    · cases hid'
      exact (ha id hid).trans ‹p.binding = id'›
    · exact h.distinct id id' address hid hid'

/-- One handle less. -/
theorem Counts.unbind (h : r.Counts (p :: ps)) : (r.unbind p.binding).Counts ps := by
  have hp := h.fits p.binding
  rw [pointsAt_cons, if_pos rfl] at hp
  obtain ⟨b, hb⟩ := Option.isSome_iff_exists.mp (hp.isSome_iff.mpr (List.cons_ne_nil _ _))
  rw [hb] at hp
  have haddress : ∀ id address, (r.unbind p.binding).addressAt id = some address →
      r.addressAt id = some address := by
    intro id address hid
    rw [addressAt, Registry.unbind, getElem_setBinding] at hid
    split at hid
    · subst id
      rw [hb, Option.bind_some] at hid
      split at hid
      · cases hid
      · simpa [addressAt, hb] using hid
    · exact hid
  constructor
  · intro id
    have hid := h.fits id
    rw [Registry.unbind, getElem_setBinding]
    rw [pointsAt_cons] at hid
    split
    · subst id
      rw [hb, Option.bind_some]
      exact hp.release
    · rwa [if_neg ‹_›] at hid
  · intro id id' address hid hid'
    exact h.distinct id id' address (haddress _ _ hid) (haddress _ _ hid')

/-! ### What the invariant says -/

theorem Counts.isSome_iff (h : r.Counts ps) (id : BindingId) :
    r.bindings[id].isSome ↔ ∃ p ∈ ps, p.binding = id := by
  rw [(h.fits id).isSome_iff, ← List.length_pos_iff, List.length_pos_iff_exists_mem]
  simp only [mem_pointsAt]

theorem Counts.handles (h : r.Counts ps) (hb : r.bindings[id] = some b) :
    b.handles = (ps.countP fun p => p.binding = id) ∧ 0 < b.handles ∧ b.handles ≤ maxHandles := by
  have hfits := h.fits id
  rw [hb] at hfits
  obtain ⟨hlength, hpos, hle, -⟩ := hfits
  exact ⟨hlength.trans List.countP_eq_length_filter.symm, hpos, hle⟩

/-- The handles on a place have the address and the type of its binding. -/
theorem Counts.eq_of_binding (h : r.Counts ps) (hb : r.bindings[id] = some b) (hp : p ∈ ps)
    (hid : p.binding = id) : p.address = b.address ∧ p.dpt = b.dpt := by
  have hfits := h.fits id
  rw [hb] at hfits
  exact hfits.2.2.2 p (mem_pointsAt.mpr ⟨hp, hid⟩)

theorem Counts.exists_binding (h : r.Counts ps) (hp : p ∈ ps) :
    ∃ b, r.bindings[p.binding] = some b ∧ b.address = p.address ∧ b.dpt = p.dpt := by
  obtain ⟨b, hb⟩ := Option.isSome_iff_exists.mp ((h.isSome_iff p.binding).mpr ⟨p, hp, rfl⟩)
  obtain ⟨ha, ht⟩ := h.eq_of_binding hb hp rfl
  exact ⟨b, hb, ha.symm, ht.symm⟩

/-- Two handles are of one address if and only if they are on one place. -/
theorem Counts.address_eq_iff (h : r.Counts ps) {q : Point} (hp : p ∈ ps) (hq : q ∈ ps) :
    p.address = q.address ↔ p.binding = q.binding := by
  obtain ⟨b, hb, ha, -⟩ := h.exists_binding hp
  obtain ⟨b', hb', ha', -⟩ := h.exists_binding hq
  constructor
  · intro heq
    exact h.distinct _ _ q.address (by simp [addressAt, hb, ha, heq])
      (by simp [addressAt, hb', ha'])
  · intro heq
    rw [heq, hb'] at hb
    rw [← ha, ← ha', Option.some.inj hb]

/-- The handles of an address are those on the place where it is bound. -/
theorem Counts.address_iff (h : r.Counts ps) (hid : r.find? address = some id) (hp : p ∈ ps) :
    p.address = address ↔ p.binding = id := by
  obtain ⟨hat, -⟩ := find?_eq_some_iff.mp hid
  obtain ⟨b, hb, ha, -⟩ := h.exists_binding hp
  have hpat : r.addressAt p.binding = some p.address := by simp [addressAt, hb, ha]
  constructor
  · rintro rfl
    exact h.distinct _ _ _ hpat hat
  · rintro rfl
    exact Option.some.inj (hpat.symm.trans hat)

theorem Counts.countP_address (h : r.Counts ps) (hid : r.find? address = some id)
    (hb : r.bindings[id] = some b) :
    (ps.countP fun p => p.address = address) = b.handles := by
  rw [(h.handles hb).1]
  exact List.countP_congr fun p hp => by simpa using h.address_iff hid hp

/-- An address that is bound has a handle, and all its handles have the type of the binding. -/
theorem Counts.dpt_iff (h : r.Counts ps) (hid : r.find? address = some id)
    (hb : r.bindings[id] = some b) (q : Dpt → Prop) :
    (∃ p ∈ ps, p.address = address ∧ q p.dpt) ↔ q b.dpt := by
  constructor
  · rintro ⟨p, hp, ha, hq⟩
    obtain ⟨-, ht⟩ := h.eq_of_binding hb hp ((h.address_iff hid hp).mp ha)
    exact ht ▸ hq
  · intro hq
    obtain ⟨p, hp, hpid⟩ := (h.isSome_iff id).mp (by simp [hb])
    obtain ⟨-, ht⟩ := h.eq_of_binding hb hp hpid
    exact ⟨p, hp, (h.address_iff hid hp).mpr hpid, ht ▸ hq⟩

/-- An address that is not bound has no handle. -/
theorem Counts.unbound_iff (h : r.Counts ps) :
    r.find? address = none ↔ ∀ p ∈ ps, p.address ≠ address := by
  constructor
  · rintro hnone p hp rfl
    obtain ⟨b, hb, ha, -⟩ := h.exists_binding hp
    exact find?_eq_none_iff.mp hnone p.binding (by simp [addressAt, hb, ha])
  · intro hall
    cases hid : r.find? address with
    | none => rfl
    | some id =>
      obtain ⟨b, hb, -⟩ := exists_of_find? hid
      obtain ⟨p, hp, hpid⟩ := (h.isSome_iff id).mp (by simp [hb])
      exact absurd ((h.address_iff hid hp).mpr hpid) (hall p hp)

/-- There are as many bindings as addresses that have a handle. -/
theorem Counts.bindingCount_eq (h : r.Counts ps) :
    r.bindingCount = (ps.map Point.address).toFinset.card := by
  let taken := Finset.univ.filter fun id : BindingId => r.bindings[id].isSome = true
  have hinj : Set.InjOn r.addressAt taken := by
    intro id hid id' _ heq
    obtain ⟨b, hb⟩ := Option.isSome_iff_exists.mp (Finset.mem_filter.mp hid).2
    have hat : r.addressAt id = some b.address := by simp [addressAt, hb]
    exact h.distinct id id' b.address hat (heq ▸ hat)
  have himage : taken.image r.addressAt = (ps.map Point.address).toFinset.image some := by
    ext o
    simp only [taken, Finset.mem_image, Finset.mem_filter, Finset.mem_univ, true_and,
      List.mem_toFinset, List.mem_map]
    constructor
    · rintro ⟨id, hid, rfl⟩
      obtain ⟨p, hp, rfl⟩ := (h.isSome_iff id).mp hid
      obtain ⟨b, hb, ha, -⟩ := h.exists_binding hp
      exact ⟨p.address, ⟨p, hp, rfl⟩, by simp [addressAt, hb, ha]⟩
    · rintro ⟨_, ⟨p, hp, rfl⟩, rfl⟩
      obtain ⟨b, hb, ha, -⟩ := h.exists_binding hp
      exact ⟨p.binding, (h.isSome_iff _).mpr ⟨p, hp, rfl⟩, by simp [addressAt, hb, ha]⟩
  calc r.bindingCount = taken.card := countP_eq_card _ _
    _ = (taken.image r.addressAt).card := (Finset.card_image_of_injOn hinj).symm
    _ = ((ps.map Point.address).toFinset.image some).card := by rw [himage]
    _ = (ps.map Point.address).toFinset.card :=
      Finset.card_image_of_injective _ (Option.some_injective _)

/-! ### To bind an address -/

/-- An address that is bound has been given a handle. -/
theorem Counts.bind (h : r.Counts ps) (hr : r.bind address dpt = .ok (id, r')) :
    r'.Counts (ps ++ [⟨address, dpt, id⟩]) := by
  have hbinds := r.binds address dpt
  rw [hr] at hbinds
  -- The count does not depend on the order in which handles were given.
  refine Counts.perm ?_ (List.perm_append_singleton _ _).symm
  have hfits := h.fits id
  cases hbinds with
  | share hid hb ht hlt =>
    obtain ⟨haddress, -⟩ := find?_eq_some_iff.mp hid
    obtain ⟨b', hb', hab⟩ := exists_of_find? hid
    obtain rfl := Option.some.inj (hb.symm.trans hb')
    rw [hb] at hfits
    refine h.cons (p := ⟨address, dpt, id⟩) (hfits.share hab.symm ht.symm hlt) ?_ ?_
    · exact fun id' hid' => h.distinct id' id address hid' haddress
    · exact congrArg some hab
  | take hid hb =>
    rw [hb] at hfits
    refine h.cons (p := ⟨address, dpt, id⟩) (hfits.take ⟨address, dpt, id⟩) ?_ rfl
    exact fun id' hid' => absurd hid' (find?_eq_none_iff.mp hid id')

/-! ### Every operation -/

theorem bare_setBinding {b b' : Binding} (hb : r.bindings[id] = some b) (hbare : b'.bare = b.bare)
    (id' : BindingId) :
    (r.setBinding id (some b')).bindings[id'].map Binding.bare =
      r.bindings[id'].map Binding.bare := by
  rw [getElem_setBinding]
  split
  · subst id'
    simp [hb, hbare]
  · rfl

theorem bare_modifyBinding (r : Registry) (id : BindingId) {f : Binding → Binding}
    (hf : ∀ b, (f b).bare = b.bare) (id' : BindingId) :
    (r.modifyBinding id f).bindings[id'].map Binding.bare =
      r.bindings[id'].map Binding.bare := by
  rw [modifyBinding, getElem_setBinding]
  split
  · subst id'
    rw [Option.map_map]
    exact Option.map_congr fun b _ => hf b
  · rfl

/-- Telegrams from the bus bring values, and nothing else to the bindings. -/
theorem bare_onTelegram (r : Registry) (service : GroupService) (address : GroupAddress)
    (data : Apdu) (id : BindingId) :
    (r.onTelegram service address data).2.bindings[id].map Binding.bare =
      r.bindings[id].map Binding.bare := by
  have hupdate : ∀ r : Registry, (r.update address data).2.bindings[id].map Binding.bare =
      r.bindings[id].map Binding.bare := by
    intro r
    rcases r.update_cases address data with ⟨id', b, v, hid, hb, hv⟩ | h
    · have hbare : (b.brought v).bare = b.bare := rfl
      rw [update_of_decode hid hb hv]
      exact bare_setBinding hb hbare id
    · rw [h]
  cases service with
  | read => rfl
  | write => exact hupdate r
  | response => exact hupdate (r.answerReads address data)

namespace Usage

/-- **What every operation preserves**: the bindings count the handles. -/
theorem counts_after (u : Usage) (operation : Operation) (h : u.registry.Counts u.points) :
    (u.after operation).registry.Counts (u.after operation).points := by
  cases operation with
  | bind address dpt =>
    simp only [after]
    cases hr : u.registry.bind address dpt with
    | ok r => exact h.bind hr
    | error f => exact h
  | release position =>
    simp only [after]
    cases hp : u.points[position]? with
    | some p =>
      obtain ⟨hlt, rfl⟩ := List.getElem?_eq_some_iff.mp hp
      exact (h.perm (List.getElem_cons_eraseIdx_perm hlt).symm).unbind
    | none => exact h
  | store place v => exact h.of_bare (bare_modifyBinding _ _ fun _ => rfl)
  | beginWait place => exact h.of_bare (bare_modifyBinding _ _ fun _ => rfl)
  | takeUpdate place =>
    simp only [after, takeUpdate?]
    cases u.registry.bindings[place].bind Binding.update with
    | some v => exact h.of_bare (bare_modifyBinding _ _ fun _ => rfl)
    | none => exact h
  | beginRead address =>
    simp only [after]
    rcases u.registry.beginRead_cases address with ⟨id, -, hr⟩ | ⟨-, hr⟩
    · rw [hr]
      exact h.of_bare fun _ => rfl
    · rwa [hr]
  | endRead position =>
    simp only [after]
    cases u.reads[position]? with
    | some q => exact h.of_bare fun _ => rfl
    | none => exact h
  | hear t => exact h.of_bare (bare_onTelegram _ _ _ _)

/-- **The bindings are those of the handles**, and an address is bound unless it cannot be. -/
structure BindingsExact (u : Usage) : Prop where
  /-- A place is taken if and only if a handle is held on it. -/
  isSome_iff : ∀ id : BindingId, u.registry.bindings[id].isSome ↔ ∃ p ∈ u.points, p.binding = id
  /-- A binding counts the handles that are held on its place. There is at least one, and the
  count stays within its bound. -/
  handles : ∀ (id : BindingId) (b : Binding), u.registry.bindings[id] = some b →
    b.handles = (u.points.countP fun p => p.binding = id) ∧
      0 < b.handles ∧ b.handles ≤ maxHandles
  /-- Every handle has a binding of its address and its type. -/
  kept : ∀ p ∈ u.points, ∃ b, u.registry.bindings[p.binding] = some b ∧
    b.address = p.address ∧ b.dpt = p.dpt
  /-- No address is bound at two places. -/
  distinct : ∀ (id id' : BindingId) (b b' : Binding), u.registry.bindings[id] = some b →
    u.registry.bindings[id'] = some b' → b.address = b'.address → id = id'
  /-- There are as many bindings as addresses that have a handle. -/
  bindingCount : u.registry.bindingCount = (u.points.map Point.address).toFinset.card
  /-- An address cannot be bound if it has a handle of another type, -/
  mismatch_iff : ∀ address dpt, u.registry.bind address dpt = .error (.dpt .typeMismatch) ↔
    ∃ p ∈ u.points, p.address = address ∧ p.dpt ≠ dpt
  /-- or if it has no handle and all places are taken, or has as many of its type as can be. -/
  full_iff : ∀ address dpt, u.registry.bind address dpt = .error (.tunneling .registryFull) ↔
    ((∀ p ∈ u.points, p.address ≠ address) ∧ u.registry.bindingCount = maxBindings) ∨
      ((∃ p ∈ u.points, p.address = address ∧ p.dpt = dpt) ∧
        (u.points.countP fun p => p.address = address) = maxHandles)
  /-- There are no other failures, and one that fails changes nothing. -/
  failed : ∀ address dpt f, u.registry.bind address dpt = .error f →
    (f = .dpt .typeMismatch ∨ f = .tunneling .registryFull) ∧ u.after (.bind address dpt) = u
  /-- A binding that is shared keeps its value; a new one has none, and no handle waits for one
  that came before. -/
  value : ∀ address dpt id r, u.registry.bind address dpt = .ok (id, r) →
    if ∃ p ∈ u.points, p.address = address then
      r.value? id = u.registry.value? id
    else r.value? id = none ∧ r.takeUpdate? id = none

end Usage

/-- All places are taken if and only if each is. -/
theorem bindingCount_eq_max_iff :
    r.bindingCount = maxBindings ↔ ∀ id : BindingId, r.bindings[id].isSome := by
  rw [bindingCount, Vector.countP_eq_size]
  constructor
  · intro h id
    exact h _ (Vector.getElem_mem id.isLt)
  · intro h b hb
    obtain ⟨i, hi, rfl⟩ := Vector.getElem_of_mem hb
    exact h ⟨i, hi⟩

theorem Counts.mismatch_iff (h : r.Counts ps) :
    r.bind address dpt = .error (.dpt .typeMismatch) ↔
      ∃ p ∈ ps, p.address = address ∧ p.dpt ≠ dpt := by
  have hbinds := r.binds address dpt
  generalize r.bind address dpt = result at hbinds ⊢
  cases hbinds with
  | mismatch hid hb ht => exact iff_of_true rfl ((h.dpt_iff hid hb (· ≠ dpt)).mpr ht)
  | crowded hid hb ht _ | share hid hb ht _ =>
    exact iff_of_false (by simp) fun hp => (h.dpt_iff hid hb (· ≠ dpt)).mp hp ht
  | full hid _ | take hid _ =>
    refine iff_of_false (by simp) ?_
    rintro ⟨p, hp, ha, -⟩
    exact h.unbound_iff.mp hid p hp ha

theorem Counts.full_iff (h : r.Counts ps) :
    r.bind address dpt = .error (.tunneling .registryFull) ↔
      ((∀ p ∈ ps, p.address ≠ address) ∧ r.bindingCount = maxBindings) ∨
        ((∃ p ∈ ps, p.address = address ∧ p.dpt = dpt) ∧
          (ps.countP fun p => p.address = address) = maxHandles) := by
  have hbinds := r.binds address dpt
  rw [bindingCount_eq_max_iff, ← h.unbound_iff]
  generalize r.bind address dpt = result at hbinds ⊢
  cases hbinds with
  | mismatch hid hb ht =>
    rw [h.dpt_iff hid hb (· = dpt)]
    simp [hid, ht]
  | crowded hid hb ht hle =>
    have hmax : _ = maxHandles := Nat.le_antisymm (h.handles hb).2.2 hle
    rw [h.dpt_iff hid hb (· = dpt), h.countP_address hid hb]
    simp [hid, ht, hmax]
  | share hid hb ht hlt =>
    rw [h.countP_address hid hb]
    simp [hid, Nat.ne_of_lt hlt]
  | full hid hall => exact iff_of_true rfl (.inl ⟨hid, hall⟩)
  | @take id hid hb =>
    refine iff_of_false (by simp) ?_
    rintro (⟨-, hall⟩ | ⟨⟨p, hp, ha, -⟩, -⟩)
    · have hsome := hall id
      rw [hb] at hsome
      cases hsome
    · exact h.unbound_iff.mp hid p hp ha

theorem Counts.value_bind (h : r.Counts ps) (hr : r.bind address dpt = .ok (id, r')) :
    if ∃ p ∈ ps, p.address = address then r'.value? id = r.value? id
    else r'.value? id = none ∧ r'.takeUpdate? id = none := by
  have hbinds := r.binds address dpt
  rw [hr] at hbinds
  cases hbinds with
  | share hid hb ht _ =>
    have hp : ∃ p ∈ ps, p.address = address := by
      obtain ⟨p, hp, ha, -⟩ := (h.dpt_iff hid hb (· = dpt)).mpr ht
      exact ⟨p, hp, ha⟩
    rw [if_pos hp, value?, value?, getElem_setBinding, if_pos rfl, hb]
    rfl
  | take hid _ =>
    have hnone : ¬ ∃ p ∈ ps, p.address = address := by
      rintro ⟨p, hp, ha⟩
      exact h.unbound_iff.mp hid p hp ha
    rw [if_neg hnone, value?, takeUpdate?, getElem_setBinding, if_pos rfl]
    exact ⟨rfl, rfl⟩

namespace Usage

theorem counts_run (operations : List Operation) :
    (run operations).registry.Counts (run operations).points :=
  run_induction counts_empty (fun u operation h => counts_after u operation h) operations

/-- **Bindings are counted exactly.** However a registry was used – addresses bound, in vain or
not, handles given up, values stored and telegrams heard – its bindings are those of the handles
that are held, with their number, address and type; and to bind another address fails exactly
when it has a handle of another type, or when there is no room left. -/
theorem bindingsExact_run (operations : List Operation) : (run operations).BindingsExact := by
  have h := counts_run operations
  generalize run operations = u at h
  constructor
  case isSome_iff => exact h.isSome_iff
  case handles => exact fun id b hb => h.handles hb
  case kept => exact fun p hp => h.exists_binding hp
  case distinct =>
    intro id id' b b' hb hb' ha
    exact h.distinct id id' b.address (by simp [addressAt, hb]) (by simp [addressAt, hb', ha])
  case bindingCount => exact h.bindingCount_eq
  case mismatch_iff => exact fun address dpt => h.mismatch_iff
  case full_iff => exact fun address dpt => h.full_iff
  case failed =>
    intro address dpt f hf
    have hbinds := u.registry.binds address dpt
    rw [hf] at hbinds
    refine ⟨?_, by simp only [after, hf]⟩
    cases hbinds with
    | mismatch => exact .inl rfl
    | crowded | full => exact .inr rfl
  case value => exact fun address dpt id r hr => h.value_bind hr

end Usage

/-- The bindings of a registry in use count the handles that are held. -/
theorem InUse.counts {qs : List Inquiry} {heard : List News} (h : r.InUse ps qs heard) :
    r.Counts ps := by
  obtain ⟨operations, rfl, hp, -, -⟩ := h
  exact (Usage.counts_run operations).perm hp

end Registry

end KnxIp
