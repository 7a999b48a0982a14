import KnxIp.Registry
import Mathlib.Data.Fintype.Card
import Mathlib.Data.List.FinRange

/-!
# The tables of a registry

How the two tables of a registry change, place by place. A table is searched for the first place
of which something is true, and it is changed at one place – or at many, when an answer comes for
all the reads that wait for it.

The binding of an address is found by the addresses alone (`KnxIp.Registry.find?_congr`), so that
whatever changes only values leaves every binding where it is.
-/

namespace KnxIp

section Places

variable {α : Type} {n : Nat} {xs : Vector α n} {p : α → Bool} {i : Fin n}

theorem get_eq_getElem (xs : Vector α n) (i : Fin n) : xs.get i = getElem xs i.val i.isLt := rfl

/-- The first place of which something is true. -/
theorem findFinIdx?_eq_some_iff :
    xs.findFinIdx? p = some i ↔ p (xs.get i) = true ∧ ∀ j < i, p (xs.get j) = false := by
  obtain ⟨xs, rfl⟩ := xs
  have hcast : ∀ o : Option (Fin xs.size), o.map (Fin.cast rfl) = o := by simp
  simp only [Vector.findFinIdx?]
  rw [hcast, Array.findFinIdx?_eq_some_iff]
  simp [get_eq_getElem]

theorem findFinIdx?_eq_none_iff :
    xs.findFinIdx? p = none ↔ ∀ i : Fin n, p (xs.get i) = false := by
  rw [Vector.findFinIdx?_eq_none_iff]
  constructor
  · intro h i
    simpa [get_eq_getElem] using h _ (Vector.getElem_mem i.isLt)
  · intro h x hx
    obtain ⟨i, hi, rfl⟩ := Vector.getElem_of_mem hx
    simpa [get_eq_getElem] using h ⟨i, hi⟩

/-- How many places there are of which something is true. -/
theorem countP_eq_card (xs : Vector α n) (p : α → Bool) :
    xs.countP p = (Finset.univ.filter fun i : Fin n => p (xs.get i) = true).card := by
  have hlist : xs.toList = (List.finRange n).map xs.get := by
    apply List.ext_getElem <;> simp [get_eq_getElem]
  calc xs.countP p = xs.toList.countP p := by simp
    _ = ((List.finRange n).filter fun i => p (xs.get i)).length := by
      rw [hlist, List.countP_map, List.countP_eq_length_filter]
      rfl
    _ = _ := by
      rw [← List.toFinset_card_of_nodup ((List.nodup_finRange n).filter _), List.toFinset_filter]
      congr 1
      ext i
      simp

end Places

/-- The binding with a new value from the bus. -/
def Binding.brought (b : Binding) (v : Value) : Binding :=
  { b with value := some v, update := some v }

namespace Registry

/-! ### The table of bindings -/

variable {r r' : Registry} {address : GroupAddress} {id : BindingId}

theorem getElem_bindings (bindings : Vector (Option Binding) maxBindings) (id : BindingId) :
    bindings[id] = getElem bindings id.val id.isLt := rfl

@[simp] theorem getElem_bindings_empty (id : BindingId) : empty.bindings[id] = none := by
  simp [getElem_bindings, empty]

theorem getElem_setBinding (r : Registry) (id id' : BindingId) (b : Option Binding) :
    (r.setBinding id b).bindings[id'] = if id = id' then b else r.bindings[id'] := by
  simp [getElem_bindings, setBinding, Vector.getElem_set, Fin.ext_iff]

/-- The address that is bound at a place. -/
def addressAt (r : Registry) (id : BindingId) : Option GroupAddress :=
  r.bindings[id].map Binding.address

theorem any_address (o : Option Binding) :
    (o.any fun b => b.address = address) = decide (o.map Binding.address = some address) := by
  cases o <;> simp

/-- The binding of an address is at the first place where it is bound. -/
theorem find?_eq_some_iff :
    r.find? address = some id ↔
      r.addressAt id = some address ∧ ∀ id' < id, r.addressAt id' ≠ some address := by
  simp only [find?, findFinIdx?_eq_some_iff, any_address, decide_eq_true_eq,
    decide_eq_false_iff_not]
  rfl

theorem find?_eq_none_iff : r.find? address = none ↔ ∀ id, r.addressAt id ≠ some address := by
  simp only [find?, findFinIdx?_eq_none_iff, any_address, decide_eq_false_iff_not]
  rfl

/-- The binding of an address is there. -/
theorem exists_of_find? (h : r.find? address = some id) :
    ∃ b, r.bindings[id] = some b ∧ b.address = address :=
  Option.map_eq_some_iff.mp (find?_eq_some_iff.mp h).1

theorem find?_congr (h : ∀ id, r'.addressAt id = r.addressAt id) (address : GroupAddress) :
    r'.find? address = r.find? address := by
  ext id
  simp only [find?_eq_some_iff, h]

theorem dpt?_eq_some_iff {t : Dpt} :
    r.dpt? address = some t ↔
      ∃ id b, r.find? address = some id ∧ r.bindings[id] = some b ∧ b.dpt = t := by
  simp [dpt?, Option.bind_eq_some_iff]

/-- Where a binding is changed and keeps its address, every address is found as before. -/
theorem find?_setBinding {b b' : Binding} (hb : r.bindings[id] = some b)
    (ha : b'.address = b.address) (address : GroupAddress) :
    (r.setBinding id (some b')).find? address = r.find? address := by
  refine find?_congr (fun id' => ?_) address
  rw [addressAt, addressAt, getElem_setBinding]
  split
  · subst id'
    simp [hb, ha]
  · rfl

/-- **A new value** is brought to the binding of an address, if its type can read the data. -/
theorem update_of_decode {b : Binding} {data : Apdu} {v : Value} (hid : r.find? address = some id)
    (hb : r.bindings[id] = some b) (hv : b.dpt.decode data.toList = .ok v) :
    r.update address data = (some v, r.setBinding id (some (b.brought v))) := by
  simp only [update, hid, hb, hv]
  rfl

/-- Whatever telegram brings the value, the reads apart. -/
theorem onTelegram_of_decode {b : Binding} {service : GroupService} {data : Apdu} {v : Value}
    (hs : service ≠ .read) (hid : r.find? address = some id) (hb : r.bindings[id] = some b)
    (hv : b.dpt.decode data.toList = .ok v) :
    ∃ reads, r.onTelegram service address data =
      (some v, { r with reads := reads }.setBinding id (some (b.brought v))) := by
  cases service with
  | read => exact absurd rfl hs
  | write => exact ⟨r.reads, update_of_decode hid hb hv⟩
  | response =>
    -- The reads are answered first, which leaves the bindings as they are.
    exact ⟨_, update_of_decode (r := r.answerReads address data) hid hb hv⟩

/-- If there is no binding, or its type cannot read the data, nothing changes. -/
theorem update_cases (r : Registry) (address : GroupAddress) (data : Apdu) :
    (∃ id b v, r.find? address = some id ∧ r.bindings[id] = some b ∧
      b.dpt.decode data.toList = .ok v) ∨ r.update address data = (none, r) := by
  cases hid : r.find? address with
  | none => exact .inr (by simp only [update, hid])
  | some id =>
    obtain ⟨b, hb, -⟩ := exists_of_find? hid
    cases hv : b.dpt.decode data.toList with
    | error f => exact .inr (by simp only [update, hid, hb, hv])
    | ok v => exact .inl ⟨id, b, v, rfl, hb, hv⟩

/-- **What can become of binding an address.** -/
inductive Binds (r : Registry) (address : GroupAddress) (dpt : Dpt) :
    Except Fault (BindingId × Registry) → Prop
  /-- It is bound with another type. -/
  | mismatch {id : BindingId} {b : Binding} (hid : r.find? address = some id)
      (hb : r.bindings[id] = some b) (ht : b.dpt ≠ dpt) :
      Binds r address dpt (.error (.dpt .typeMismatch))
  /-- It is bound with this type, by as many handles as there can be. -/
  | crowded {id : BindingId} {b : Binding} (hid : r.find? address = some id)
      (hb : r.bindings[id] = some b) (ht : b.dpt = dpt) (h : maxHandles ≤ b.handles) :
      Binds r address dpt (.error (.tunneling .registryFull))
  /-- It is bound with this type, and has one more handle. -/
  | share {id : BindingId} {b : Binding} (hid : r.find? address = some id)
      (hb : r.bindings[id] = some b) (ht : b.dpt = dpt) (h : b.handles < maxHandles) :
      Binds r address dpt (.ok (id, r.setBinding id (some { b with handles := b.handles + 1 })))
  /-- It is not bound, and there is no place for it. -/
  | full (hid : r.find? address = none) (h : ∀ id : BindingId, r.bindings[id].isSome) :
      Binds r address dpt (.error (.tunneling .registryFull))
  /-- It is not bound, and takes a place. -/
  | take {id : BindingId} (hid : r.find? address = none) (hb : r.bindings[id] = none) :
      Binds r address dpt (.ok (id, r.setBinding id (some ⟨address, dpt, 1, none, none⟩)))

theorem binds (r : Registry) (address : GroupAddress) (dpt : Dpt) :
    r.Binds address dpt (r.bind address dpt) := by
  unfold bind
  cases hid : r.find? address with
  | some id =>
    obtain ⟨b, hb, -⟩ := exists_of_find? hid
    simp only [hb]
    by_cases ht : b.dpt = dpt
    · rw [if_neg (not_not_intro ht)]
      split
      · exact .share hid hb ht ‹_›
      · exact .crowded hid hb ht (Nat.le_of_not_lt ‹_›)
    · rw [if_pos ht]
      exact .mismatch hid hb ht
  | none =>
    cases hfree : r.bindings.findFinIdx? Option.isNone with
    | some id => exact .take hid (Option.isNone_iff_eq_none.mp (findFinIdx?_eq_some_iff.mp hfree).1)
    | none =>
      refine .full hid fun id => ?_
      have hnone : r.bindings[id].isNone = false := findFinIdx?_eq_none_iff.mp hfree id
      simpa [Option.isSome_iff_ne_none] using hnone

/-! ### The table of reads -/

theorem reads_bind {dpt : Dpt} (h : r.bind address dpt = .ok (id, r')) : r'.reads = r.reads := by
  have hbinds := r.binds address dpt
  rw [h] at hbinds
  cases hbinds with
  | share | take => rfl

theorem getElem_reads (reads : Vector ReadSlot maxPendingReads) (id : ReadId) :
    reads[id] = getElem reads id.val id.isLt := rfl

@[simp] theorem getElem_reads_empty (id : ReadId) : empty.reads[id] = .free := by
  simp [getElem_reads, empty]

theorem getElem_setRead (r : Registry) (id id' : ReadId) (slot : ReadSlot) :
    (r.setRead id slot).reads[id'] = if id = id' then slot else r.reads[id'] := by
  simp [getElem_reads, setRead, Vector.getElem_set, Fin.ext_iff]

theorem getElem_answerReads (r : Registry) (address : GroupAddress) (data : Apdu) (id : ReadId) :
    (r.answerReads address data).reads[id] =
      if r.reads[id] = .waiting address then .answered data else r.reads[id] := by
  simp [getElem_reads, answerReads]

/-- A read begins where nothing is read, and cannot begin if there is no such place. -/
theorem beginRead_cases (r : Registry) (address : GroupAddress) :
    (∃ id, r.reads[id] = .free ∧ r.beginRead address = .ok (id, r.setRead id (.waiting address))) ∨
      (∀ id : ReadId, r.reads[id] ≠ .free) ∧
        r.beginRead address = .error (.tunneling .tooManyPendingReads) := by
  unfold beginRead
  cases hfree : r.reads.findFinIdx? fun slot => slot = .free with
  | some id => exact .inl ⟨id, of_decide_eq_true (findFinIdx?_eq_some_iff.mp hfree).1, rfl⟩
  | none =>
    exact .inr ⟨fun id => of_decide_eq_false (findFinIdx?_eq_none_iff.mp hfree id), rfl⟩

/-- A new value for a binding is none of the reads' business. -/
theorem reads_update (r : Registry) (address : GroupAddress) (data : Apdu) :
    (r.update address data).2.reads = r.reads := by
  rcases r.update_cases address data with ⟨id, b, v, hid, hb, hv⟩ | h
  · rw [update_of_decode hid hb hv]
    rfl
  · rw [h]

end Registry

end KnxIp
