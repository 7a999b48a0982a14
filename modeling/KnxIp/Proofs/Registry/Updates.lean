import KnxIp.Proofs.Registry.Bindings

/-!
# What telegrams bring to bindings

A telegram for a group brings a value to the binding of the group: what the type of the binding
reads in the data, unless the telegram is a question, or the type cannot read it
(`KnxIp.Registry.News.valueFor?`). This module says so place by place, for any registry
whatsoever – also for one in which an address were bound twice, where only the first of the two
places is concerned.
-/

namespace KnxIp

namespace Registry

/-- **The value that a telegram brings** to an address that is bound with a type. -/
def News.valueFor? (t : News) (address : GroupAddress) (dpt : Dpt) : Option Value :=
  if t.service ≠ .read ∧ t.address = address then (dpt.decode t.data.toList).toOption else none

end Registry

open Registry

/-- **The binding after a telegram**: with the value that it brings, if it does. -/
def Binding.hear (b : Binding) (t : News) : Binding :=
  ((t.valueFor? b.address b.dpt).map b.brought).getD b

namespace Binding

variable {b : Binding} {t : News} {v : Value}

theorem hear_of_some (h : t.valueFor? b.address b.dpt = some v) : b.hear t = b.brought v := by
  rw [hear, h]
  rfl

theorem hear_of_none (h : t.valueFor? b.address b.dpt = none) : b.hear t = b := by
  rw [hear, h]
  rfl

end Binding

namespace Registry

variable {address : GroupAddress} {dpt : Dpt} {t : News} {v : Value}

theorem News.valueFor?_eq_some_iff :
    t.valueFor? address dpt = some v ↔
      t.service ≠ .read ∧ t.address = address ∧ dpt.decode t.data.toList = .ok v := by
  unfold valueFor?
  split
  · rename_i h
    simp only [h, ne_eq, not_false_eq_true, true_and]
    cases dpt.decode t.data.toList <;> simp [Except.toOption]
  · rename_i h
    simp only [reduceCtorEq, false_iff]
    exact fun h' => h ⟨h'.1, h'.2.1⟩

/-- A question brings nothing. -/
theorem News.valueFor?_of_read (hs : t.service = .read) : t.valueFor? address dpt = none :=
  if_neg fun h => h.1 hs

/-- Anything else brings what the type reads in the data. -/
theorem News.valueFor?_of_ne_read (hs : t.service ≠ .read) (dpt : Dpt) :
    t.valueFor? t.address dpt = (dpt.decode t.data.toList).toOption := if_pos ⟨hs, rfl⟩

/-! ### One telegram -/

/-- A value that is read in data, for the binding of an address. -/
theorem fst_update (r : Registry) (address : GroupAddress) (data : Apdu) :
    (r.update address data).1 =
      (r.dpt? address).bind fun dpt => (dpt.decode data.toList).toOption := by
  cases hid : r.find? address with
  | none => simp [update, dpt?, hid]
  | some id =>
    obtain ⟨b, hb, -⟩ := exists_of_find? hid
    cases hv : b.dpt.decode data.toList with
    | error f => simp [update, dpt?, hid, hb, hv, Except.toOption]
    | ok v => simp [update, dpt?, hid, hb, hv, Except.toOption]

/-- It goes to the first place where the address is bound. -/
theorem getElem_update (r : Registry) (address : GroupAddress) (data : Apdu) (id : BindingId) :
    (r.update address data).2.bindings[id] =
      if r.find? address = some id then
        r.bindings[id].map fun b => ((b.dpt.decode data.toList).toOption.map b.brought).getD b
      else r.bindings[id] := by
  cases hid : r.find? address with
  | none => simp [update, hid]
  | some id' =>
    obtain ⟨b, hb, -⟩ := exists_of_find? hid
    cases hv : b.dpt.decode data.toList with
    | error f =>
      simp only [update, hid, hb, hv, Option.some.injEq]
      split
      · subst id
        simp [hb, hv, Except.toOption]
      · rfl
    | ok v =>
      simp only [update_of_decode hid hb hv, getElem_setBinding, Option.some.injEq]
      split
      · subst id
        simp [hb, hv, Except.toOption]
      · rfl

/-- What is no question is an update, once the reads have been answered. -/
theorem exists_onTelegram_eq_update (hs : t.service ≠ .read) (r : Registry) :
    ∃ r' : Registry, r'.bindings = r.bindings ∧
      r.onTelegram t.service t.address t.data = r'.update t.address t.data := by
  obtain ⟨service, address, data⟩ := t
  cases service with
  | read => exact absurd rfl hs
  | write => exact ⟨r, rfl, rfl⟩
  | response => exact ⟨r.answerReads address data, rfl, rfl⟩

/-- **The value of a telegram** is that which it brings to the binding of its group. -/
theorem fst_onTelegram (r : Registry) (t : News) :
    (r.onTelegram t.service t.address t.data).1 =
      (r.dpt? t.address).bind (t.valueFor? t.address) := by
  by_cases hs : t.service = .read
  · have hnone : t.valueFor? t.address = fun _ => none := funext fun _ => News.valueFor?_of_read hs
    rw [hnone, Option.bind_fun_none, hs]
    rfl
  · obtain ⟨r', hbindings, heq⟩ := exists_onTelegram_eq_update hs r
    have hdpt : r'.dpt? t.address = r.dpt? t.address := by rw [dpt?, dpt?, find?, find?, hbindings]
    have hvalue : t.valueFor? t.address = fun dpt => (dpt.decode t.data.toList).toOption :=
      funext fun dpt => News.valueFor?_of_ne_read hs dpt
    rw [heq, fst_update, hdpt, hvalue]

/-- **A telegram changes one place**: the first where its group is bound. -/
theorem getElem_bindings_onTelegram (r : Registry) (t : News) (id : BindingId) :
    (r.onTelegram t.service t.address t.data).2.bindings[id] =
      if r.find? t.address = some id then r.bindings[id].map (·.hear t) else r.bindings[id] := by
  by_cases hs : t.service = .read
  · have hsame : (fun b : Binding => b.hear t) = fun b => b :=
      funext fun _ => Binding.hear_of_none (News.valueFor?_of_read hs)
    rw [hsame, Option.map_id', ite_self, hs]
    rfl
  · obtain ⟨r', hbindings, heq⟩ := exists_onTelegram_eq_update hs r
    have hfind : r'.find? t.address = r.find? t.address := by rw [find?, find?, hbindings]
    rw [heq, getElem_update, hfind, hbindings]
    split
    · obtain ⟨b, hb, ha⟩ := exists_of_find? ‹_›
      rw [hb, Option.map_some, Option.map_some, Binding.hear, ha, News.valueFor?_of_ne_read hs]
    · rfl

/-- **A telegram changes the bindings of its group**, if no address is bound twice. -/
theorem Counts.getElem_onTelegram {r : Registry} {ps : List Point} (h : r.Counts ps) (t : News)
    (id : BindingId) :
    (r.onTelegram t.service t.address t.data).2.bindings[id] = r.bindings[id].map (·.hear t) := by
  rw [getElem_bindings_onTelegram]
  split
  · rfl
  · rename_i hid
    cases hb : r.bindings[id] with
    | none => rfl
    | some b =>
      -- The binding is not the one that is found, so it has another address.
      have ha : t.address ≠ b.address := by
        intro ha
        have hat : r.addressAt id = some b.address := by simp [addressAt, hb]
        refine hid (find?_eq_some_iff.mpr ⟨ha ▸ hat, fun id' hlt hat' => ?_⟩)
        exact absurd (h.distinct id' id _ hat' (ha ▸ hat)) (Fin.ne_of_lt hlt)
      rw [Option.map_some, Binding.hear_of_none (if_neg fun h => ha h.2)]

/-! ### What is there for who waits -/

/-- The value that is there for who waits at a place, if one is. -/
def update? (r : Registry) (id : BindingId) : Option Value := r.bindings[id].bind Binding.update

/-- **The last value** that some telegrams bring to an address, bound with a type. -/
def lastValue? (ts : List News) (address : GroupAddress) (dpt : Dpt) : Option Value :=
  (ts.filterMap fun t => t.valueFor? address dpt).getLast?

variable {r r' : Registry} {ps : List Point} {p : Point} {id id' : BindingId}

theorem lastValue?_concat (ts : List News) (t : News) (address : GroupAddress) (dpt : Dpt) :
    lastValue? (ts ++ [t]) address dpt =
      (t.valueFor? address dpt).or (lastValue? ts address dpt) := by
  rw [lastValue?, lastValue?, List.filterMap_append]
  cases h : t.valueFor? address dpt <;> simp [h]

theorem update?_congr (h : r'.bindings = r.bindings) (id : BindingId) :
    r'.update? id = r.update? id := by rw [update?, update?, h]

theorem lastValue?_isSome_iff {ts : List News} :
    (lastValue? ts address dpt).isSome ↔ ∃ t ∈ ts, (t.valueFor? address dpt).isSome := by
  rw [lastValue?, List.getLast?_isSome, ← List.length_pos_iff, List.length_pos_iff_exists_mem]
  simp only [List.mem_filterMap, Option.isSome_iff_exists]
  exact ⟨fun ⟨v, t, ht, hv⟩ => ⟨t, ht, v, hv⟩, fun ⟨t, ht, v, hv⟩ => ⟨v, t, ht, hv⟩⟩

/-- What is there is what is taken. -/
theorem takeUpdate?_eq (r : Registry) (id : BindingId) :
    r.takeUpdate? id = (r.update? id).map fun v => (v, r.beginWait id) := rfl

/-- A wait that begins finds nothing, and is nothing to those at other places. -/
theorem update?_beginWait (r : Registry) (id id' : BindingId) :
    (r.beginWait id).update? id' = if id = id' then none else r.update? id' := by
  rw [update?, beginWait, modifyBinding, getElem_setBinding]
  split
  · cases r.bindings[id] <;> rfl
  · rfl

/-- Nor is a value that is written. -/
theorem update?_store (r : Registry) (id : BindingId) (v : Value) (id' : BindingId) :
    (r.store id v).update? id' = r.update? id' := by
  rw [update?, update?, store, modifyBinding, getElem_setBinding]
  split
  · subst id'
    cases r.bindings[id] <;> rfl
  · rfl

/-- **A binding after an address was bound** is as it was but for its handles, or it is new. -/
theorem eq_of_bind {address : GroupAddress} {dpt : Dpt} {b' : Binding}
    (hr : r.bind address dpt = .ok (id, r')) (hb' : r'.bindings[id'] = some b') :
    (∃ b, r.bindings[id'] = some b ∧ b' = { b with handles := b'.handles }) ∨
      r.bindings[id'] = none ∧ b' = ⟨address, dpt, 1, none, none⟩ := by
  have hbinds := r.binds address dpt
  rw [hr] at hbinds
  cases hbinds with
  | share hid hb ht hlt =>
    rw [getElem_setBinding] at hb'
    split at hb'
    · subst id'
      obtain rfl := Option.some.inj hb'
      exact .inl ⟨_, hb, rfl⟩
    · exact .inl ⟨b', hb', rfl⟩
  | take hid hb =>
    rw [getElem_setBinding] at hb'
    split at hb'
    · subst id'
      exact .inr ⟨hb, (Option.some.inj hb').symm⟩
    · exact .inl ⟨b', hb', rfl⟩

/-- **A binding after a handle was given up** is as it was but for its handles. -/
theorem eq_of_unbind {b' : Binding} (hb' : (r.unbind id).bindings[id'] = some b') :
    ∃ b, r.bindings[id'] = some b ∧ b' = { b with handles := b'.handles } := by
  rw [unbind, getElem_setBinding] at hb'
  split at hb'
  · subst id'
    obtain ⟨b, hb, hfew⟩ := Option.bind_eq_some_iff.mp hb'
    split at hfew
    · cases hfew
    · obtain rfl := Option.some.inj hfew
      exact ⟨b, hb, rfl⟩
  · exact ⟨b', hb', rfl⟩

/-- A handle that is held finds what it found before another was given. -/
theorem update?_bind {address : GroupAddress} {dpt : Dpt}
    (hr : r.bind address dpt = .ok (id, r')) (h : r'.Counts ps) (hp : p ∈ ps) :
    r'.update? p.binding = r.update? p.binding := by
  obtain ⟨b', hb', -⟩ := h.exists_binding hp
  rw [update?, update?, hb']
  rcases eq_of_bind hr hb' with ⟨b, hb, heq⟩ | ⟨hb, rfl⟩
  · rw [hb, heq]
    rfl
  · rw [hb]
    rfl

/-- So it does after another was given up. -/
theorem update?_unbind (h : (r.unbind id).Counts ps) (hp : p ∈ ps) :
    (r.unbind id).update? p.binding = r.update? p.binding := by
  obtain ⟨b', hb', -⟩ := h.exists_binding hp
  obtain ⟨b, hb, heq⟩ := eq_of_unbind hb'
  rw [update?, update?, hb', hb, heq]
  rfl

/-- **A telegram leaves the value that it brings** for who waits with a handle. -/
theorem Counts.update?_onTelegram (h : r.Counts ps) (hp : p ∈ ps) (t : News) :
    (r.onTelegram t.service t.address t.data).2.update? p.binding =
      (t.valueFor? p.address p.dpt).or (r.update? p.binding) := by
  obtain ⟨b, hb, ha, ht⟩ := h.exists_binding hp
  rw [update?, update?, h.getElem_onTelegram, hb, Option.map_some, Option.bind_some,
    Option.bind_some, Binding.hear, ha, ht]
  cases t.valueFor? p.address p.dpt <;> rfl

end Registry

end KnxIp
