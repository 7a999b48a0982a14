import KnxIp.Proofs.Config.Fields
import Mathlib.Data.List.Nodup

/-!
# What the entries of a settings text lead to

Entries are gone through three times: for the gateway's address, for its port, and for
everything else. So which entry of a key decides depends on the key: the first one
(`KnxIp.Config.firstValue?`) of the keys of the gateway, and the last
(`KnxIp.Config.lastValue?`) of the others. And of the keys of the gateway only the first entry
is heeded at all, while every entry of another key has to have a value that can be read.

What comes out is said with two relations between keys and values: which of them are heeded,
and which decide (`KnxIp.Config.Outcome`). These two are all that it depends on
(`KnxIp.Config.Outcome.unique`), and where no key is told twice, both are membership in the
entries.

## Main statements

* `KnxIp.Config.foldlM_set?_cases`: taking in entries one after the other.
* `KnxIp.Config.outcome_ofEntries`: the settings, or the fault, that entries lead to.
* `KnxIp.Config.outcome_of_nodup`: the same where the entries have different keys.
* `KnxIp.Config.ofEntries_of_perm`: such entries may be put in another order.
-/

namespace KnxIp.Config

/-! ### All entries -/

/-- What the last entry with this key says. -/
def lastValue? (key : Key) (es : List (Key × List Char)) : Option (List Char) :=
  firstValue? key es.reverse

theorem firstValue?_append (key : Key) (es fs : List (Key × List Char)) :
    firstValue? key (es ++ fs) = (firstValue? key es).or (firstValue? key fs) := by
  unfold firstValue?
  rw [List.find?_append]
  cases es.find? fun e => e.1 = key <;> rfl

theorem firstValue?_singleton (key : Key) (e : Key × List Char) :
    firstValue? key [e] = if e.1 = key then some e.2 else none := by
  by_cases h : e.1 = key <;> simp [firstValue?, h]

theorem lastValue?_cons (key : Key) (e : Key × List Char) (es : List (Key × List Char)) :
    lastValue? key (e :: es) =
      (lastValue? key es).or (if e.1 = key then some e.2 else none) := by
  rw [lastValue?, List.reverse_cons, firstValue?_append, firstValue?_singleton, lastValue?]

/-- **What entries do to the settings**, one after the other: the fields of the gateway stay,
and of every other key the last entry decides. -/
structure Follows (c : Config) (es : List (Key × List Char)) (d : Config) : Prop where
  localEndpoint : d.localEndpoint = c.localEndpoint
  gateway : ∀ key, key.isGateway = true → d.get key = c.get key
  told : ∀ key value, key.isGateway = false → lastValue? key es = some value →
    key.read? value = some (d.get key)
  untold : ∀ key, lastValue? key es = none → d.get key = c.get key

namespace Follows

theorem nil (c : Config) : Follows c [] c where
  localEndpoint := rfl
  gateway _ _ := rfl
  told _ _ _ h := nomatch h
  untold _ _ := rfl

/-- An entry about the gateway goes first. -/
theorem cons_gateway {c d : Config} {e : Key × List Char} {es : List (Key × List Char)}
    (he : e.1.isGateway = true) (h : Follows c es d) : Follows c (e :: es) d where
  localEndpoint := h.localEndpoint
  gateway := h.gateway
  told key value hkey hvalue := by
    have hne : e.1 ≠ key := by
      rintro rfl
      simp [he] at hkey
    rw [lastValue?_cons, if_neg hne, Option.or_none] at hvalue
    exact h.told key value hkey hvalue
  untold key hnone := by
    rw [lastValue?_cons, Option.or_eq_none_iff] at hnone
    exact h.untold key hnone.1

/-- An entry about something else goes first: it decides if no later one has its key. -/
theorem cons_put {c d : Config} {key : Key} {text : List Char} {value : key.Value}
    {es : List (Key × List Char)} (hkey : key.isGateway = false)
    (hvalue : key.read? text = some value) (h : Follows (c.put key value) es d) :
    Follows c ((key, text) :: es) d where
  localEndpoint := by rw [h.localEndpoint, localEndpoint_put]
  gateway other hother := by
    have hne : other ≠ key := by
      rintro rfl
      simp [hkey] at hother
    rw [h.gateway other hother, get_put_of_ne c hne]
  told other text' hother hlast := by
    rw [lastValue?_cons] at hlast
    cases hlater : lastValue? other es with
    | some later =>
      rw [hlater, Option.some_or] at hlast
      exact h.told other text' hother (hlater.trans hlast)
    | none =>
      rw [hlater, Option.none_or, Option.ite_none_right_eq_some] at hlast
      obtain ⟨rfl, htext⟩ := hlast
      cases htext
      rw [h.untold key hlater, get_put, hvalue]
  untold other hnone := by
    rw [lastValue?_cons, Option.or_eq_none_iff] at hnone
    obtain ⟨hlater, hhere⟩ := hnone
    have hne : other ≠ key := by
      rintro rfl
      simp at hhere
    rw [h.untold other hlater, get_put_of_ne c hne]

end Follows

/-- **Entries fail at a value that cannot be read**, or are followed to the last. -/
theorem foldlM_set?_cases (c : Config) (es : List (Key × List Char)) :
    (∃ d, es.foldlM (fun c e => valueOrFault (c.set? e.1 e.2)) c = .ok d ∧ Follows c es d ∧
        ∀ e ∈ es, e.1.isGateway = false → e.1.read? e.2 ≠ none) ∨
      es.foldlM (fun c e => valueOrFault (c.set? e.1 e.2)) c = .error (.config .invalidValue) ∧
        ∃ e ∈ es, e.1.isGateway = false ∧ e.1.read? e.2 = none := by
  induction es generalizing c with
  | nil => exact .inl ⟨c, rfl, .nil c, nofun⟩
  | cons e es ih =>
    obtain ⟨key, text⟩ := e
    rw [List.foldlM_cons]
    cases hkey : key.isGateway with
    | true =>
      rw [set?_of_isGateway c hkey]
      obtain ⟨d, hd, hfollows, hread⟩ | ⟨hfault, e, he, hunread⟩ := ih c
      · exact .inl ⟨d, hd, hfollows.cons_gateway hkey,
          List.forall_mem_cons.mpr ⟨by simp [hkey], hread⟩⟩
      · exact .inr ⟨hfault, e, List.mem_cons_of_mem _ he, hunread⟩
    | false =>
      rw [set?_eq c hkey]
      cases hvalue : key.read? text with
      | none => exact .inr ⟨rfl, _, List.mem_cons_self, hkey, hvalue⟩
      | some value =>
        obtain ⟨d, hd, hfollows, hread⟩ | ⟨hfault, e, he, hunread⟩ := ih (c.put key value)
        · exact .inl ⟨d, hd, hfollows.cons_put hkey hvalue,
            List.forall_mem_cons.mpr ⟨by simp [hvalue], hread⟩⟩
        · exact .inr ⟨hfault, e, List.mem_cons_of_mem _ he, hunread⟩

/-! ### The whole text -/

/-- **Which settings are described** if these are the values that decide. -/
structure Describes (decides : Key → List Char → Prop) (c : Config) : Prop where
  localEndpoint : c.localEndpoint = .unspecified
  told : ∀ key value, decides key value → key.read? value = some (c.get key)
  untold : ∀ key, (∀ value, ¬ decides key value) →
    c.get key = (ofGateway ⟨c.gateway.ip, defaultPort⟩).get key

/-- **What comes out** if these values are heeded and these decide: a fault if the gateway's
address is not told, another one if a value that is heeded cannot be read, and otherwise the
settings that are described. -/
inductive Outcome (heeds decides : Key → List Char → Prop) : Except Fault Config → Prop
  | missing (h : ∀ value, ¬ decides .gatewayIp value) :
    Outcome heeds decides (.error (.config .missingKey))
  | invalid {ip : List Char} (hip : decides .gatewayIp ip) {key : Key} {value : List Char}
    (h : heeds key value) (hvalue : key.read? value = none) :
    Outcome heeds decides (.error (.config .invalidValue))
  | described {ip : List Char} (hip : decides .gatewayIp ip)
    (h : ∀ key value, heeds key value → key.read? value ≠ none) {c : Config}
    (hc : Describes decides c) : Outcome heeds decides (.ok c)

section Outcome

variable {heeds decides : Key → List Char → Prop}

/-- Two settings that are described alike are the same, if the gateway's address is told. -/
theorem Describes.unique {ip : List Char} (hip : decides .gatewayIp ip) {c d : Config}
    (hc : Describes decides c) (hd : Describes decides d) : c = d := by
  have hread : some (c.get .gatewayIp) = some (d.get .gatewayIp) :=
    (hc.told .gatewayIp ip hip).symm.trans (hd.told .gatewayIp ip hip)
  have hgateway : c.gateway.ip = d.gateway.ip := Option.some.inj hread
  refine ext_get (hc.localEndpoint.trans hd.localEndpoint.symm) fun key => ?_
  by_cases htold : ∃ value, decides key value
  · obtain ⟨value, hvalue⟩ := htold
    exact Option.some.inj ((hc.told key value hvalue).symm.trans (hd.told key value hvalue))
  · have huntold := not_exists.mp htold
    rw [hc.untold key huntold, hd.untold key huntold, hgateway]

/-- **Nothing else matters.** -/
theorem Outcome.unique {r s : Except Fault Config} (hr : Outcome heeds decides r)
    (hs : Outcome heeds decides s) : r = s := by
  cases hr with
  | missing h =>
    cases hs with
    | missing => rfl
    | invalid hip => exact absurd hip (h _)
    | described hip => exact absurd hip (h _)
  | invalid hip h hvalue =>
    cases hs with
    | missing hnone => exact absurd hip (hnone _)
    | invalid => rfl
    | described _ hheeds => exact absurd hvalue (hheeds _ _ h)
  | described hip hheeds hc =>
    cases hs with
    | missing hnone => exact absurd hip (hnone _)
    | invalid _ h hvalue => exact absurd hvalue (hheeds _ _ h)
    | described _ _ hd => rw [hc.unique hip hd]

theorem Outcome.missing_iff {r : Except Fault Config} (hr : Outcome heeds decides r) :
    r = .error (.config .missingKey) ↔ ∀ value, ¬ decides .gatewayIp value := by
  refine ⟨fun h => ?_, fun h => hr.unique (.missing h)⟩
  cases hr with
  | missing hnone => exact hnone
  | invalid => cases h
  | described => cases h

theorem Outcome.invalid_iff {r : Except Fault Config} (hr : Outcome heeds decides r) :
    r = .error (.config .invalidValue) ↔
      (∃ value, decides .gatewayIp value) ∧
        ∃ key value, heeds key value ∧ key.read? value = none := by
  constructor
  · intro h
    cases hr with
    | missing => cases h
    | invalid hip hread hvalue => exact ⟨⟨_, hip⟩, _, _, hread, hvalue⟩
    | described => cases h
  · rintro ⟨⟨ip, hip⟩, key, value, hread, hvalue⟩
    exact hr.unique (.invalid hip hread hvalue)

theorem Outcome.ok_iff {r : Except Fault Config} (hr : Outcome heeds decides r) {c : Config} :
    r = .ok c ↔
      (∃ value, decides .gatewayIp value) ∧
        (∀ key value, heeds key value → key.read? value ≠ none) ∧ Describes decides c := by
  constructor
  · intro h
    cases hr with
    | missing => cases h
    | invalid => cases h
    | described hip hheeds hc =>
      cases h
      exact ⟨⟨_, hip⟩, hheeds, hc⟩
  · rintro ⟨⟨ip, hip⟩, hheeds, hc⟩
    exact hr.unique (.described hip hheeds hc)

/-- There are only these two faults. -/
theorem Outcome.eq_of_error {fault : Fault} (hr : Outcome heeds decides (.error fault)) :
    fault = .config .missingKey ∨ fault = .config .invalidValue := by
  cases hr with
  | missing => exact .inl rfl
  | invalid => exact .inr rfl

end Outcome

/-- **The entries that are heeded**: of the keys of the gateway the first, and of every other key
all. -/
def Heeds (es : List (Key × List Char)) (key : Key) (value : List Char) : Prop :=
  (key, value) ∈ es ∧ (key.isGateway = true → firstValue? key es = some value)

/-- **The entries that decide**: of the keys of the gateway the first, and of every other key
the last. -/
def Decides (es : List (Key × List Char)) (key : Key) (value : List Char) : Prop :=
  (if key.isGateway then firstValue? key es else lastValue? key es) = some value

theorem decides_iff_first {key : Key} (h : key.isGateway = true) {es : List (Key × List Char)}
    {value : List Char} : Decides es key value ↔ firstValue? key es = some value := by
  rw [Decides, if_pos h]

theorem decides_iff_last {key : Key} (h : key.isGateway = false) {es : List (Key × List Char)}
    {value : List Char} : Decides es key value ↔ lastValue? key es = some value := by
  rw [Decides, if_neg (by simp [h])]

theorem mem_of_firstValue? {key : Key} {es : List (Key × List Char)} {value : List Char}
    (h : firstValue? key es = some value) : (key, value) ∈ es := by
  obtain ⟨⟨other, value⟩, he, rfl⟩ := Option.map_eq_some_iff.mp h
  have hkey := List.find?_some he
  simp only [decide_eq_true_eq] at hkey
  subst hkey
  exact List.mem_of_find?_eq_some he

section Gateway

variable {es : List (Key × List Char)} {gateway : Endpoint}

/-- Entries that are followed from the settings for a gateway, which the first entries with its
keys tell, describe what comes out. -/
theorem Follows.describes {d : Config} (h : Follows (ofGateway gateway) es d)
    (hfirst : ∀ key value, key.isGateway = true → firstValue? key es = some value →
      key.read? value = some ((ofGateway gateway).get key))
    (hnone : firstValue? .gatewayPort es = none → gateway.port = defaultPort) :
    Describes (Decides es) d where
  localEndpoint := h.localEndpoint
  told key value hdecides := by
    cases hkey : key.isGateway with
    | true =>
      rw [h.gateway key hkey]
      exact hfirst key value hkey ((decides_iff_first hkey).mp hdecides)
    | false => exact h.told key value hkey ((decides_iff_last hkey).mp hdecides)
  untold key huntold := by
    cases hkey : key.isGateway with
    | true =>
      simp only [decides_iff_first hkey] at huntold
      have habsent := Option.eq_none_iff_forall_ne_some.mpr huntold
      cases key with
      | gatewayIp => rfl
      | gatewayPort => exact (h.gateway .gatewayPort hkey).trans (hnone habsent)
      | _ => cases hkey
    | false =>
      simp only [decides_iff_last hkey] at huntold
      have habsent := Option.eq_none_iff_forall_ne_some.mpr huntold
      exact (h.untold key habsent).trans (get_ofGateway hkey _ _)

/-- **What entries lead to** once the gateway is known. -/
theorem outcome_foldlM {text : List Char} (htext : firstValue? .gatewayIp es = some text)
    (hip : Key.gatewayIp.read? text = some gateway.ip)
    (hport : ∀ value, firstValue? .gatewayPort es = some value →
      Key.gatewayPort.read? value = some gateway.port)
    (hnone : firstValue? .gatewayPort es = none → gateway.port = defaultPort) :
    Outcome (Heeds es) (Decides es)
      (es.foldlM (fun c e => valueOrFault (c.set? e.1 e.2)) (ofGateway gateway)) := by
  have hfirst (key : Key) (value : List Char) (hkey : key.isGateway = true)
      (hvalue : firstValue? key es = some value) :
      key.read? value = some ((ofGateway gateway).get key) := by
    cases key with
    | gatewayIp => rwa [← Option.some.inj (htext.symm.trans hvalue)]
    | gatewayPort => exact hport value hvalue
    | _ => cases hkey
  obtain ⟨d, hd, hfollows, hread⟩ | ⟨hfault, ⟨key, value⟩, he, hkey, hvalue⟩ :=
    foldlM_set?_cases (ofGateway gateway) es
  · have hheeds : ∀ key value, Heeds es key value → key.read? value ≠ none := by
      rintro key value ⟨hmem, hcounts⟩
      cases hkey : key.isGateway with
      | true => simp [hfirst key value hkey (hcounts hkey)]
      | false => exact hread _ hmem hkey
    rw [hd]
    exact .described htext hheeds (hfollows.describes hfirst hnone)
  · rw [hfault]
    exact .invalid htext ⟨he, fun h => by simp [hkey] at h⟩ hvalue

end Gateway

/-- **What entries lead to.** -/
theorem outcome_ofEntries (es : List (Key × List Char)) :
    Outcome (Heeds es) (Decides es) (ofEntries es) := by
  have hheeds {key : Key} {value : List Char} (h : firstValue? key es = some value) :
      Heeds es key value := ⟨mem_of_firstValue? h, fun _ => h⟩
  unfold ofEntries
  cases htext : firstValue? .gatewayIp es with
  | none =>
    refine .missing fun value h => ?_
    cases htext.symm.trans ((decides_iff_first rfl).mp h)
  | some text =>
    dsimp only
    rw [← valueOrFault_read?_gatewayIp]
    cases hip : Key.gatewayIp.read? text with
    | none => exact .invalid htext (hheeds htext) hip
    | some ip =>
      cases hport : firstValue? .gatewayPort es with
      | none =>
        exact outcome_foldlM htext hip (fun value h => nomatch hport.symm.trans h) fun _ => rfl
      | some value =>
        dsimp only
        rw [← valueOrFault_read?_gatewayPort]
        cases hread : Key.gatewayPort.read? value with
        | none => exact .invalid htext (hheeds hport) hread
        | some port =>
          refine outcome_foldlM htext hip (fun value' h => ?_) fun h => nomatch hport.symm.trans h
          rwa [← Option.some.inj (hport.symm.trans h)]

/-! ### Keys that are told once -/

section Nodup

variable {es : List (Key × List Char)}

theorem firstValue?_eq_some_iff (h : (es.map Prod.fst).Nodup) {key : Key} {value : List Char} :
    firstValue? key es = some value ↔ (key, value) ∈ es := by
  refine ⟨mem_of_firstValue?, fun hmem => ?_⟩
  cases hfirst : firstValue? key es with
  | none =>
    have hnone := List.find?_eq_none.mp (Option.map_eq_none_iff.mp hfirst) (key, value) hmem
    simp at hnone
  | some other =>
    have hsame := List.inj_on_of_nodup_map h (mem_of_firstValue? hfirst) hmem rfl
    cases hsame
    rfl

theorem lastValue?_eq_some_iff (h : (es.map Prod.fst).Nodup) {key : Key} {value : List Char} :
    lastValue? key es = some value ↔ (key, value) ∈ es := by
  have hreverse : (es.reverse.map Prod.fst).Nodup := by
    rw [List.map_reverse, List.nodup_reverse]
    exact h
  rw [lastValue?, firstValue?_eq_some_iff hreverse, List.mem_reverse]

theorem decides_iff_mem (h : (es.map Prod.fst).Nodup) {key : Key} {value : List Char} :
    Decides es key value ↔ (key, value) ∈ es := by
  cases hkey : key.isGateway with
  | true => rw [decides_iff_first hkey, firstValue?_eq_some_iff h]
  | false => rw [decides_iff_last hkey, lastValue?_eq_some_iff h]

theorem heeds_iff_mem (h : (es.map Prod.fst).Nodup) {key : Key} {value : List Char} :
    Heeds es key value ↔ (key, value) ∈ es := by
  rw [Heeds, firstValue?_eq_some_iff h]
  exact and_iff_left_of_imp fun hmem _ => hmem

/-- **What entries with different keys lead to**: each of them is heeded, and each decides. -/
theorem outcome_of_nodup (h : (es.map Prod.fst).Nodup) {tells : Key → List Char → Prop}
    (htells : ∀ key value, (key, value) ∈ es ↔ tells key value) :
    Outcome tells tells (ofEntries es) := by
  have hheeds : Heeds es = tells := by
    funext key value
    rw [heeds_iff_mem h, htells]
  have hdecides : Decides es = tells := by
    funext key value
    rw [decides_iff_mem h, htells]
  have houtcome := outcome_ofEntries es
  rwa [hheeds, hdecides] at houtcome

/-- **Entries with different keys may be put in another order.** -/
theorem ofEntries_of_perm (h : (es.map Prod.fst).Nodup) {es' : List (Key × List Char)}
    (hperm : es.Perm es') : ofEntries es' = ofEntries es := by
  have h' : (es'.map Prod.fst).Nodup := (hperm.map Prod.fst).nodup_iff.mp h
  exact (outcome_of_nodup h' fun _ _ => hperm.symm.mem_iff).unique
    (outcome_of_nodup h fun _ _ => Iff.rfl)

end Nodup

end KnxIp.Config
