import KnxIp.Proofs.Config.Lines
import KnxIp.Proofs.Config.Settings

/-!
# Keys that are told more than once

A settings text may tell the same key on several lines. What then comes out is said of its
entries in `KnxIp.Config.outcome_ofEntries`, and here it is said of its lines: which value of a key
is told first (`KnxIp.Config.TellsFirst`) and which is told last (`KnxIp.Config.TellsLast`), which
values have to be ones that can be read (`KnxIp.Config.IsHeeded`), and which of them take effect
(`KnxIp.Config.TakesEffect`).

One would like *nothing to be ignored* (`KnxIp.Config.NothingIgnored`): a value that cannot be read
is a fault wherever it stands, and of a key that is told several times the last value takes
effect, whichever key it is. For most keys this is so, because every line is taken in. The address
and the port of the gateway are looked up instead, and a look-up ends at the first line with the
key. Lines behind it are passed over (`KnxIp.Config.IsPassedOver`), also if they say something
else, or nothing that can be read.

## Main statements

* `KnxIp.Config.firstValue?_filterMap_eq_some_iff`: the first entry comes from the first line.
* `KnxIp.Config.outcome_parse`: what a text leads to, by its lines.
* `KnxIp.Config.parse_repeats`: the faults and the settings of every text, whatever it repeats;
  and something is ignored exactly if the text is read and a value is passed over.
* `KnxIp.Config.exists_ignored`: this happens, in either way.
-/

namespace KnxIp.Config

variable {text : String} {key : Key} {value : List Char}

/-! ### The first line and the last one -/

/-- **What a text tells first** of a key. -/
def TellsFirst (text : String) (key : Key) (value : List Char) : Prop :=
  ∃ before line after, Text.lines text.toList = before ++ line :: after ∧ Says line key value ∧
    ∀ earlier ∈ before, ∀ other, ¬ Says earlier key other

/-- **What a text tells last** of a key. -/
def TellsLast (text : String) (key : Key) (value : List Char) : Prop :=
  ∃ before line after, Text.lines text.toList = before ++ line :: after ∧ Says line key value ∧
    ∀ later ∈ after, ∀ other, ¬ Says later key other

/-- A line tells a key if what is read from it has the key. -/
theorem any_entry?_iff {line : List Char} :
    (Option.any (fun e => e.1 = key) <| entry? line) = true ↔ ∃ value, Says line key value := by
  simp only [Option.any_eq_true, decide_eq_true_eq, Prod.exists, entry?_eq_some_iff]
  constructor
  · rintro ⟨_, value, hsays, rfl⟩
    exact ⟨value, hsays⟩
  · rintro ⟨value, hsays⟩
    exact ⟨key, value, hsays, rfl⟩

/-- **The first entry with a key** is read from the first line that tells the key. -/
theorem firstValue?_filterMap_eq_some_iff {lines : List (List Char)} :
    firstValue? key (lines.filterMap entry?) = some value ↔
      ∃ before line after, lines = before ++ line :: after ∧ Says line key value ∧
        ∀ earlier ∈ before, ∀ other, ¬ Says earlier key other := by
  have hfind {line : List Char} :
      (lines.find? fun line => Option.any (fun e => e.1 = key) <| entry? line) = some line ↔
        (∃ value, Says line key value) ∧ ∃ before after, lines = before ++ line :: after ∧
          ∀ earlier ∈ before, ∀ other, ¬ Says earlier key other := by
    simp only [List.find?_eq_some_iff_append, any_entry?_iff, Bool.not_eq_true',
      ← Bool.not_eq_true, not_exists]
  simp only [firstValue?, List.find?_filterMap, Option.map_eq_some_iff, Option.bind_eq_some_iff,
    hfind]
  constructor
  · rintro ⟨⟨other, value⟩, ⟨line, ⟨⟨said, hsays⟩, before, after, hlines, hnone⟩, hentry⟩, rfl⟩
    rw [entry?_eq_some_iff.mpr hsays] at hentry
    cases hentry
    exact ⟨before, line, after, hlines, hsays, hnone⟩
  · rintro ⟨before, line, after, hlines, hsays, hnone⟩
    exact ⟨(key, value), ⟨line, ⟨⟨value, hsays⟩, before, after, hlines, hnone⟩,
      entry?_eq_some_iff.mpr hsays⟩, rfl⟩

theorem firstValue?_entries_iff :
    firstValue? key (entries text.toList) = some value ↔ TellsFirst text key value :=
  firstValue?_filterMap_eq_some_iff

/-- The last entry is the first one from behind, and so is the last line. -/
theorem lastValue?_entries_iff :
    lastValue? key (entries text.toList) = some value ↔ TellsLast text key value := by
  rw [lastValue?, entries, ← List.filterMap_reverse, firstValue?_filterMap_eq_some_iff]
  constructor
  · rintro ⟨after, line, before, hlines, hsays, hnone⟩
    refine ⟨before.reverse, line, after.reverse, ?_, hsays, by simpa using hnone⟩
    rw [List.reverse_eq_iff.mp hlines]
    simp
  · rintro ⟨before, line, after, hlines, hsays, hnone⟩
    refine ⟨after.reverse, line, before.reverse, ?_, hsays, by simpa using hnone⟩
    rw [hlines]
    simp

theorem TellsFirst.tells (h : TellsFirst text key value) : Tells text key value :=
  mem_entries_iff.mp (mem_of_firstValue? (firstValue?_entries_iff.mpr h))

theorem TellsLast.tells (h : TellsLast text key value) : Tells text key value :=
  mem_entries_iff.mp (List.mem_reverse.mp (mem_of_firstValue? (lastValue?_entries_iff.mpr h)))

/-- Of a key that is told something is told first. -/
theorem Tells.exists_first (h : Tells text key value) : ∃ first, TellsFirst text key first := by
  cases hfirst : firstValue? key (entries text.toList) with
  | none =>
    have hnone := List.find?_eq_none.mp (Option.map_eq_none_iff.mp hfirst) _ (mem_entries_iff.mpr h)
    simp at hnone
  | some first => exact ⟨first, firstValue?_entries_iff.mp hfirst⟩

/-! ### What a text leads to -/

/-- **The values that have to be ones that can be read**: of the keys of the gateway those that are
told first, and of every other key all. -/
def IsHeeded (text : String) (key : Key) (value : List Char) : Prop :=
  Tells text key value ∧ (key.isGateway = true → TellsFirst text key value)

/-- **The values that take effect**: of the keys of the gateway those that are told first, and of
every other key those that are told last. -/
def TakesEffect (text : String) (key : Key) (value : List Char) : Prop :=
  if key.isGateway then TellsFirst text key value else TellsLast text key value

theorem takesEffect_iff_first (h : key.isGateway = true) :
    TakesEffect text key value ↔ TellsFirst text key value := by
  rw [TakesEffect, if_pos h]

theorem takesEffect_iff_last (h : key.isGateway = false) :
    TakesEffect text key value ↔ TellsLast text key value := by
  rw [TakesEffect, if_neg (by simp [h])]

theorem heeds_entries (text : String) : Heeds (entries text.toList) = IsHeeded text := by
  funext key value
  rw [Heeds, IsHeeded, mem_entries_iff, firstValue?_entries_iff]

theorem decides_entries (text : String) : Decides (entries text.toList) = TakesEffect text := by
  funext key value
  cases h : key.isGateway with
  | true => rw [decides_iff_first h, takesEffect_iff_first h, firstValue?_entries_iff]
  | false => rw [decides_iff_last h, takesEffect_iff_last h, lastValue?_entries_iff]

/-- **What a text leads to**, by its lines. -/
theorem outcome_parse (text : String) :
    Outcome (IsHeeded text) (TakesEffect text) (parse text) := by
  have houtcome := outcome_ofEntries (entries text.toList)
  rwa [heeds_entries, decides_entries] at houtcome

/-- The gateway's address takes effect if it is told at all. -/
theorem exists_takesEffect_gatewayIp :
    (∃ ip, TakesEffect text .gatewayIp ip) ↔ ∃ ip, Tells text .gatewayIp ip := by
  have hfirst (ip : List Char) : TakesEffect text .gatewayIp ip ↔ TellsFirst text .gatewayIp ip :=
    takesEffect_iff_first rfl
  simp only [hfirst]
  exact ⟨fun ⟨ip, h⟩ => ⟨ip, h.tells⟩, fun ⟨_, h⟩ => h.exists_first⟩

/-- Where the gateway's address is told, the only fault is a value that cannot be read. -/
theorem fault_eq_invalidValue (hip : ∃ ip, Tells text .gatewayIp ip) {fault : Fault}
    (h : parse text = .error fault) : fault = .config .invalidValue := by
  have houtcome := outcome_parse text
  obtain ⟨ip, hfirst⟩ := exists_takesEffect_gatewayIp.mpr hip
  rcases (h ▸ houtcome).eq_of_error with rfl | rfl
  · exact absurd hfirst (houtcome.missing_iff.mp h ip)
  · rfl

/-! ### What is ignored -/

/-- **Nothing is ignored**, of a text that tells the gateway's address. -/
structure NothingIgnored (text : String) : Prop where
  /-- A value that cannot be read is a fault, whichever line it is on. -/
  fault : (∃ ip, Tells text .gatewayIp ip) → ∀ key value, Tells text key value →
    key.read? value = none → parse text = .error (.config .invalidValue)
  /-- Of values that can all be read the last one takes effect, whichever key it is. -/
  last : ∀ c, parse text = .ok c → ∀ key value,
    (∀ other, Tells text key other → key.read? other ≠ none) → TellsLast text key value →
      key.read? value = some (c.get key)

/-- **A value is passed over**: it is told of a key of the gateway, and it cannot be read, or it is
the last one and stands for something else than the first. -/
def IsPassedOver (text : String) (key : Key) (value : List Char) : Prop :=
  key.isGateway = true ∧ Tells text key value ∧
    (key.read? value = none ∨
      TellsLast text key value ∧ ∀ first, TellsFirst text key first →
        key.read? first ≠ key.read? value)

section Ignored

variable {c : Config}

/-- Where a text is read, a value that cannot be is passed over. -/
theorem isPassedOver_of_read?_eq_none (hc : parse text = .ok c) (h : Tells text key value)
    (hvalue : key.read? value = none) : IsPassedOver text key value := by
  obtain ⟨-, hheeds, -⟩ := (outcome_parse text).ok_iff.mp hc
  refine ⟨?_, h, .inl hvalue⟩
  by_contra hkey
  exact hheeds key value ⟨h, fun hgateway => absurd hgateway hkey⟩ hvalue

/-- Where a text is read, a last value that does not take effect is passed over. -/
theorem isPassedOver_of_read?_ne (hc : parse text = .ok c) (h : TellsLast text key value)
    (hvalue : key.read? value ≠ some (c.get key)) : IsPassedOver text key value := by
  obtain ⟨-, -, hdescribes⟩ := (outcome_parse text).ok_iff.mp hc
  cases hkey : key.isGateway with
  | true =>
    refine ⟨hkey, h.tells, .inr ⟨h, fun first hfirst heq => hvalue ?_⟩⟩
    exact heq.symm.trans (hdescribes.told key first ((takesEffect_iff_first hkey).mpr hfirst))
  | false => exact absurd (hdescribes.told key value ((takesEffect_iff_last hkey).mpr h)) hvalue

/-- Where a text is read and nothing is ignored, nothing is passed over. -/
theorem NothingIgnored.not_isPassedOver (h : NothingIgnored text) (hc : parse text = .ok c) :
    ¬ IsPassedOver text key value := by
  obtain ⟨hip, -, hdescribes⟩ := (outcome_parse text).ok_iff.mp hc
  have hread (other : List Char) (hother : Tells text key other) : key.read? other ≠ none :=
    fun hnone => nomatch hc.symm.trans
      (h.fault (exists_takesEffect_gatewayIp.mp hip) key other hother hnone)
  rintro ⟨hkey, htells, hnone | ⟨hlast, hne⟩⟩
  · exact hread value htells hnone
  · obtain ⟨first, hfirst⟩ := htells.exists_first
    refine hne first hfirst ?_
    rw [hdescribes.told key first ((takesEffect_iff_first hkey).mpr hfirst),
      h.last c hc key value hread hlast]

/-- **Something is ignored** exactly if the text is read and passes something over. -/
theorem not_nothingIgnored_iff :
    ¬ NothingIgnored text ↔
      (∃ c, parse text = .ok c) ∧ ∃ key value, IsPassedOver text key value := by
  constructor
  · intro h
    by_contra hnone
    have hpassed {c : Config} (hc : parse text = .ok c) (key : Key) (value : List Char) :
        ¬ IsPassedOver text key value := fun hpassed => hnone ⟨⟨c, hc⟩, key, value, hpassed⟩
    refine h ⟨fun hip key value htells hvalue => ?_, fun c hc key value _ hlast => ?_⟩
    · cases hr : parse text with
      | ok c => exact absurd (isPassedOver_of_read?_eq_none hr htells hvalue) (hpassed hr key value)
      | error fault => rw [fault_eq_invalidValue hip hr]
    · by_contra hvalue
      exact hpassed hc key value (isPassedOver_of_read?_ne hc hlast hvalue)
  · rintro ⟨⟨c, hc⟩, key, value, hpassed⟩ h
    exact h.not_isPassedOver hc hpassed

end Ignored

/-- **What a text says, whatever it repeats.** A value is invalid if the gateway's address is told,
and a value that is heeded cannot be read: on any line of a key that is not the gateway's, and on
the first line of one that is. If all of them can be read, the settings have in the field of each
key that is told the value that takes effect, which is the first of a key of the gateway and the
last of any other key, and the default in every other field. So something is ignored if and only
if the text is read, and of a key of the gateway a value is told that cannot be read, or last one
that stands for something else than the first. -/
theorem parse_repeats (text : String) :
    (parse text = .error (.config .invalidValue) ↔
      (∃ ip, Tells text .gatewayIp ip) ∧
        ∃ key value, IsHeeded text key value ∧ key.read? value = none) ∧
    ((∃ ip, Tells text .gatewayIp ip) →
      (∀ key value, IsHeeded text key value → key.read? value ≠ none) →
        ∃ c, parse text = .ok c ∧ Describes (TakesEffect text) c) ∧
    (¬ NothingIgnored text ↔
      (∃ c, parse text = .ok c) ∧ ∃ key value, IsPassedOver text key value) := by
  have houtcome := outcome_parse text
  refine ⟨?_, fun hip hheeds => ?_, not_nothingIgnored_iff⟩
  · rw [houtcome.invalid_iff, exists_takesEffect_gatewayIp]
  · cases hr : parse text with
    | ok c => exact ⟨c, rfl, (houtcome.ok_iff.mp hr).2.2⟩
    | error fault =>
      rw [fault_eq_invalidValue hip hr] at hr
      obtain ⟨-, key, value, hheeded, hvalue⟩ := houtcome.invalid_iff.mp hr
      exact absurd hvalue (hheeds key value hheeded)

/-- A text that tells the port once more, as something that is no number. -/
def portTwice : String := "KNX_GATEWAY_IP=10.0.0.1\nKNX_GATEWAY_PORT=3700\nKNX_GATEWAY_PORT=lots"

/-- A text that tells two addresses of the gateway. -/
def addressTwice : String := "KNX_GATEWAY_IP=10.0.0.1\nKNX_GATEWAY_IP=10.0.0.2"

/-- **Something is ignored** in either text: a value that cannot be read, and a last value that
can. -/
theorem exists_ignored :
    (Tells portTwice .gatewayPort "lots".toList ∧ Key.gatewayPort.read? "lots".toList = none ∧
      parse portTwice = .ok (ofGateway ⟨⟨10, 0, 0, 1⟩, 3700⟩) ∧ ¬ NothingIgnored portTwice) ∧
    TellsLast addressTwice .gatewayIp "10.0.0.2".toList ∧
      Key.gatewayIp.read? "10.0.0.2".toList = some ⟨10, 0, 0, 2⟩ ∧
      parse addressTwice = .ok (ofGateway ⟨⟨10, 0, 0, 1⟩, defaultPort⟩) ∧
      ¬ NothingIgnored addressTwice := by
  have htells : Tells portTwice .gatewayPort "lots".toList := mem_entries_iff.mp (by decide +kernel)
  have hlots : Key.gatewayPort.read? "lots".toList = none := by decide +kernel
  have hport : parse portTwice = .ok (ofGateway ⟨⟨10, 0, 0, 1⟩, 3700⟩) := by decide +kernel
  have hlast : TellsLast addressTwice .gatewayIp "10.0.0.2".toList :=
    lastValue?_entries_iff.mp (by decide +kernel)
  have hread : Key.gatewayIp.read? "10.0.0.2".toList = some ⟨10, 0, 0, 2⟩ := by decide +kernel
  have haddress : parse addressTwice = .ok (ofGateway ⟨⟨10, 0, 0, 1⟩, defaultPort⟩) := by
    decide +kernel
  have hne : Key.gatewayIp.read? "10.0.0.2".toList ≠
      some ((ofGateway ⟨⟨10, 0, 0, 1⟩, defaultPort⟩).get .gatewayIp) := by
    rw [hread]
    decide
  have hportPassed := isPassedOver_of_read?_eq_none hport htells hlots
  have haddressPassed := isPassedOver_of_read?_ne haddress hlast hne
  exact ⟨⟨htells, hlots, hport, not_nothingIgnored_iff.mpr ⟨⟨_, hport⟩, _, _, hportPassed⟩⟩,
    hlast, hread, haddress, not_nothingIgnored_iff.mpr ⟨⟨_, haddress⟩, _, _, haddressPassed⟩⟩

end KnxIp.Config
