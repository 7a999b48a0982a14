import KnxIp.Config.Text
import KnxIp.Proofs.Text.Trimming

/-!
# What a line of a settings text says

A line is trimmed, looked at for the sign of a comment, cut at its first `=`, and the two parts
are trimmed again. What comes out is said in one go: a line tells a key and a value if it is the
key's name and the value with a `=` between them, each with blanks around it
(`KnxIp.Config.Says`). That a comment tells nothing need not be said: what stands before its
first `=` starts with `#`, and no key does.

So only the lines that tell something count, and a text in which no two lines tell the same key
says of every key one value at most (`KnxIp.Config.KeysOnce`).

## Main statements

* `KnxIp.Config.entry?_append`: what a line says depends on its two parts, up to the blanks
  around them.
* `KnxIp.Config.entry?_eq_some_iff`, `KnxIp.Config.mem_entries_iff`: an entry is read from the
  lines that say it.
* `KnxIp.Config.keysOnce_iff_nodup`: where keys are told once, the entries have different keys.
-/

namespace KnxIp.Config

/-! ### Names -/

namespace Key

theorem mem_all (key : Key) : key ∈ all := by cases key <;> decide

theorem ofText?_name (key : Key) : ofText? key.name.toList = some key := by
  have h : ∀ key ∈ all, ofText? key.name.toList = some key := by decide +kernel
  exact h key (mem_all key)

theorem isTrimmed_name (key : Key) : Text.IsTrimmed key.name.toList := by
  have h : ∀ key ∈ all, Text.trim key.name.toList = key.name.toList := by decide +kernel
  exact (Text.trim_eq_iff.mp (h key (mem_all key))).2

/-- A name has none of the signs in it that have a meaning. -/
theorem not_mem_name (key : Key) : '#' ∉ key.name.toList ∧ '=' ∉ key.name.toList := by
  have h : ∀ key ∈ all, '#' ∉ key.name.toList ∧ '=' ∉ key.name.toList := by decide +kernel
  exact h key (mem_all key)

/-- **A key is read from its name**, and from no other text. -/
theorem ofText?_eq_some_iff {cs : List Char} {key : Key} :
    ofText? cs = some key ↔ cs = key.name.toList := by
  constructor
  · intro h
    have hname := List.find?_some h
    exact (beq_iff_eq.mp hname).symm
  · rintro rfl
    exact key.ofText?_name

/-- A name with blanks around it is read from the text that is it. -/
theorem ofText?_trim_eq_some_iff {cs : List Char} {key : Key} :
    ofText? (Text.trim cs) = some key ↔ Text.Pads key.name.toList cs := by
  rw [ofText?_eq_some_iff, Text.trim_eq_iff]
  exact and_iff_left key.isTrimmed_name

/-- What contains the sign of a comment is no name. -/
theorem ofText?_eq_none_of_mem {cs : List Char} (h : '#' ∈ cs) : ofText? cs = none := by
  cases hkey : ofText? cs with
  | none => rfl
  | some key =>
    rw [ofText?_eq_some_iff] at hkey
    exact absurd (hkey ▸ h) key.not_mem_name.1

end Key

/-! ### Lines -/

/-- **What a line tells**: the name of a key, `=`, and a value, each with blanks around it. -/
def Says (line : List Char) (key : Key) (value : List Char) : Prop :=
  ∃ before after, line = before ++ '=' :: after ∧
    Text.Pads key.name.toList before ∧ Text.Pads value after ∧ Text.IsTrimmed value

/-- A comment tells nothing. -/
theorem entry?_of_comment {line : List Char} (h : (Text.trim line).head? = some '#') :
    entry? line = none := by
  unfold entry?
  exact if_pos h

/-- A line without `=` tells nothing. -/
theorem entry?_of_not_mem {line : List Char} (h : '=' ∉ line) : entry? line = none := by
  have htrim : '=' ∉ Text.trim line := mt ((Text.pads_trim line).mem_iff (by decide)).mpr h
  unfold entry?
  simp [Text.cutFirst_of_not_mem htrim]

/-- **What a line tells is what its two parts are** when they are trimmed. -/
theorem entry?_append {before : List Char} (h : '=' ∉ before) (after : List Char) :
    entry? (before ++ '=' :: after) =
      (Key.ofText? (Text.trim before)).map fun key => (key, Text.trim after) := by
  have htrim : Text.trim (before ++ '=' :: after) =
      Text.trimStart before ++ '=' :: Text.trimEnd after := Text.trim_append_cons (by decide) _ _
  have hbefore : '=' ∉ Text.trimStart before := fun hmem =>
    h ((List.dropWhile_sublist Text.isBlank).mem hmem)
  by_cases hcomment : (Text.trim (before ++ '=' :: after)).head? = some '#'
  · -- The sign of a comment stands before the first `=`, and so in what would be the key.
    have hsign : '#' ∈ Text.trimStart before := by
      rw [htrim] at hcomment
      cases hstart : Text.trimStart before with
      | nil => simp [hstart] at hcomment
      | cons c cs =>
        rw [hstart] at hcomment
        simp [Option.some.inj hcomment]
    have hnone : Key.ofText? (Text.trim before) = none := by
      rw [← Text.trim_trimStart]
      exact Key.ofText?_eq_none_of_mem (((Text.pads_trim _).mem_iff (by decide)).mp hsign)
    rw [entry?_of_comment hcomment, hnone]
    rfl
  · unfold entry?
    simp only [if_neg hcomment]
    rw [htrim, Text.cutFirst_append hbefore]
    simp [Text.trim_trimStart, Text.trim_trimEnd]

/-- **What is read from a line** is what it tells. -/
theorem entry?_eq_some_iff {line : List Char} {key : Key} {value : List Char} :
    entry? line = some (key, value) ↔ Says line key value := by
  constructor
  · intro h
    by_cases hsign : '=' ∈ line
    · obtain ⟨before, after, rfl, hbefore⟩ := List.eq_append_cons_of_mem hsign
      simp only [entry?_append hbefore, Option.map_eq_some_iff, Prod.mk.injEq] at h
      obtain ⟨key, hkey, rfl, rfl⟩ := h
      exact ⟨before, after, rfl, Key.ofText?_trim_eq_some_iff.mp hkey, Text.pads_trim after,
        Text.isTrimmed_trim after⟩
    · simp [entry?_of_not_mem hsign] at h
  · rintro ⟨before, after, rfl, hkey, hvalue⟩
    have hbefore : '=' ∉ before := mt (hkey.mem_iff (by decide)).mp key.not_mem_name.2
    rw [entry?_append hbefore, Key.ofText?_trim_eq_some_iff.mpr hkey, Text.trim_eq_iff.mpr hvalue]
    rfl

/-! ### Texts -/

/-- **What a text tells** of a key. -/
def Tells (text : String) (key : Key) (value : List Char) : Prop :=
  ∃ line ∈ Text.lines text.toList, Says line key value

/-- **Whether a text tells each key once at most.** -/
def KeysOnce (text : String) : Prop :=
  (Text.lines text.toList).Pairwise fun first second =>
    ∀ key value other, Says first key value → ¬ Says second key other

theorem mem_entries_iff {text : String} {key : Key} {value : List Char} :
    (key, value) ∈ entries text.toList ↔ Tells text key value := by
  simp only [entries, List.mem_filterMap, entry?_eq_some_iff, Tells]

/-- Keys are told once if the entries have different keys. -/
theorem keysOnce_iff_nodup {text : String} :
    KeysOnce text ↔ ((entries text.toList).map Prod.fst).Nodup := by
  rw [List.Nodup, List.pairwise_map, entries, List.pairwise_filterMap, KeysOnce]
  refine List.Pairwise.iff fun first second => ⟨?_, ?_⟩
  · rintro honce ⟨key, value⟩ hfirst ⟨_, other⟩ hsecond rfl
    exact honce key value other (entry?_eq_some_iff.mp hfirst) (entry?_eq_some_iff.mp hsecond)
  · intro hne key value other hfirst hsecond
    exact hne _ (entry?_eq_some_iff.mpr hfirst) _ (entry?_eq_some_iff.mpr hsecond) rfl

end KnxIp.Config
