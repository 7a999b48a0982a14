import KnxIp.Proofs.Config.Lines
import KnxIp.Proofs.Config.Settings
import Mathlib.Logic.Relation

/-!
# Other words for the same settings

A settings text can be reworded line by line (`KnxIp.Config.Rewording`): its lines are put in
another order, a line that tells nothing comes in, or blanks are added around a line or around
the two sides of its `=`. No such step changes what the lines tell, but for the order
(`KnxIp.Config.Rewording.perm`). The order matters only where a key is told more than once. So
if no key is, every text that can be reached by such steps describes the same settings, or has
the same fault (`KnxIp.Config.parse_reworded`).
-/

namespace KnxIp.Config

/-! ### Steps -/

/-- **The lines that tell nothing**: a blank one, a comment, one without `=`, and one whose key
is not known. -/
inductive Silent : List Char → Prop
  | blank {line : List Char} (h : Text.AllBlank line) : Silent line
  | comment {before : List Char} (h : Text.AllBlank before) (text : List Char) :
    Silent (before ++ '#' :: text)
  | noSign {line : List Char} (h : '=' ∉ line) : Silent line
  | unknown {before : List Char} (h : '=' ∉ before)
    (hkey : ∀ key : Key, ¬ Text.Pads key.name.toList before) (after : List Char) :
    Silent (before ++ '=' :: after)

/-- **The lines that are made with more blanks**: around the line, or around what stands on
either side of its `=`. -/
inductive Widened : List Char → List Char → Prop
  | line {line line' : List Char} (h : Text.Pads line line') : Widened line line'
  | sides {before before' after after' : List Char} (h : '=' ∉ before)
    (hbefore : Text.Pads before before') (hafter : Text.Pads after after') :
    Widened (before ++ '=' :: after) (before' ++ '=' :: after')

/-- **One step of rewording**, on the lines of a text. -/
inductive Rewording : List (List Char) → List (List Char) → Prop
  | permute {lines lines' : List (List Char)} (h : lines.Perm lines') : Rewording lines lines'
  | insert (first second : List (List Char)) {line : List Char} (h : Silent line) :
    Rewording (first ++ second) (first ++ line :: second)
  | widen (first second : List (List Char)) {line line' : List Char} (h : Widened line line') :
    Rewording (first ++ line :: second) (first ++ line' :: second)

/-- **Whether a text is another one reworded**, in any number of steps. -/
def Reworded (text text' : String) : Prop :=
  Relation.ReflTransGen Rewording (Text.lines text.toList) (Text.lines text'.toList)

/-! ### What they tell -/

theorem Silent.entry?_eq_none {line : List Char} (h : Silent line) : entry? line = none := by
  cases h with
  | blank h =>
    refine entry?_of_not_mem fun hmem => ?_
    have hsign := h '=' hmem
    cases hsign
  | @comment before h text =>
    refine entry?_of_comment ?_
    rw [Text.trim_append_cons (by decide), Text.trimStart_of_allBlank h]
    rfl
  | noSign h => exact entry?_of_not_mem h
  | @unknown before h hkey after =>
    rw [entry?_append h]
    cases hread : Key.ofText? (Text.trim before) with
    | none => rfl
    | some key => exact absurd (Key.ofText?_trim_eq_some_iff.mp hread) (hkey key)

theorem Widened.entry?_eq {line line' : List Char} (h : Widened line line') :
    entry? line' = entry? line := by
  cases h with
  | line h =>
    unfold entry?
    rw [Text.trim_eq_of_pads h]
  | sides h hbefore hafter =>
    have h' := mt (hbefore.mem_iff (by decide)).mp h
    rw [entry?_append h, entry?_append h', Text.trim_eq_of_pads hbefore,
      Text.trim_eq_of_pads hafter]

/-- **A step keeps what the lines tell**, up to the order. -/
theorem Rewording.perm {lines lines' : List (List Char)} (h : Rewording lines lines') :
    (lines.filterMap entry?).Perm (lines'.filterMap entry?) := by
  cases h with
  | permute h => exact h.filterMap entry?
  | insert first second h =>
    rw [List.filterMap_append, List.filterMap_append, List.filterMap_cons_none h.entry?_eq_none]
  | widen first second h =>
    simp only [List.filterMap_append, List.filterMap_cons, h.entry?_eq]
    exact .refl _

/-- So do any number of steps. -/
theorem perm_of_steps {lines lines' : List (List Char)}
    (h : Relation.ReflTransGen Rewording lines lines') :
    (lines.filterMap entry?).Perm (lines'.filterMap entry?) := by
  induction h with
  | refl => exact .refl _
  | tail _ hstep ih => exact ih.trans hstep.perm

theorem Reworded.perm {text text' : String} (h : Reworded text text') :
    (entries text.toList).Perm (entries text'.toList) := perm_of_steps h

/-! ### What a text describes -/

/-- **What the settings are does not depend on how a text is put.** Of a text that tells no key
twice, every rewording leads to the same settings or to the same fault. A key is missing if it
is the gateway's address that is not told; a value is invalid if the address is told, and some
value cannot be read. What else is read are the settings that have in the field of each key that
is told the value that is told, and the default in every other field. -/
theorem parse_reworded (text : String) (hkeys : KeysOnce text) :
    (∀ text', Reworded text text' → parse text' = parse text) ∧
    (parse text = .error (.config .missingKey) ↔ ∀ value, ¬ Tells text .gatewayIp value) ∧
    (parse text = .error (.config .invalidValue) ↔
      (∃ value, Tells text .gatewayIp value) ∧
        ∃ key value, Tells text key value ∧ key.read? value = none) ∧
    (∀ fault, parse text = .error fault →
      fault = .config .missingKey ∨ fault = .config .invalidValue) ∧
    ∀ c, parse text = .ok c ↔
      (∃ value, Tells text .gatewayIp value) ∧ Describes (Tells text) c := by
  have hnodup := keysOnce_iff_nodup.mp hkeys
  have houtcome : Outcome (Tells text) (Tells text) (parse text) :=
    outcome_of_nodup hnodup fun _ _ => mem_entries_iff
  refine ⟨fun text' h => ofEntries_of_perm hnodup h.perm, houtcome.missing_iff,
    houtcome.invalid_iff, fun fault h => (h ▸ houtcome).eq_of_error, fun c => ?_⟩
  rw [houtcome.ok_iff]
  refine and_congr_right fun _ => and_iff_right_of_imp fun hc key value htells hnone => ?_
  cases hnone.symm.trans (hc.told key value htells)

/-- Two settings, and the same with a comment in front, the other way round and with blanks. -/
theorem parse_reworded_retries :
    KeysOnce "KNX_GATEWAY_IP=10.0.0.1\nKNX_ACK_RETRIES=2" ∧
      Reworded "KNX_GATEWAY_IP=10.0.0.1\nKNX_ACK_RETRIES=2"
        "# site 7\nKNX_ACK_RETRIES = 2\nKNX_GATEWAY_IP=10.0.0.1" ∧
      parse "# site 7\nKNX_ACK_RETRIES = 2\nKNX_GATEWAY_IP=10.0.0.1" =
        parse "KNX_GATEWAY_IP=10.0.0.1\nKNX_ACK_RETRIES=2" := by
  have hkeys : KeysOnce "KNX_GATEWAY_IP=10.0.0.1\nKNX_ACK_RETRIES=2" :=
    keysOnce_iff_nodup.mpr (by decide +kernel)
  have hwords : Reworded "KNX_GATEWAY_IP=10.0.0.1\nKNX_ACK_RETRIES=2"
      "# site 7\nKNX_ACK_RETRIES = 2\nKNX_GATEWAY_IP=10.0.0.1" := by
    unfold Reworded
    have hbefore : Text.lines "KNX_GATEWAY_IP=10.0.0.1\nKNX_ACK_RETRIES=2".toList =
      ["KNX_GATEWAY_IP=10.0.0.1".toList, "KNX_ACK_RETRIES".toList ++ '=' :: ['2']] := by
      decide +kernel
    have hafter :
        Text.lines "# site 7\nKNX_ACK_RETRIES = 2\nKNX_GATEWAY_IP=10.0.0.1".toList =
          [] ++ ([] ++ '#' :: " site 7".toList) ::
            ["KNX_ACK_RETRIES ".toList ++ '=' :: [' ', '2'], "KNX_GATEWAY_IP=10.0.0.1".toList] := by
      decide +kernel
    rw [hbefore, hafter]
    have hnone : Text.AllBlank [] := nofun
    have hspace : Text.AllBlank [' '] := List.forall_mem_singleton.mpr (by decide)
    have hwide : Widened ("KNX_ACK_RETRIES".toList ++ '=' :: ['2'])
        ("KNX_ACK_RETRIES ".toList ++ '=' :: [' ', '2']) :=
      .sides (by decide +kernel) ⟨[], [' '], hnone, hspace, by decide +kernel⟩
        ⟨[' '], [], hspace, hnone, rfl⟩
    exact .tail (.tail (.single (.permute (.swap _ _ _))) (.widen [] _ hwide))
      (.insert [] _ (.comment hnone _))
  exact ⟨hkeys, hwords, (parse_reworded _ hkeys).1 _ hwords⟩

end KnxIp.Config
