import KnxIp.Text.Decimal
import KnxIp.Text.Fields
import Mathlib.Data.List.Forall2

/-!
# Numerals, and texts that join them

A numeral of a number is what a text has to be so that the number is read from it: one or more
of the ten digits that, in base ten, have the number as their value
(`KnxIp.Text.IsNumeral`). There may be zeros at its front, so a number has many numerals; the
one that is written has none that is not needed.

Several numbers are written in one text with a separator between their numerals
(`KnxIp.Text.Joins`). As a separator is not a digit, the text can be cut where it stands, and
the fields are the numerals again.

## Main statements

* `KnxIp.Text.readDigits?_eq_some_iff`: a number is read from its numerals.
* `KnxIp.Text.isNumeral_decimal`: what is written for a number is one of them.
* `KnxIp.Text.mapM_fields_eq_some_iff`: numbers are read from the fields of the texts that join
  their numerals.
-/

namespace KnxIp.Text

/-! ### Numerals -/

/-- **Whether a text is a numeral of a number**: one or more digits whose value is the number. -/
structure IsNumeral (cs : List Char) (n : Nat) : Prop where
  ne_nil : cs ≠ []
  isDigit : ∀ c ∈ cs, c.isDigit
  value : Nat.ofDigitChars 10 cs 0 = n

theorem digitValue?_eq_some_iff {c : Char} {d : Nat} :
    digitValue? c = some d ↔ c.isDigit ∧ c.toNat - '0'.toNat = d := by
  have hdigit : ('0' ≤ c ∧ c ≤ '9') ↔ c.isDigit = true := by
    simp [Char.isDigit, Char.le_def]
  unfold digitValue?
  split
  · rename_i h
    simp [hdigit.mp h]
  · rename_i h
    simp [← hdigit, h]

/-- Reading goes on from the value of the digits that are already read. -/
theorem readDigitsFrom?_eq_some_iff {value n : Nat} {cs : List Char} :
    readDigitsFrom? value cs = some n ↔
      (∀ c ∈ cs, c.isDigit) ∧ Nat.ofDigitChars 10 cs value = n := by
  induction cs generalizing value with
  | nil => simp [readDigitsFrom?]
  | cons c cs ih =>
    simp only [readDigitsFrom?, Option.bind_eq_some_iff, digitValue?_eq_some_iff, ih,
      List.forall_mem_cons, Nat.ofDigitChars_cons]
    constructor
    · rintro ⟨d, ⟨hc, rfl⟩, hcs, hvalue⟩
      exact ⟨⟨hc, hcs⟩, by rw [Nat.mul_comm, hvalue]⟩
    · rintro ⟨⟨hc, hcs⟩, hvalue⟩
      exact ⟨_, ⟨hc, rfl⟩, hcs, by rw [Nat.mul_comm, hvalue]⟩

/-- **A number is read from its numerals**, and from no other text. -/
theorem readDigits?_eq_some_iff {cs : List Char} {n : Nat} :
    readDigits? cs = some n ↔ IsNumeral cs n := by
  unfold readDigits?
  split
  · rename_i h
    refine ⟨nofun, fun hn => absurd ?_ hn.ne_nil⟩
    simpa using h
  · rename_i h
    rw [readDigitsFrom?_eq_some_iff]
    exact ⟨fun ⟨hdigit, hvalue⟩ => ⟨by simpa using h, hdigit, hvalue⟩,
      fun hn => ⟨hn.isDigit, hn.value⟩⟩

theorem IsNumeral.not_mem {cs : List Char} {n : Nat} (h : IsNumeral cs n) {c : Char}
    (hc : c.isDigit = false) : c ∉ cs := by
  intro hmem
  simp [h.isDigit c hmem] at hc

theorem digit_eq_digitChar : ∀ n < 10, digit n = n.digitChar := by decide

/-- The digits that are written are those of the base ten. -/
theorem decimalDigits_eq_toDigits (n : Nat) : decimalDigits n = Nat.toDigits 10 n := by
  induction n using decimalDigits.induct with
  | case1 n h =>
    rw [decimalDigits, if_pos h, Nat.toDigits_of_lt_base h, digit_eq_digitChar n h]
  | case2 n h ih =>
    rw [decimalDigits, if_neg h, ih, Nat.toDigits_eq_if (n := n) (by decide), if_neg h,
      digit_eq_digitChar _ (Nat.mod_lt n (by decide))]

/-- **What is written for a number is a numeral of it.** -/
theorem isNumeral_decimal (n : Nat) : IsNumeral (decimal n).toList n := by
  rw [decimal, String.toList_ofList, decimalDigits_eq_toDigits]
  exact ⟨Nat.toDigits_ne_nil, fun c hc => Nat.isDigit_of_mem_toDigits (by decide) (by decide) hc,
    Nat.ofDigitChars_ten_toDigits⟩

/-! ### Fields -/

theorem fields_eq_splitOn (separator : Char) (cs : List Char) :
    fields separator cs = cs.splitOn separator := by
  induction cs with
  | nil => rfl
  | cons c cs ih =>
    rw [fields, ih, List.splitOn_cons_eq_if_modifyHead]
    by_cases h : c = separator
    · simp [h]
    · have hne := List.splitOn_ne_nil separator cs
      cases hs : cs.splitOn separator with
      | nil => exact absurd hs hne
      | cons field rest => simp [h]

/-- **Whether a text joins numerals**: there are numerals of these numbers, and the text has
them in order, with the separator between them. -/
def Joins (separator : Char) (ns : List Nat) (cs : List Char) : Prop :=
  ∃ numerals, List.Forall₂ IsNumeral numerals ns ∧ cs = [separator].intercalate numerals

theorem mapM_eq_some_iff {α β : Type} {f : α → Option β} {as : List α} {bs : List β} :
    as.mapM f = some bs ↔ List.Forall₂ (fun a b => f a = some b) as bs := by
  induction as generalizing bs with
  | nil => simp [eq_comm]
  | cons a as ih =>
    simp only [List.mapM_cons, Option.bind_eq_bind, Option.bind_eq_some_iff, ih,
      List.forall₂_cons_left_iff]
    constructor
    · rintro ⟨b, hb, bs', hbs', h⟩
      exact ⟨b, bs', hb, hbs', (Option.some.inj h).symm⟩
    · rintro ⟨b, bs', hb, hbs', rfl⟩
      exact ⟨b, hb, bs', hbs', rfl⟩

/-- A reader may refuse some of what it has read. -/
theorem mapM_filter_eq_some_iff {α β : Type} {f : α → Option β} {p : β → Bool} {as : List α}
    {bs : List β} :
    (as.mapM fun a => (f a).filter p) = some bs ↔ as.mapM f = some bs ∧ ∀ b ∈ bs, p b := by
  simp only [mapM_eq_some_iff, Option.filter_eq_some_iff]
  constructor
  · intro h
    induction h with
    | nil => simp
    | cons hab _ ih => exact ⟨.cons hab.1 ih.1, List.forall_mem_cons.mpr ⟨hab.2, ih.2⟩⟩
  · rintro ⟨h, hp⟩
    induction h with
    | nil => exact .nil
    | cons hab _ ih =>
      obtain ⟨hb, hbs⟩ := List.forall_mem_cons.mp hp
      exact .cons ⟨hab, hb⟩ (ih hbs)

theorem not_mem_of_forall₂ {separator : Char} (hs : separator.isDigit = false)
    {numerals : List (List Char)} {ns : List Nat} (h : List.Forall₂ IsNumeral numerals ns) :
    ∀ cs ∈ numerals, separator ∉ cs := by
  induction h with
  | nil => simp
  | cons hn _ ih => exact List.forall_mem_cons.mpr ⟨hn.not_mem hs, ih⟩

/-- **Numbers are read from the fields of the texts that join their numerals.** -/
theorem mapM_fields_eq_some_iff {separator : Char} (hs : separator.isDigit = false)
    {ns : List Nat} (hns : ns ≠ []) {cs : List Char} :
    (fields separator cs).mapM readDigits? = some ns ↔ Joins separator ns cs := by
  simp only [mapM_eq_some_iff, readDigits?_eq_some_iff]
  constructor
  · intro h
    refine ⟨fields separator cs, h, ?_⟩
    rw [fields_eq_splitOn, List.intercalate_splitOn]
  · rintro ⟨numerals, h, rfl⟩
    have hne : numerals ≠ [] := by
      rintro rfl
      exact hns (List.forall₂_nil_left_iff.mp h)
    rw [fields_eq_splitOn, List.splitOn_intercalate separator (not_mem_of_forall₂ hs h) hne]
    exact h

theorem Joins.unique {separator : Char} (hs : separator.isDigit = false) {ms ns : List Nat}
    {cs : List Char} (hms : ms ≠ []) (hns : ns ≠ []) (hm : Joins separator ms cs)
    (hn : Joins separator ns cs) : ms = ns := by
  rw [← mapM_fields_eq_some_iff hs hms] at hm
  rw [← mapM_fields_eq_some_iff hs hns, hm] at hn
  exact Option.some.inj hn

/-- Between two numerals there is a separator. -/
theorem Joins.mem {separator : Char} {m n : Nat} {ns : List Nat} {cs : List Char}
    (h : Joins separator (m :: n :: ns) cs) : separator ∈ cs := by
  obtain ⟨numerals, hnumerals, rfl⟩ := h
  obtain ⟨first, rest, -, hrest, rfl⟩ := List.forall₂_cons_right_iff.mp hnumerals
  obtain ⟨second, rest, -, -, rfl⟩ := List.forall₂_cons_right_iff.mp hrest
  simp [List.intercalate]

/-- There is nothing but digits and separators. -/
theorem Joins.not_mem {separator c : Char} {ns : List Nat} {cs : List Char}
    (h : Joins separator ns cs) (hc : c.isDigit = false) (hne : c ≠ separator) : c ∉ cs := by
  obtain ⟨numerals, hnumerals, rfl⟩ := h
  have hfree := not_mem_of_forall₂ hc hnumerals
  clear hnumerals
  induction numerals with
  | nil => simp
  | cons first rest ih =>
    obtain ⟨hfirst, hrest⟩ := List.forall_mem_cons.mp hfree
    cases rest with
    | nil => simpa using hfirst
    | cons second rest =>
      rw [List.intercalate_cons_cons]
      simpa [hfirst, hne] using ih hrest

end KnxIp.Text
