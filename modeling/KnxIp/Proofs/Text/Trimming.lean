import KnxIp.Text.Blank
import KnxIp.Text.Fields
import Mathlib.Data.List.TakeWhile

/-!
# Blanks around a text, and the first separator in it

Trimming takes a text out of the blanks around it. What is left is the only text without a
blank at either end of which this can be said (`KnxIp.Text.trim_eq_iff`), so more blanks around
a text make no difference to it.

A text that is cut at its first separator is what stands before it, the separator, and what
stands behind (`KnxIp.Text.cutFirst_append`). A separator that is not blank is still there, and
still the first, when the text is trimmed; the blanks that go are those at the start of the one
part and at the end of the other (`KnxIp.Text.trim_append_cons`).
-/

namespace KnxIp.Text

/-! ### Blanks -/

/-- Whether a text is nothing but blanks. -/
def AllBlank (cs : List Char) : Prop := ∀ c ∈ cs, isBlank c

/-- Whether there is no blank at either end of a text. -/
structure IsTrimmed (cs : List Char) : Prop where
  head : ∀ c ∈ cs.head?, isBlank c = false
  last : ∀ c ∈ cs.getLast?, isBlank c = false

/-- **Whether a text is another one with blanks around it.** -/
def Pads (core cs : List Char) : Prop :=
  ∃ before after, AllBlank before ∧ AllBlank after ∧ cs = before ++ core ++ after

theorem AllBlank.append {as bs : List Char} (ha : AllBlank as) (hb : AllBlank bs) :
    AllBlank (as ++ bs) := List.forall_mem_append.mpr ⟨ha, hb⟩

theorem Pads.trans {core cs ds : List Char} (h : Pads core cs) (h' : Pads cs ds) :
    Pads core ds := by
  obtain ⟨before, after, hb, ha, rfl⟩ := h
  obtain ⟨before', after', hb', ha', rfl⟩ := h'
  exact ⟨before' ++ before, after ++ after', hb'.append hb, ha.append ha',
    by simp only [List.append_assoc]⟩

/-- A character that is not blank is not among the blanks. -/
theorem Pads.mem_iff {core cs : List Char} (h : Pads core cs) {c : Char}
    (hc : isBlank c = false) : c ∈ cs ↔ c ∈ core := by
  obtain ⟨before, after, hb, ha, rfl⟩ := h
  have hnot {blanks : List Char} (hblanks : AllBlank blanks) : c ∉ blanks := by
    intro hmem
    simp [hblanks c hmem] at hc
  simp [hnot hb, hnot ha]

/-! ### One end -/

theorem trimEnd_eq (cs : List Char) : trimEnd cs = (trimStart cs.reverse).reverse := rfl

theorem trimStart_append {blanks : List Char} (h : AllBlank blanks) (cs : List Char) :
    trimStart (blanks ++ cs) = trimStart cs := List.dropWhile_append_of_pos h

theorem trimStart_of_allBlank {blanks : List Char} (h : AllBlank blanks) :
    trimStart blanks = [] := by
  have happend := trimStart_append h []
  rwa [List.append_nil] at happend

theorem trimStart_of_head {cs : List Char} (h : ∀ c ∈ cs.head?, isBlank c = false) :
    trimStart cs = cs := by
  cases cs with
  | nil => rfl
  | cons c cs =>
    have hc := h c rfl
    simp [trimStart, hc]

theorem isBlank_head_trimStart (cs : List Char) :
    ∀ c ∈ (trimStart cs).head?, isBlank c = false := by
  intro c hc
  have h := List.head?_dropWhile_not isBlank cs
  rw [trimStart, Option.mem_def] at hc
  rw [hc] at h
  exact h

/-- What goes at the start is blank. -/
theorem exists_trimStart (cs : List Char) :
    ∃ blanks, AllBlank blanks ∧ cs = blanks ++ trimStart cs :=
  ⟨cs.takeWhile isBlank, fun _ => List.mem_takeWhile_imp, List.takeWhile_append_dropWhile.symm⟩

theorem trimEnd_append {blanks : List Char} (h : AllBlank blanks) (cs : List Char) :
    trimEnd (cs ++ blanks) = trimEnd cs := by
  have hreverse : AllBlank blanks.reverse := fun c hc => h c (List.mem_reverse.mp hc)
  rw [trimEnd_eq, List.reverse_append, trimStart_append hreverse, ← trimEnd_eq]

theorem trimEnd_of_last {cs : List Char} (h : ∀ c ∈ cs.getLast?, isBlank c = false) :
    trimEnd cs = cs := by
  rw [trimEnd_eq, trimStart_of_head, List.reverse_reverse]
  simpa [List.head?_reverse] using h

theorem isBlank_last_trimEnd (cs : List Char) :
    ∀ c ∈ (trimEnd cs).getLast?, isBlank c = false := by
  rw [trimEnd_eq, List.getLast?_reverse]
  exact isBlank_head_trimStart cs.reverse

theorem exists_trimEnd (cs : List Char) :
    ∃ blanks, AllBlank blanks ∧ cs = trimEnd cs ++ blanks := by
  obtain ⟨blanks, hb, hcs⟩ := exists_trimStart cs.reverse
  refine ⟨blanks.reverse, fun c hc => hb c (List.mem_reverse.mp hc), ?_⟩
  rw [trimEnd_eq, ← List.reverse_append, ← hcs, List.reverse_reverse]

/-! ### Both ends -/

theorem trim_of_pads {core cs : List Char} (h : Pads core cs) (hcore : IsTrimmed core) :
    trim cs = core := by
  obtain ⟨before, after, hb, ha, rfl⟩ := h
  rw [trim, List.append_assoc, trimStart_append hb]
  cases core with
  | nil =>
    rw [List.nil_append, trimStart_of_allBlank ha]
    rfl
  | cons c core =>
    have hhead : trimStart (c :: core ++ after) = c :: core ++ after :=
      trimStart_of_head hcore.head
    rw [hhead, trimEnd_append ha, trimEnd_of_last hcore.last]

theorem pads_trim (cs : List Char) : Pads (trim cs) cs := by
  obtain ⟨before, hb, hbefore⟩ := exists_trimStart cs
  obtain ⟨after, ha, hafter⟩ := exists_trimEnd (trimStart cs)
  refine ⟨before, after, hb, ha, ?_⟩
  rw [trim, List.append_assoc, ← hafter, ← hbefore]

theorem isTrimmed_trim (cs : List Char) : IsTrimmed (trim cs) where
  head := by
    intro c hc
    obtain ⟨after, -, hafter⟩ := exists_trimEnd (trimStart cs)
    have hsame : (trimStart cs).head? = some c := by
      have hhead : (trimEnd (trimStart cs)).head? = some c := hc
      rw [hafter, List.head?_append, hhead]
      rfl
    exact isBlank_head_trimStart cs c hsame
  last := isBlank_last_trimEnd (trimStart cs)

/-- **What trimming leaves** is the text without a blank at either end around which there are
only blanks. -/
theorem trim_eq_iff {core cs : List Char} : trim cs = core ↔ Pads core cs ∧ IsTrimmed core := by
  constructor
  · rintro rfl
    exact ⟨pads_trim cs, isTrimmed_trim cs⟩
  · rintro ⟨h, hcore⟩
    exact trim_of_pads h hcore

/-- **More blanks around a text make no difference.** -/
theorem trim_eq_of_pads {core cs : List Char} (h : Pads core cs) : trim cs = trim core :=
  trim_of_pads ((pads_trim core).trans h) (isTrimmed_trim core)

theorem trim_trimStart (cs : List Char) : trim (trimStart cs) = trim cs := by
  obtain ⟨blanks, hblanks, hcs⟩ := exists_trimStart cs
  exact (trim_eq_of_pads ⟨blanks, [], hblanks, nofun, by rw [List.append_nil, ← hcs]⟩).symm

theorem trim_trimEnd (cs : List Char) : trim (trimEnd cs) = trim cs := by
  obtain ⟨blanks, hblanks, hcs⟩ := exists_trimEnd cs
  exact (trim_eq_of_pads ⟨[], blanks, nofun, hblanks, by rw [List.nil_append, ← hcs]⟩).symm

/-! ### The first separator -/

theorem cutFirst_append {separator : Char} {before : List Char} (h : separator ∉ before)
    (after : List Char) :
    cutFirst separator (before ++ separator :: after) = some (before, after) := by
  induction before with
  | nil => simp [cutFirst]
  | cons c before ih =>
    obtain ⟨hc, hbefore⟩ := not_or.mp (mt List.mem_cons.mpr h)
    simp [cutFirst, Ne.symm hc, ih hbefore]

theorem cutFirst_of_not_mem {separator : Char} {cs : List Char} (h : separator ∉ cs) :
    cutFirst separator cs = none := by
  induction cs with
  | nil => rfl
  | cons c cs ih =>
    obtain ⟨hc, hcs⟩ := not_or.mp (mt List.mem_cons.mpr h)
    simp [cutFirst, Ne.symm hc, ih hcs]

/-- A text around a character that is not blank is trimmed on both sides of it. -/
theorem trim_append_cons {c : Char} (hc : isBlank c = false) (before after : List Char) :
    trim (before ++ c :: after) = trimStart before ++ c :: trimEnd after := by
  obtain ⟨first, hf, hfirst⟩ := exists_trimStart before
  obtain ⟨last, hl, hlast⟩ := exists_trimEnd after
  refine trim_of_pads ⟨first, last, hf, hl, ?_⟩ ⟨?_, ?_⟩
  · calc before ++ c :: after
        = (first ++ trimStart before) ++ c :: (trimEnd after ++ last) := by
          rw [← hfirst, ← hlast]
      _ = first ++ (trimStart before ++ c :: trimEnd after) ++ last := by
          simp only [List.append_assoc, List.cons_append]
  · cases hstart : trimStart before with
    | nil => simpa using hc
    | cons d rest =>
      have hhead := isBlank_head_trimStart before
      rw [hstart] at hhead
      simpa using hhead
  · rw [List.getLast?_append, List.getLast?_cons]
    cases hend : (trimEnd after).getLast? with
    | none => simpa [hend] using hc
    | some d =>
      have hlast := isBlank_last_trimEnd after d hend
      simpa using hlast

end KnxIp.Text
