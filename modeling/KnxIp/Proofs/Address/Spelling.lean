import KnxIp.Address.Text
import KnxIp.Proofs.Reading
import KnxIp.Proofs.Text.Numerals

/-!
# Which texts are addresses

An address is written as two or three numerals with separators between them, and each way of
writing it has its separator, its parts and their bounds (`KnxIp.IndividualAddress.Denotes`,
`KnxIp.GroupAddress.Denotes`, `KnxIp.GroupAddress.DenotesLong`). There may be zeros in front of
a part, so one address has many texts; but a text has only one address of a kind, since its
numerals are its fields.

Reading goes the other way: it chooses the separator by what the text contains, cuts the text,
and then looks at the number of fields. So what it accepts for a group is not the ways of
writing one by one, but every number of fields with every separator. That is one more than
there are ways of writing: two numerals with a point between them are read as well
(`KnxIp.GroupAddress.exists_undocumented`).

Of a text in an address space there is one thing to say: it denotes a number, and is read as the
address with this number, or it denotes none and is misspelled (`KnxIp.ReadsAs`).

## Main statements

* `KnxIp.IndividualAddress.readsAs_ofText`, `KnxIp.GroupAddress.readsAs_ofText`: an address is
  read from the texts that denote it.
* `KnxIp.Address.parse_denotes`: what the texts of either kind mean, and that what is written
  for an address is read back.
* `KnxIp.GroupAddress.parse_iff_isDocumented`: a group is read from the texts in one of the
  ways of writing, and from pairs of numbers with a point between them.
-/

namespace KnxIp

open Text (Joins)

/-! ### Ways of writing -/

/-- **What a text denotes as an individual address**: area, line and device, with points. -/
def IndividualAddress.Denotes (cs : List Char) (raw : Nat) : Prop :=
  ∃ area line device, Joins '.' [area, line, device] cs ∧
    area ≤ 15 ∧ line ≤ 15 ∧ device ≤ 255 ∧ raw = area * 4096 + line * 256 + device

namespace GroupAddress

/-- **What a text denotes as a group address of three parts**, with this separator. -/
def Denotes (separator : Char) (cs : List Char) (raw : Nat) : Prop :=
  ∃ main middle sub, Joins separator [main, middle, sub] cs ∧
    main ≤ 31 ∧ middle ≤ 7 ∧ sub ≤ 255 ∧ raw = main * 2048 + middle * 256 + sub

/-- **What a text denotes as a group address of two parts**, with this separator. -/
def DenotesLong (separator : Char) (cs : List Char) (raw : Nat) : Prop :=
  ∃ main sub, Joins separator [main, sub] cs ∧
    main ≤ 31 ∧ sub ≤ 2047 ∧ raw = main * 2048 + sub

/-- **The ways in which a group address is written**: three parts with slashes or with points,
and two parts with a slash. -/
def IsDocumented (cs : List Char) (raw : Nat) : Prop :=
  Denotes '/' cs raw ∨ Denotes '.' cs raw ∨ DenotesLong '/' cs raw

end GroupAddress

/-! ### Parts -/

/-- The parts of a text are the numbers that it joins, unless they are too many or too great. -/
theorem addressParts?_eq_some_iff {separator : Char} (hs : separator.isDigit = false)
    {ns : List Nat} (hns : ns ≠ []) {cs : List Char} :
    addressParts? separator cs = some ns ↔
      Joins separator ns cs ∧ ns.length ≤ 3 ∧ ∀ n ∈ ns, n < 65536 := by
  have hlength (h : (Text.fields separator cs).mapM Text.readDigits? = some ns) :
      (Text.fields separator cs).length = ns.length :=
    (Text.mapM_eq_some_iff.mp h).length_eq
  simp only [addressParts?, Option.ite_none_right_eq_some, Text.mapM_filter_eq_some_iff,
    ← Text.mapM_fields_eq_some_iff hs hns, decide_eq_true_eq]
  constructor
  · rintro ⟨hle, h, hbound⟩
    exact ⟨h, by rw [← hlength h]; exact hle, hbound⟩
  · rintro ⟨h, hle, hbound⟩
    exact ⟨by rw [hlength h]; exact hle, h, hbound⟩

/-- A text of three numbers has three parts, and a text of two has two. -/
theorem addressParts?_of_three {separator : Char} (hs : separator.isDigit = false) {a b c : Nat}
    {cs : List Char} (h : Joins separator [a, b, c] cs)
    (hbound : a < 65536 ∧ b < 65536 ∧ c < 65536) : addressParts? separator cs = some [a, b, c] := by
  rw [addressParts?_eq_some_iff hs (List.cons_ne_nil _ _)]
  exact ⟨h, by simp, by simpa using hbound⟩

theorem addressParts?_of_two {separator : Char} (hs : separator.isDigit = false) {a b : Nat}
    {cs : List Char} (h : Joins separator [a, b] cs)
    (hbound : a < 65536 ∧ b < 65536) : addressParts? separator cs = some [a, b] := by
  rw [addressParts?_eq_some_iff hs (List.cons_ne_nil _ _)]
  exact ⟨h, by simp, by simpa using hbound⟩

/-- **Whether a result is what a text denotes.** The text denotes a number or none: there is a
value with this number, or the fault. -/
structure ReadsAs {α : Type} (number : α → Nat) (fault : Fault) (denotes : Nat → Prop)
    (result : Except Fault α) : Prop where
  accepts : ∀ n, denotes n → ∃ a, result = .ok a ∧ number a = n
  refuses : (∀ n, ¬ denotes n) → result = .error fault

namespace ReadsAs

variable {α β : Type} {number : α → Nat} {fault : Fault} {denotes : Nat → Prop}
  {r : Except Fault α}

theorem cases (h : ReadsAs number fault denotes r) :
    (∃ a, r = .ok a ∧ denotes (number a)) ∨ r = .error fault ∧ ∀ n, ¬ denotes n := by
  by_cases hn : ∃ n, denotes n
  · obtain ⟨n, hn⟩ := hn
    obtain ⟨a, ha, rfl⟩ := h.accepts n hn
    exact .inl ⟨a, ha, hn⟩
  · exact .inr ⟨h.refuses (not_exists.mp hn), not_exists.mp hn⟩

theorem denotes_of_ok (h : ReadsAs number fault denotes r) {a : α} (ha : r = .ok a) :
    denotes (number a) := by
  obtain ⟨b, rfl, hb⟩ | ⟨rfl, -⟩ := h.cases
  · cases ha
    exact hb
  · cases ha

theorem eq_of_error (h : ReadsAs number fault denotes r) {other : Fault}
    (hr : r = .error other) : other = fault := by
  obtain ⟨b, rfl, -⟩ | ⟨rfl, -⟩ := h.cases
  · cases hr
  · cases hr
    rfl

/-- What is made of the value keeps its number. -/
theorem map (h : ReadsAs number fault denotes r) (f : α → β) {number' : β → Nat}
    (hf : ∀ a, number' (f a) = number a) : ReadsAs number' fault denotes (r.map f) where
  accepts n hn := by
    obtain ⟨a, rfl, ha⟩ := h.accepts n hn
    exact ⟨f a, rfl, (hf a).trans ha⟩
  refuses hn := by
    rw [h.refuses hn]
    rfl

end ReadsAs

/-! ### Individual addresses -/

namespace IndividualAddress

/-- Parts within their bounds make an address. -/
theorem exists_ofParts {area line device : Nat} (ha : area ≤ 15) (hl : line ≤ 15)
    (hd : device ≤ 255) :
    ∃ a, ofParts (UInt8.ofNat area) (UInt8.ofNat line) (UInt8.ofNat device) = .ok a ∧
      a.raw.toNat = area * 4096 + line * 256 + device := by
  have harea : (UInt8.ofNat area).toNat = area := by simp; omega
  have hline : (UInt8.ofNat line).toNat = line := by simp; omega
  have hdevice : (UInt8.ofNat device).toNat = device := by simp; omega
  have hok : ¬ (15 < UInt8.ofNat area ∨ 15 < UInt8.ofNat line) := by
    simp only [UInt8.lt_iff_toNat_lt, harea, hline, UInt8.reduceToNat]
    omega
  refine ⟨_, by rw [ofParts, if_neg hok], ?_⟩
  simp only [harea, hline, hdevice, UInt16.toNat_ofNat']
  omega

/-- **An individual address is read from the texts that denote it.** -/
theorem readsAs_ofText (cs : List Char) :
    ReadsAs (fun a => a.raw.toNat) misspelledAddress (Denotes cs) (ofText cs) where
  accepts raw h := by
    obtain ⟨area, line, device, hjoins, ha, hl, hd, rfl⟩ := h
    have hparts := addressParts?_of_three (by decide) hjoins (by omega)
    have hbounds : area ≤ 15 ∧ line ≤ 15 ∧ device ≤ 255 := ⟨ha, hl, hd⟩
    simpa only [ofText, hparts, if_pos hbounds] using exists_ofParts ha hl hd
  refuses h := by
    unfold ofText
    split
    · rename_i area line device hparts
      obtain ⟨hjoins, -⟩ :=
        (addressParts?_eq_some_iff (by decide) (List.cons_ne_nil _ _)).mp hparts
      exact if_neg fun ⟨ha, hl, hd⟩ => h _ ⟨area, line, device, hjoins, ha, hl, hd, rfl⟩
    · rfl

/-- What is written for an address denotes it. -/
theorem denotes_text (a : IndividualAddress) : Denotes a.text.toList a.raw.toNat := by
  have hraw := a.raw.toNat_lt
  refine ⟨a.area, a.line, a.device, ⟨[_, _, _], .cons (Text.isNumeral_decimal _)
    (.cons (Text.isNumeral_decimal _) (.cons (Text.isNumeral_decimal _) .nil)), ?_⟩, ?_⟩
  · simp [text, List.intercalate]
  · unfold area line device
    omega

end IndividualAddress

/-! ### Group addresses -/

namespace GroupAddress

theorem exists_ofParts {main middle sub : Nat} (hm : main ≤ 31) (hmid : middle ≤ 7)
    (hs : sub ≤ 255) :
    ∃ g, ofParts (UInt8.ofNat main) (UInt8.ofNat middle) (UInt8.ofNat sub) = .ok g ∧
      g.raw.toNat = main * 2048 + middle * 256 + sub := by
  have hmain : (UInt8.ofNat main).toNat = main := by simp; omega
  have hmiddle : (UInt8.ofNat middle).toNat = middle := by simp; omega
  have hsub : (UInt8.ofNat sub).toNat = sub := by simp; omega
  have hok : ¬ (31 < UInt8.ofNat main ∨ 7 < UInt8.ofNat middle) := by
    simp only [UInt8.lt_iff_toNat_lt, hmain, hmiddle, UInt8.reduceToNat]
    omega
  refine ⟨_, by rw [ofParts, if_neg hok], ?_⟩
  simp only [hmain, hmiddle, hsub, UInt16.toNat_ofNat']
  omega

theorem exists_ofPair {main sub : Nat} (hm : main ≤ 31) (hs : sub ≤ 2047) :
    ∃ g, ofPair (UInt8.ofNat main) (UInt16.ofNat sub) = .ok g ∧
      g.raw.toNat = main * 2048 + sub := by
  have hmain : (UInt8.ofNat main).toNat = main := by simp; omega
  have hsub : (UInt16.ofNat sub).toNat = sub := by simp; omega
  have hok : ¬ (31 < UInt8.ofNat main ∨ 2047 < UInt16.ofNat sub) := by
    simp only [UInt8.lt_iff_toNat_lt, UInt16.lt_iff_toNat_lt, hmain, hsub, UInt8.reduceToNat,
      UInt16.reduceToNat]
    omega
  refine ⟨_, by rw [ofPair, if_neg hok], ?_⟩
  simp only [hmain, hsub, UInt16.toNat_ofNat']
  omega

/-- The separators of a group address. -/
def IsSeparator (c : Char) : Prop := c = '/' ∨ c = '.'

theorem IsSeparator.isDigit {c : Char} (h : IsSeparator c) : c.isDigit = false := by
  rcases h with rfl | rfl <;> rfl

/-- **The separator of a text can be told from the text**, if it is there at all. -/
theorem IsSeparator.eq {separator : Char} (h : IsSeparator separator) {m n : Nat} {ns : List Nat}
    {cs : List Char} (hjoins : Joins separator (m :: n :: ns) cs) :
    (if '/' ∈ cs then '/' else '.') = separator := by
  rcases h with rfl | rfl
  · exact if_pos hjoins.mem
  · exact if_neg (hjoins.not_mem rfl (by decide))

/-- What reading accepts: three parts or two, with either separator. -/
def IsRead (cs : List Char) (raw : Nat) : Prop :=
  ∃ separator, IsSeparator separator ∧ (Denotes separator cs raw ∨ DenotesLong separator cs raw)

/-- **A group address is read from the texts that denote it**, with any number of parts and any
separator. -/
theorem readsAs_ofText (cs : List Char) :
    ReadsAs (fun g => g.raw.toNat) misspelledAddress (IsRead cs) (ofText cs) where
  accepts raw h := by
    obtain ⟨separator, hs, ⟨main, middle, sub, hjoins, hm, hmid, hsub, rfl⟩ |
      ⟨main, sub, hjoins, hm, hsub, rfl⟩⟩ := h
    · have hparts := addressParts?_of_three hs.isDigit hjoins (by omega)
      have hbounds : main ≤ 31 ∧ middle ≤ 7 ∧ sub ≤ 255 := ⟨hm, hmid, hsub⟩
      simpa only [ofText, hs.eq hjoins, hparts, if_pos hbounds] using exists_ofParts hm hmid hsub
    · have hparts := addressParts?_of_two hs.isDigit hjoins (by omega)
      have hbounds : main ≤ 31 ∧ sub ≤ 2047 := ⟨hm, hsub⟩
      simpa only [ofText, hs.eq hjoins, hparts, if_pos hbounds] using exists_ofPair hm hsub
  refuses h := by
    have hs : IsSeparator (if '/' ∈ cs then '/' else '.') := by
      unfold IsSeparator
      split <;> simp
    simp only [ofText]
    generalize (if '/' ∈ cs then '/' else '.') = separator at hs ⊢
    split
    · rename_i main middle sub hparts
      obtain ⟨hjoins, -⟩ :=
        (addressParts?_eq_some_iff hs.isDigit (List.cons_ne_nil _ _)).mp hparts
      exact if_neg fun ⟨hm, hmid, hsub⟩ =>
        h _ ⟨_, hs, .inl ⟨main, middle, sub, hjoins, hm, hmid, hsub, rfl⟩⟩
    · rename_i main sub hparts
      obtain ⟨hjoins, -⟩ :=
        (addressParts?_eq_some_iff hs.isDigit (List.cons_ne_nil _ _)).mp hparts
      exact if_neg fun ⟨hm, hsub⟩ => h _ ⟨_, hs, .inr ⟨main, sub, hjoins, hm, hsub, rfl⟩⟩
    · rfl

theorem IsDocumented.isRead {cs : List Char} {raw : Nat} (h : IsDocumented cs raw) :
    IsRead cs raw := by
  obtain h | h | h := h
  · exact ⟨'/', .inl rfl, .inl h⟩
  · exact ⟨'.', .inr rfl, .inl h⟩
  · exact ⟨'/', .inl rfl, .inr h⟩

theorem denotes_text (g : GroupAddress) : Denotes '/' g.text.toList g.raw.toNat := by
  have hraw := g.raw.toNat_lt
  refine ⟨g.main, g.middle, g.sub, ⟨[_, _, _], .cons (Text.isNumeral_decimal _)
    (.cons (Text.isNumeral_decimal _) (.cons (Text.isNumeral_decimal _) .nil)), ?_⟩, ?_⟩
  · simp [text, List.intercalate]
  · unfold main middle sub
    omega

theorem denotesLong_longText (g : GroupAddress) : DenotesLong '/' g.longText.toList g.raw.toNat := by
  have hraw := g.raw.toNat_lt
  refine ⟨g.main, g.longSub, ⟨[_, _], .cons (Text.isNumeral_decimal _)
    (.cons (Text.isNumeral_decimal _) .nil), ?_⟩, ?_⟩
  · simp [longText, List.intercalate]
  · unfold main longSub
    omega

/-- A pair with a point between its numbers is not one of the ways of writing: it has no slash,
and not as many numbers as the other text without a slash. -/
theorem not_isDocumented_of_denotesLong {cs : List Char} {raw : Nat} (h : DenotesLong '.' cs raw)
    (n : Nat) : ¬ IsDocumented cs n := by
  obtain ⟨main, sub, hjoins, -⟩ := h
  have hslash : '/' ∉ cs := hjoins.not_mem rfl (by decide)
  rintro (⟨_, _, _, hslashes, -⟩ | ⟨_, _, _, hpoints, -⟩ | ⟨_, _, hslashes, -⟩)
  · exact hslash hslashes.mem
  · have hparts := hpoints.unique rfl (List.cons_ne_nil _ _) (List.cons_ne_nil _ _) hjoins
    simp at hparts
  · exact hslash hslashes.mem

theorem isRead_iff {cs : List Char} {raw : Nat} :
    IsRead cs raw ↔ IsDocumented cs raw ∨ DenotesLong '.' cs raw := by
  constructor
  · rintro ⟨separator, rfl | rfl, h | h⟩
    · exact .inl (.inl h)
    · exact .inl (.inr (.inr h))
    · exact .inl (.inr (.inl h))
    · exact .inr h
  · rintro (h | h)
    · exact h.isRead
    · exact ⟨'.', .inr rfl, .inr h⟩

end GroupAddress

/-! ### Addresses of either kind -/

namespace Address

/-- **What a text denotes in an address space**, as far as it is read. -/
def IsRead : AddressKind → List Char → Nat → Prop
  | .individual => IndividualAddress.Denotes
  | .group => GroupAddress.IsRead

/-- **An address is read from the texts that denote it**, in the address space asked for. -/
theorem readsAs_parse (kind : AddressKind) (text : String) :
    ReadsAs (fun a => a.raw.toNat) misspelledAddress (IsRead kind text.toList)
      (parse kind text) := by
  cases kind with
  | individual => exact (IndividualAddress.readsAs_ofText _).map _ fun _ => rfl
  | group => exact (GroupAddress.readsAs_ofText _).map _ fun _ => rfl

/-- What is read in an address space is an address of it. -/
theorem kind_of_parse {kind : AddressKind} {text : String} {a : Address}
    (h : parse kind text = .ok a) : a.kind = kind := by
  cases kind with
  | individual =>
    obtain ⟨i, -, rfl⟩ := exists_of_map_eq_ok h
    rfl
  | group =>
    obtain ⟨g, -, rfl⟩ := exists_of_map_eq_ok h
    rfl

theorem ext_of_kind {a b : Address} (hkind : a.kind = b.kind)
    (hraw : a.raw.toNat = b.raw.toNat) : a = b := by
  rw [← ofRaw_kind_raw a, ← ofRaw_kind_raw b, hkind, UInt16.toNat_inj.mp hraw]

theorem parse_eq_ok_iff {kind : AddressKind} {text : String} {a : Address} :
    parse kind text = .ok a ↔ a.kind = kind ∧ IsRead kind text.toList a.raw.toNat := by
  constructor
  · intro h
    exact ⟨kind_of_parse h, (readsAs_parse kind text).denotes_of_ok h⟩
  · rintro ⟨rfl, h⟩
    obtain ⟨b, hb, hraw⟩ := (readsAs_parse a.kind text).accepts _ h
    rw [hb, ext_of_kind (kind_of_parse hb) hraw]

/-- What is written for an address denotes it. -/
theorem isRead_text (a : Address) : IsRead a.kind a.text.toList a.raw.toNat := by
  cases a with
  | individual a => exact a.denotes_text
  | group g => exact GroupAddress.IsDocumented.isRead (.inl g.denotes_text)

/-- **The texts of addresses mean what they say.** A text that denotes an individual address is
read as this address, and every other text is refused as one. A text that denotes a group in one
of the ways of writing is read as this group. What is refused is refused as misspelled, and what
is written for an address, also for a group in two parts, is read back. -/
theorem parse_denotes :
    (∀ text raw, IndividualAddress.Denotes text.toList raw →
      ∃ a, parse .individual text = .ok (.individual a) ∧ a.raw.toNat = raw) ∧
    (∀ text, (∀ raw, ¬ IndividualAddress.Denotes text.toList raw) →
      parse .individual text = .error (.addressing .invalidFormat)) ∧
    (∀ text raw, GroupAddress.IsDocumented text.toList raw →
      ∃ g, parse .group text = .ok (.group g) ∧ g.raw.toNat = raw) ∧
    (∀ kind text fault, parse kind text = .error fault →
      fault = .addressing .invalidFormat) ∧
    (∀ a : Address, parse a.kind a.text = .ok a) ∧
    ∀ g : GroupAddress, parse .group g.longText = .ok (.group g) := by
  refine ⟨fun text raw h => ?_, fun text => (readsAs_parse .individual text).refuses,
    fun text raw h => ?_, fun kind text fault => (readsAs_parse kind text).eq_of_error,
    fun a => parse_eq_ok_iff.mpr ⟨rfl, a.isRead_text⟩, fun g => parse_eq_ok_iff.mpr ⟨rfl, ?_⟩⟩
  · obtain ⟨a, ha, hraw⟩ := (IndividualAddress.readsAs_ofText _).accepts raw h
    exact ⟨a, by rw [parse, ha]; rfl, hraw⟩
  · obtain ⟨g, hg, hraw⟩ := (GroupAddress.readsAs_ofText _).accepts raw h.isRead
    exact ⟨g, by rw [parse, hg]; rfl, hraw⟩
  · exact GroupAddress.IsDocumented.isRead (.inr (.inr g.denotesLong_longText))

/-- Area 7, line 1 and device 99, with zeros in front of the area. -/
theorem parse_denotes_zeros :
    IndividualAddress.Denotes "007.1.99".toList 29027 ∧
      ∃ a, parse .individual "007.1.99" = .ok (.individual a) ∧ a.raw.toNat = 29027 := by
  have hseven : Text.IsNumeral ['0', '0', '7'] 7 := Text.readDigits?_eq_some_iff.mp rfl
  have hone : Text.IsNumeral ['1'] 1 := Text.readDigits?_eq_some_iff.mp rfl
  have hdevice : Text.IsNumeral ['9', '9'] 99 := Text.readDigits?_eq_some_iff.mp rfl
  have h : IndividualAddress.Denotes "007.1.99".toList 29027 :=
    ⟨7, 1, 99, ⟨[['0', '0', '7'], ['1'], ['9', '9']],
      .cons hseven (.cons hone (.cons hdevice .nil)), by decide⟩, by decide, by decide, by decide,
      rfl⟩
  exact ⟨h, parse_denotes.1 "007.1.99" 29027 h⟩

end Address

namespace GroupAddress

/-- **What is read as a group**: the texts in one of the ways of writing, and one more. A text
that is read and is in none of the ways of writing is a pair of numbers with a point between
them, and every such pair within the bounds is read. So a text without a slash that is read has
three numbers with points between them, or two. -/
theorem parse_iff_isDocumented (text : String) :
    (∀ g, Address.parse .group text = .ok (.group g) ↔
      IsDocumented text.toList g.raw.toNat ∨ DenotesLong '.' text.toList g.raw.toNat) ∧
    ((∃ a, Address.parse .group text = .ok a) ∧ (∀ raw, ¬ IsDocumented text.toList raw) ↔
      ∃ raw, DenotesLong '.' text.toList raw) ∧
    ∀ a, '/' ∉ text.toList → Address.parse .group text = .ok a →
      ∃ ns, (ns.length = 3 ∨ ns.length = 2) ∧ Joins '.' ns text.toList := by
  have hreads {a : Address} (ha : Address.parse .group text = .ok a) :
      IsDocumented text.toList a.raw.toNat ∨ DenotesLong '.' text.toList a.raw.toNat :=
    isRead_iff.mp (Address.parse_eq_ok_iff.mp ha).2
  refine ⟨fun g => ⟨hreads, fun h => Address.parse_eq_ok_iff.mpr ⟨rfl, isRead_iff.mpr h⟩⟩,
    ⟨?_, ?_⟩, fun a hslash ha => ?_⟩
  · rintro ⟨⟨a, ha⟩, hnone⟩
    exact ⟨_, (hreads ha).resolve_left (hnone _)⟩
  · rintro ⟨raw, h⟩
    obtain ⟨a, ha, -⟩ := (Address.readsAs_parse .group text).accepts raw (isRead_iff.mpr (.inr h))
    exact ⟨⟨a, ha⟩, not_isDocumented_of_denotesLong h⟩
  · obtain (⟨_, _, _, h, -⟩ | ⟨main, middle, sub, h, -⟩ | ⟨_, _, h, -⟩) | ⟨main, sub, h, -⟩ :=
      hreads ha
    · exact absurd h.mem hslash
    · exact ⟨[main, middle, sub], .inl rfl, h⟩
    · exact absurd h.mem hslash
    · exact ⟨[main, sub], .inr rfl, h⟩

/-- Main group 1 and sub group 2, with a point between them. -/
theorem exists_undocumented :
    Address.parse .group "1.2" = .ok (.group ⟨2050⟩) ∧
      ∀ raw, ¬ IsDocumented "1.2".toList raw := by
  have hone : Text.IsNumeral ['1'] 1 := Text.readDigits?_eq_some_iff.mp rfl
  have htwo : Text.IsNumeral ['2'] 2 := Text.readDigits?_eq_some_iff.mp rfl
  have hpair : DenotesLong '.' "1.2".toList 2050 :=
    ⟨1, 2, ⟨[['1'], ['2']], .cons hone (.cons htwo .nil), by decide⟩, by decide, by decide, rfl⟩
  exact ⟨Address.parse_eq_ok_iff.mpr ⟨rfl, isRead_iff.mpr (.inr hpair)⟩,
    not_isDocumented_of_denotesLong hpair⟩

end GroupAddress

end KnxIp
