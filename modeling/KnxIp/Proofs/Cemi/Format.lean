import KnxIp.Cemi.Wire
import KnxIp.Proofs.Reading

/-!
# Which strings begin with a message

A message says its own length, with two octets: the second one counts the additional
information, and behind the addresses there is one that counts the codes and the data. Both
can be anything, and what stands behind the information moves with the first of them. So a
string begins with a message (`KnxIp.Cemi.Begins`) if it has one of the three message codes,
if neither length is greater than what a message keeps, and if it is as long as the two
lengths say (`KnxIp.Cemi.extent?`).

What follows the message does not matter, and nothing less than the message will do. For this
the string is taken apart: `KnxIp.Cemi.Spells` says of some octets that they are one message
and nothing else, and which one.

## Main statements

* `KnxIp.Cemi.parse_eq_ok_iff`: a message is read from the strings that begin with octets that
  spell it.
* `KnxIp.Cemi.parse_outcome_iff`: for each outcome of reading, exactly which strings have it;
  and a message is read from its own octets, whatever follows them, and from no fewer.
-/

namespace KnxIp

/-! ### Codes and data -/

namespace Telegram

/-- A string is codes and data if there is anything, and if the data is not too long. -/
theorem readCodes?_eq_none_iff (codes : List UInt8) :
    readCodes? codes = none ↔ codes = [] ∨ 34 < codes.length := by
  match codes with
  | [] => simp [readCodes?]
  | [_] | [_, _] => simp [readCodes?]
  | first :: second :: octet :: rest =>
    simp only [readCodes?, Option.map_eq_none_iff, Octets.ofList?_eq_none_iff, maxApduData,
      List.length_cons, or_iff_right (List.cons_ne_nil first (second :: octet :: rest))]
    omega

/-- **Whether a string begins with a telegram**: behind the addresses there is a length that is
not too great, and one octet more than it says. -/
def Begins (s : List UInt8) : Prop :=
  ∃ length : UInt8, s[6]? = some length ∧ length.toNat ≤ 33 ∧ 8 + length.toNat ≤ s.length

theorem readsIf_read (s : List UInt8) : ReadsIf (.decode .invalidCemi) (Begins s) (read s) := by
  obtain _ | ⟨control1, _ | ⟨control2, _ | ⟨sourceHigh, _ | ⟨sourceLow, _ | ⟨high, _ | ⟨low,
    _ | ⟨length, rest⟩⟩⟩⟩⟩⟩⟩ := s
  iterate 7 · exact .of_error (by simp [Begins])
  refine ReadsIf.congr (p := length.toNat ≤ 33 ∧ length.toNat < rest.length) ?_
    (by simp [Begins]; omega)
  by_cases hrest : rest.length ≤ length.toNat
  · rw [read, if_pos hrest]
    exact .of_error (by omega)
  · have hlength : (rest.take (length.toNat + 1)).length = length.toNat + 1 := by
      rw [List.length_take]
      omega
    have hnone : readCodes? (rest.take (length.toNat + 1)) = none ↔ 33 < length.toNat := by
      rw [readCodes?_eq_none_iff, ← List.length_eq_zero_iff, hlength]
      omega
    rw [read, if_neg hrest]
    cases hcodes : readCodes? (rest.take (length.toNat + 1)) with
    | none =>
      have hlong := hnone.mp hcodes
      exact .of_error (by omega)
    | some r =>
      have hshort : ¬ 33 < length.toNat := fun h => by simp [hnone.mpr h] at hcodes
      exact .of_ok _ (by omega)

/-- What the control field says of the destination is what the address is. -/
theorem isForGroup_ofRaw (t : Telegram) (group : Bool) (raw : UInt16)
    (h : t.destination = .ofRaw (if group then .group else .individual) raw) :
    t.isForGroup = group := by
  rw [isForGroup, h]
  cases group <;> rfl

/-- **What a string looks like from which a telegram is read**: the octets of the head, a length
and so many octets of codes and data. -/
theorem eq_append_of_read {s : List UInt8} {t : Telegram} (h : read s = .ok t) :
    t.control2.isGroup = t.isForGroup ∧ ∃ (length : UInt8) (codes rest : List UInt8),
      s = t.head ++ length :: (codes ++ rest) ∧ codes.length = length.toNat + 1 ∧
        readCodes? codes = some (t.tpci, t.apci, t.data) := by
  unfold read at h
  split at h
  · rename_i control1 control2 sourceHigh sourceLow high low length rest
    split at h
    · cases h
    · rename_i hrest
      split at h
      · rename_i tpci apci data hcodes
        have hgroup := isForGroup_ofRaw t (Control2.mk control2).isGroup (word high low)
        cases h
        refine ⟨(hgroup rfl).symm, length, rest.take (length.toNat + 1),
          rest.drop (length.toNat + 1), ?_, ?_, hcodes⟩
        · have hraw (kind : AddressKind) (raw : UInt16) : (Address.ofRaw kind raw).raw = raw := by
            cases kind <;> rfl
          simp only [head, hgroup rfl, Control2.withGroup_isGroup, hraw, wordOctets, highOctet_word,
            lowOctet_word, List.take_append_drop, List.cons_append, List.nil_append]
        · rw [List.length_take]
          omega
      · cases h
  · cases h

/-- A telegram is read from such a string, whatever follows. -/
theorem read_head_append {t : Telegram} {length : UInt8} {codes : List UInt8}
    (hgroup : t.control2.isGroup = t.isForGroup) (hlength : codes.length = length.toNat + 1)
    (hcodes : readCodes? codes = some (t.tpci, t.apci, t.data)) (rest : List UInt8) :
    read (t.head ++ length :: (codes ++ rest)) = .ok t := by
  have hle : ¬ (codes ++ rest).length ≤ length.toNat := by
    rw [List.length_append]
    omega
  have htake : (codes ++ rest).take (length.toNat + 1) = codes := by
    rw [← hlength, List.take_left]
  have hkind : (if t.control2.isGroup then AddressKind.group else .individual) =
      t.destination.kind := by
    rw [hgroup, isForGroup]
    cases t.destination.kind <;> rfl
  simp only [head, ← hgroup, Control2.withGroup_isGroup, wordOctets, List.cons_append,
    List.nil_append, read, hle, htake, hcodes, if_false, hkind, word_highOctet_lowOctet,
    Address.ofRaw_kind_raw]

end Telegram

/-! ### Messages -/

theorem MessageCode.octet_of_ofOctet? {octet : UInt8} {code : MessageCode}
    (h : ofOctet? octet = some code) : code.octet = octet := by
  simpa using List.find?_some h

namespace Cemi

/-- The octets of a message up to its codes, with this length. -/
def opening (c : Cemi) (length : UInt8) : List UInt8 :=
  c.code.octet :: UInt8.ofNat c.info.toList.length ::
    (c.info.toList ++ (c.telegram.head ++ [length]))

/-- **Whether some octets are one message**, and are read as this one: a length, and so many
octets from which its codes and its data are read. -/
def Spells (c : Cemi) (s : List UInt8) : Prop :=
  c.telegram.control2.isGroup = c.telegram.isForGroup ∧
    ∃ (length : UInt8) (codes : List UInt8),
      s = c.opening length ++ codes ∧ codes.length = length.toNat + 1 ∧
        Telegram.readCodes? codes = some (c.telegram.tpci, c.telegram.apci, c.telegram.data)

theorem toNat_length_info (c : Cemi) :
    (UInt8.ofNat c.info.toList.length).toNat = c.info.toList.length := by
  have : c.info.toList.length ≤ 16 := c.info.length_le
  simp only [UInt8.toNat_ofNat']
  omega

/-- A message is read from octets that spell it, whatever follows them. -/
theorem Spells.parse_append {c : Cemi} {s : List UInt8} (h : c.Spells s) (rest : List UInt8) :
    parse (s ++ rest) = .ok c := by
  obtain ⟨hgroup, length, codes, rfl, hlength, hcodes⟩ := h
  have hread := Telegram.read_head_append hgroup hlength hcodes rest
  have hinfo : additionalInfo c.info.toList = .ok c.info := by
    rw [additionalInfo, Octets.ofList, Octets.ofList?_toList]
  have hshort (s : List UInt8) : ¬ (c.info.toList ++ s).length < c.info.toList.length := by simp
  simp only [opening, List.cons_append, List.append_assoc, List.nil_append, parse,
    MessageCode.ofOctet?_octet, toNat_length_info, hshort, if_false, List.take_left,
    List.drop_left, hinfo, hread]
  rfl

theorem exists_spells_of_parse {s : List UInt8} {c : Cemi} (h : parse s = .ok c) :
    ∃ front rest, c.Spells front ∧ s = front ++ rest := by
  unfold parse at h
  split at h
  · rename_i first infoLength s'
    split at h
    · cases h
    · rename_i code hcode
      split at h
      · cases h
      · rename_i hinfo
        obtain ⟨info, hi, h⟩ := exists_of_bind_eq_ok h
        obtain ⟨t, ht, h⟩ := exists_of_bind_eq_ok h
        cases h
        obtain ⟨hgroup, length, codes, rest, hs, hlength, hcodes⟩ := Telegram.eq_append_of_read ht
        refine ⟨_, rest, ⟨hgroup, length, codes, rfl, hlength, hcodes⟩, ?_⟩
        have hfirst : code.octet = first := MessageCode.octet_of_ofOctet? hcode
        have hkept := Octets.toList_of_ofList hi
        have hinfoLength : UInt8.ofNat (s'.take infoLength.toNat).length = infoLength := by
          rw [List.length_take, Nat.min_eq_left (Nat.le_of_not_lt hinfo), UInt8.ofNat_toNat]
        simp only [opening, hfirst, hkept, hinfoLength, List.cons_append, List.append_assoc,
          List.nil_append, ← hs, List.take_append_drop]
  · cases h

/-- **A message is read from the strings that begin with octets that spell it.** -/
theorem parse_eq_ok_iff {s : List UInt8} {c : Cemi} :
    parse s = .ok c ↔ ∃ front rest, c.Spells front ∧ s = front ++ rest := by
  refine ⟨exists_spells_of_parse, ?_⟩
  rintro ⟨front, rest, hfront, rfl⟩
  exact hfront.parse_append rest

/-! ### The form of a message -/

/-- **The number of octets of the message** at the front of a string, as its two lengths say. -/
def extent? (s : List UInt8) : Option Nat := do
  let info ← s[1]?
  let length ← s[8 + info.toNat]?
  pure (10 + info.toNat + length.toNat)

/-- Whether a string begins with the code of a message. -/
def HasCode (s : List UInt8) : Prop :=
  s[0]? = some 0x11 ∨ s[0]? = some 0x29 ∨ s[0]? = some 0x2E

/-- **Whether a string begins with a message**: it has the code of one, both lengths are such
that they can be kept, and it has as many octets as they say. -/
def Begins (s : List UInt8) : Prop :=
  HasCode s ∧ ∃ info length : UInt8, s[1]? = some info ∧ info.toNat ≤ 16 ∧
    s[8 + info.toNat]? = some length ∧ length.toNat ≤ 33 ∧
    10 + info.toNat + length.toNat ≤ s.length

/-- Whether a string begins with the code of something else, and a length behind it. -/
def IsForeign (s : List UInt8) : Prop := 2 ≤ s.length ∧ ¬ HasCode s

theorem hasCode_cons {first : UInt8} {s : List UInt8} :
    HasCode (first :: s) ↔ ∃ code, MessageCode.ofOctet? first = some code := by
  constructor
  · rintro (h | h | h) <;> obtain rfl := Option.some.inj h
    · exact ⟨.request, rfl⟩
    · exact ⟨.indication, rfl⟩
    · exact ⟨.confirmation, rfl⟩
  · rintro ⟨code, hcode⟩
    obtain rfl := MessageCode.octet_of_ofOctet? hcode
    cases code <;> simp [HasCode, MessageCode.octet]

/-- What stands behind the additional information moves with its length. -/
theorem begins_cons {first infoLength : UInt8} {s : List UInt8} :
    Begins (first :: infoLength :: s) ↔ HasCode (first :: infoLength :: s) ∧
      infoLength.toNat ≤ 16 ∧ Telegram.Begins (s.drop infoLength.toNat) := by
  have hplace : (first :: infoLength :: s)[8 + infoLength.toNat]? =
      (s.drop infoLength.toNat)[6]? := by
    rw [List.getElem?_drop, show 8 + infoLength.toNat = infoLength.toNat + 6 + 1 + 1 by omega,
      List.getElem?_cons_succ, List.getElem?_cons_succ]
  refine and_congr_right fun _ => ⟨?_, ?_⟩
  · rintro ⟨info, length, hinfo, hmax, hlength, hle, hn⟩
    obtain rfl := Option.some.inj hinfo
    refine ⟨hmax, length, hplace ▸ hlength, hle, ?_⟩
    simp only [List.length_cons, List.length_drop] at hn ⊢
    omega
  · rintro ⟨hmax, length, hlength, hle, hn⟩
    refine ⟨infoLength, length, rfl, hmax, hplace ▸ hlength, hle, ?_⟩
    simp only [List.length_cons, List.length_drop] at hn ⊢
    omega

/-- **What reading a message gives**, and of which strings. -/
theorem parse_cases (s : List UInt8) :
    (IsForeign s ∧ parse s = .error (.decode .unsupportedMessageCode)) ∨
      (¬ IsForeign s ∧ ReadsIf (.decode .invalidCemi) (Begins s) (parse s)) := by
  obtain _ | ⟨first, _ | ⟨infoLength, s⟩⟩ := s
  iterate 2 · exact .inr ⟨by simp [IsForeign], .of_error (by simp [Begins])⟩
  cases hcode : MessageCode.ofOctet? first with
  | none =>
    have hnone : ¬ HasCode (first :: infoLength :: s) := by simp [hasCode_cons, hcode]
    exact .inl ⟨⟨by simp, hnone⟩, by simp only [parse, hcode]⟩
  | some code =>
    have hsome : HasCode (first :: infoLength :: s) := hasCode_cons.mpr ⟨code, hcode⟩
    refine .inr ⟨fun h => h.2 hsome, ReadsIf.congr ?_ (by rw [begins_cons, and_iff_right hsome])⟩
    simp only [parse, hcode]
    split
    · rename_i hshort
      refine .of_error fun ⟨_, length, _, _, hlen⟩ => ?_
      rw [List.length_drop] at hlen
      omega
    · rename_i hinfo
      have hkept : (s.take infoLength.toNat).length = infoLength.toNat := by
        rw [List.length_take]
        omega
      refine ReadsIf.bind ((Octets.readsIf_ofList _ _).congr (by rw [hkept]; rfl)) fun info _ => ?_
      exact (Telegram.readsIf_read _).map _

/-- The octet that counts the codes is the last in front of them. -/
theorem getElem?_opening (c : Cemi) (length : UInt8) :
    (c.opening length)[8 + c.info.toList.length]? = some length := by
  have hopening : c.opening length = (c.code.octet :: UInt8.ofNat c.info.toList.length ::
      (c.info.toList ++ c.telegram.head)) ++ [length] := by
    simp only [opening, List.cons_append, List.append_assoc]
  have hplace : 8 + c.info.toList.length = (c.code.octet :: UInt8.ofNat c.info.toList.length ::
      (c.info.toList ++ c.telegram.head)).length := by
    simp only [Telegram.head, List.length_cons, List.length_append, length_wordOctets]
    omega
  rw [hopening, hplace, List.getElem?_concat_length]

theorem length_opening (c : Cemi) (length : UInt8) :
    (c.opening length).length = 9 + c.info.toList.length := by
  simp only [opening, Telegram.head, List.length_cons, List.length_append, length_wordOctets,
    List.length_nil]
  omega

theorem extent?_eq_some_iff {s : List UInt8} {n : Nat} :
    extent? s = some n ↔ ∃ info length : UInt8, s[1]? = some info ∧
      s[8 + info.toNat]? = some length ∧ 10 + info.toNat + length.toNat = n := by
  simp [extent?, Option.bind_eq_some_iff]

theorem extent?_append {s : List UInt8} {n : Nat} (h : extent? s = some n) (rest : List UInt8) :
    extent? (s ++ rest) = some n := by
  have hleft {place : Nat} {octet : UInt8} (ho : s[place]? = some octet) :
      (s ++ rest)[place]? = some octet := by
    rw [List.getElem?_append_left (List.getElem?_eq_some_iff.mp ho).1, ho]
  obtain ⟨info, length, hinfo, hlength, hn⟩ := extent?_eq_some_iff.mp h
  exact extent?_eq_some_iff.mpr ⟨info, length, hleft hinfo, hleft hlength, hn⟩

theorem Spells.extent?_eq {c : Cemi} {s : List UInt8} (h : c.Spells s) :
    extent? s = some s.length := by
  obtain ⟨-, length, codes, rfl, hlength, -⟩ := h
  have hopening : extent? (c.opening length) = some (10 + c.info.toList.length + length.toNat) := by
    refine extent?_eq_some_iff.mpr ⟨UInt8.ofNat c.info.toList.length, length, rfl, ?_, ?_⟩
    · rw [toNat_length_info, getElem?_opening]
    · rw [toNat_length_info]
  rw [extent?_append hopening, List.length_append, length_opening, hlength]
  congr 1
  omega

theorem Begins.exists_extent? {s : List UInt8} (h : Begins s) :
    ∃ n, extent? s = some n ∧ n ≤ s.length := by
  obtain ⟨-, info, length, hinfo, -, hlength, -, hn⟩ := h
  exact ⟨_, extent?_eq_some_iff.mpr ⟨info, length, hinfo, hlength, rfl⟩, hn⟩

/-- Less than the octets of a message is not a message. -/
theorem not_begins_take {s : List UInt8} {n k : Nat} (h : extent? s = some n) (hk : k < n) :
    ¬ Begins (s.take k) := by
  intro hbegins
  obtain ⟨m, hm, hle⟩ := hbegins.exists_extent?
  have hmn := extent?_append hm (s.drop k)
  rw [List.take_append_drop, h] at hmn
  obtain rfl := Option.some.inj hmn
  rw [List.length_take] at hle
  omega

theorem IsForeign.not_begins {s : List UInt8} (h : IsForeign s) : ¬ Begins s := fun hb => h.2 hb.1

theorem exists_fault_of_not_begins {s : List UInt8} (h : ¬ Begins s) :
    ∃ fault, parse s = .error fault := by
  obtain ⟨-, hparse⟩ | ⟨-, hreads⟩ := parse_cases s
  · exact ⟨_, hparse⟩
  · exact ⟨_, hreads.refuses h⟩

/-- **A message is read from its own octets**, whatever follows them, and not from fewer. -/
theorem exists_extent?_of_parse {s : List UInt8} {c : Cemi} (h : parse s = .ok c) :
    ∃ n, extent? s = some n ∧ n ≤ s.length ∧ (∀ rest, parse (s.take n ++ rest) = .ok c) ∧
      ∀ k < n, ∃ fault, parse (s.take k) = .error fault := by
  obtain ⟨front, rest, hfront, rfl⟩ := parse_eq_ok_iff.mp h
  have hextent := extent?_append hfront.extent?_eq rest
  refine ⟨front.length, hextent, by simp, fun rest' => ?_, fun k hk => ?_⟩
  · rw [List.take_left]
    exact hfront.parse_append rest'
  · exact exists_fault_of_not_begins (not_begins_take hextent hk)

/-- **Which strings begin with a message, and which fault the others have.** Every string that
begins with the code of something else is refused as such, and every other that does not begin
with a message as invalid. A message takes as many octets as its two lengths say: from these it
is read whatever follows them, and from fewer of them nothing is. -/
theorem parse_outcome_iff (s : List UInt8) :
    ((∃ c, parse s = .ok c) ↔ Begins s) ∧
    (parse s = .error (.decode .unsupportedMessageCode) ↔ IsForeign s) ∧
    (parse s = .error (.decode .invalidCemi) ↔ ¬ Begins s ∧ ¬ IsForeign s) ∧
    ∀ c, parse s = .ok c ↔ ∃ n, extent? s = some n ∧ n ≤ s.length ∧
      (∀ rest, parse (s.take n ++ rest) = .ok c) ∧
      ∀ k < n, ∃ fault, parse (s.take k) = .error fault := by
  have hexact (c : Cemi) : parse s = .ok c ↔ ∃ n, extent? s = some n ∧ n ≤ s.length ∧
      (∀ rest, parse (s.take n ++ rest) = .ok c) ∧
      ∀ k < n, ∃ fault, parse (s.take k) = .error fault := by
    refine ⟨exists_extent?_of_parse, fun ⟨n, _, _, hrest, _⟩ => ?_⟩
    rw [← hrest (s.drop n), List.take_append_drop]
  obtain ⟨hforeign, hparse⟩ | ⟨hforeign, hreads⟩ := parse_cases s
  · refine ⟨?_, ?_, ?_, hexact⟩
    all_goals simp [hparse, hforeign, hforeign.not_begins]
  · refine ⟨hreads.ok_iff, ?_, ?_, hexact⟩
    · by_cases hbegins : Begins s
      · obtain ⟨c, hc⟩ := hreads.accepts hbegins
        simp [hc, hforeign]
      · simp [hreads.refuses hbegins, hforeign]
    · rw [hreads.error_iff, and_iff_left hforeign]

end Cemi

end KnxIp
