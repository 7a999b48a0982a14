import KnxIp.Proofs.Cemi.Format

/-!
# Messages are read as they were written

A message is written into a fresh buffer without fail, and read from its octets again. The
message that is read is not always the one that was written, because a telegram says some
things twice, and gives two things the same octets:

* whether the destination is a group is said by the address and by the second control
  field, and writing follows the address;
* the codes are cut off to their bits, and the transport control leaves its low two bits to
  a service;
* short data shares its octet with the low six bits of the service, and a service without
  data is written like one with short data zero.

`KnxIp.Telegram.reread` says what reading makes of a telegram, and the parts of
`KnxIp.Telegram.IsFaithful` say when each of its fields is as it was. The two codes are
taken first, then the codes together with the data (`KnxIp.Telegram.rereadCodes`), which
share their octets, then the telegram and the message around them.

## Main statements

* `KnxIp.Cemi.spells_wire`: what is read from the octets of a message.
* `KnxIp.Cemi.isReadBack_iff_isFaithful`: a message is read as it was written if and only
  if its telegram is faithful, which the requests to a group are if they have the data that
  they should.
-/

namespace KnxIp

theorem Octets.eq_empty_of_toList {capacity : Nat} {s : Octets capacity} (h : s.toList = []) :
    s = .empty := by
  obtain ⟨octets, hle⟩ := s
  obtain rfl : octets = [] := h
  rfl

/-- The low part of an octet is all of it if the octet fits. -/
theorem ofNat_mod_eq_self_iff (octet : UInt8) {n : Nat} (h : 0 < n) (hn : n ≤ 256) :
    UInt8.ofNat (octet.toNat % n) = octet ↔ octet.toNat < n := by
  have hlt : octet.toNat % n < 2 ^ 8 := by
    have := Nat.mod_lt octet.toNat h
    omega
  rw [← UInt8.toNat_inj, UInt8.toNat_ofNat', Nat.mod_eq_of_lt hlt]
  exact Nat.mod_eq_iff_lt (by omega)

/-! ### The transport control -/

namespace Tpci

/-- Whether the parts of a control fit into their bits: four for the sequence, two for the
code. -/
def Fits : Tpci → Prop
  | .unnumberedData => True
  | .numberedData sequence => sequence.toNat < 16
  | .unnumberedControl code => code.toNat < 4
  | .numberedControl sequence code => sequence.toNat < 16 ∧ code.toNat < 4

/-- The control without the two bits that it leaves to a service. -/
def lifted : Tpci → Tpci
  | .unnumberedControl _ => .unnumberedControl 0
  | .numberedControl sequence _ => .numberedControl sequence 0
  | t => t

/-- Whether the control leaves its low two bits to a service: data always does, and control
does if its code is zero. -/
def IsLifted : Tpci → Prop
  | .unnumberedControl code => code = 0
  | .numberedControl _ code => code = 0
  | _ => True

theorem ofOctet_octet (t : Tpci) :
    ofOctet t.octet =
      match t with
      | .unnumberedData => .unnumberedData
      | .numberedData sequence => .numberedData (UInt8.ofNat (sequence.toNat % 16))
      | .unnumberedControl code => .unnumberedControl (UInt8.ofNat (code.toNat % 4))
      | .numberedControl sequence code =>
        .numberedControl (UInt8.ofNat (sequence.toNat % 16)) (UInt8.ofNat (code.toNat % 4)) := by
  cases t with
  | unnumberedData => rfl
  | numberedData sequence =>
    have hlt : 64 + sequence.toNat % 16 * 4 < 256 := by omega
    have hkind : (64 + sequence.toNat % 16 * 4) / 64 = 1 := by omega
    have hsequence : (64 + sequence.toNat % 16 * 4) / 4 % 16 = sequence.toNat % 16 := by omega
    simp [octet, ofOctet, Nat.mod_eq_of_lt hlt, hkind, hsequence]
  | unnumberedControl code =>
    have hlt : 128 + code.toNat % 4 < 256 := by omega
    have hkind : (128 + code.toNat % 4) / 64 = 2 := by omega
    have hcode : (128 + code.toNat % 4) % 4 = code.toNat % 4 := by omega
    simp [octet, ofOctet, Nat.mod_eq_of_lt hlt, hkind, hcode]
  | numberedControl sequence code =>
    have hlt : 192 + sequence.toNat % 16 * 4 + code.toNat % 4 < 256 := by omega
    have hkind : (192 + sequence.toNat % 16 * 4 + code.toNat % 4) / 64 = 3 := by omega
    have hsequence : (192 + sequence.toNat % 16 * 4 + code.toNat % 4) / 4 % 16 =
        sequence.toNat % 16 := by omega
    have hcode : (192 + sequence.toNat % 16 * 4 + code.toNat % 4) % 4 = code.toNat % 4 := by omega
    simp [octet, ofOctet, Nat.mod_eq_of_lt hlt, hkind, hsequence, hcode]

theorem ofOctet_octet_eq_iff (t : Tpci) : ofOctet t.octet = t ↔ t.Fits := by
  rw [ofOctet_octet]
  cases t <;> simp [Fits, ofNat_mod_eq_self_iff]

theorem octet_lifted (t : Tpci) : t.lifted.octet = UInt8.ofNat (t.octet.toNat / 4 * 4) := by
  apply UInt8.toNat_inj.mp
  cases t <;> simp [lifted, octet] <;> omega

theorem ofOctet_octet_lifted_eq_iff (t : Tpci) :
    ofOctet t.lifted.octet = t ↔ t.Fits ∧ t.IsLifted := by
  rw [ofOctet_octet]
  cases t <;> simp [lifted, Fits, IsLifted, ← UInt8.toNat_inj] <;> omega

end Tpci

/-! ### The application control -/

namespace Apci

/-- Whether a service that is given by its code is none of those that have a name, and its
code fits into its ten bits. -/
def Fits : Apci → Prop
  | .other code => code.toNat < 1024 ∧ code ≠ 0x000 ∧ code ≠ 0x040 ∧ code ≠ 0x080
  | _ => True

theorem code_lt (a : Apci) : a.code < 1024 := by
  cases a <;> simp [code]
  omega

theorem code_ofCode (n : Nat) : (ofCode n).code = n % 1024 := by
  unfold ofCode
  split
  all_goals simp_all [code]

theorem ofCode_code_eq_iff (a : Apci) : ofCode a.code = a ↔ a.Fits := by
  cases a with
  | groupValueRead | groupValueResponse | groupValueWrite => simp [code, ofCode, Fits]
  | other code =>
    have hmod : code.toNat % 1024 % 1024 = code.toNat % 1024 := by omega
    have hlt := code.toNat_lt
    simp only [Fits, Apci.code, ofCode, hmod, ← UInt16.toNat_inj, ne_eq]
    split
    · simp; omega
    · simp; omega
    · simp; omega
    · rename_i h0 h64 h128
      have h : code.toNat % 1024 ≠ 0 ∧ code.toNat % 1024 ≠ 64 ∧ code.toNat % 1024 ≠ 128 :=
        ⟨h0, h64, h128⟩
      simp [← UInt16.toNat_inj]
      omega

/-- The high four bits of a code are all of the service if the low six are zero. -/
theorem ofCode_high_eq_iff (a : Apci) :
    ofCode (a.code / 64 * 64) = a ↔ a.Fits ∧ a.code % 64 = 0 := by
  rw [← ofCode_code_eq_iff]
  have hlt := a.code_lt
  constructor
  · intro h
    have hcode : a.code / 64 * 64 = a.code := by
      have := congrArg code h
      rw [code_ofCode] at this
      omega
    exact ⟨hcode ▸ h, by omega⟩
  · rintro ⟨h, hlow⟩
    rwa [show a.code / 64 * 64 = a.code by omega]

end Apci

/-! ### The codes with the data -/

namespace Apdu

/-- The six bits that the data puts into the octet of the service. -/
def bits : Apdu → Nat
  | .short value => value.toNat
  | .octets _ => 0

theorem bits_lt (a : Apdu) : a.bits < 64 := by
  cases a with
  | short value => exact value.isLt
  | octets data => simp [bits]

/-- Only data that is a string has octets behind the codes. -/
theorem exists_octets_of_trailing {a : Apdu} (h : a.trailing ≠ []) :
    ∃ data, a = .octets data ∧ data.toList = a.trailing := by
  cases a with
  | short value => exact absurd rfl h
  | octets data => exact ⟨data, rfl, rfl⟩

/-- Whether the data can be told from the octets that it shares with the service. Data
behind the codes can; short data can if the service leaves it its six bits, and is not read
as no data; and only of a read that has no data it is read that it has none. -/
def IsTold : Option Apci → Apdu → Prop
  | none, data => data = .empty
  | some apci, .short value => apci.code % 64 = 0 ∧ ¬ (apci = .groupValueRead ∧ value = 0)
  | some apci, .octets data => data.toList ≠ [] ∨ apci = .groupValueRead

end Apdu

namespace Telegram

/-- **What reading makes of the codes and the data.** If nothing follows the codes, the low
six bits are data, those of the service among them. -/
def rereadCodes (t : Telegram) : Tpci × Option Apci × Apdu :=
  match t.apci with
  | none => (.ofOctet t.tpci.octet, none, .empty)
  | some apci =>
    (.ofOctet t.tpci.lifted.octet,
      if t.data.trailing = [] then
        let high := Apci.ofCode (apci.code / 64 * 64)
        let low := apci.code % 64 ||| t.data.bits
        (some high, if high = .groupValueRead ∧ low = 0 then .empty
          else .short (BitVec.ofNat 6 low))
      else (some (.ofCode apci.code), t.data))

theorem toNat_secondOctet (apci : Apci) (data : Apdu) :
    (secondOctet apci data).toNat = apci.code % 256 ||| data.bits := by
  have hlt : apci.code % 256 ||| data.bits < 2 ^ 8 :=
    Nat.or_lt_two_pow (by omega) (by have := data.bits_lt; omega)
  cases data with
  | short value =>
    rw [secondOctet, UInt8.toNat_ofNat']
    exact Nat.mod_eq_of_lt hlt
  | octets data => simp [secondOctet, Apdu.bits]

/-- The octet of the service keeps the two bits of the service above the data. -/
theorem toNat_secondOctet_div (apci : Apci) (data : Apdu) :
    (secondOctet apci data).toNat / 64 = apci.code % 256 / 64 := by
  have hor : (apci.code % 256 ||| data.bits) / 64 = apci.code % 256 / 64 ||| data.bits / 64 :=
    @Nat.or_div_two_pow _ _ 6
  rw [toNat_secondOctet, hor, Nat.div_eq_of_lt data.bits_lt, Nat.or_zero]

theorem toNat_secondOctet_mod (apci : Apci) (data : Apdu) :
    (secondOctet apci data).toNat % 64 = apci.code % 64 ||| data.bits := by
  have hor : (apci.code % 256 ||| data.bits) % 64 = apci.code % 256 % 64 ||| data.bits % 64 :=
    @Nat.or_mod_two_pow _ _ 6
  have hcode : apci.code % 256 % 64 = apci.code % 64 := by omega
  rw [toNat_secondOctet, hor, hcode, Nat.mod_eq_of_lt data.bits_lt]

/-- The octet above a service: the transport control above its two topmost bits. -/
theorem toNat_firstOctet {t : Telegram} {apci : Apci} (h : t.apci = some apci) :
    t.firstOctet.toNat = t.tpci.octet.toNat / 4 * 4 + apci.code / 256 := by
  have hoctet := t.tpci.octet.toNat_lt
  have hcode := apci.code_lt
  simp only [firstOctet, h, UInt8.toNat_ofNat']
  omega

theorem readCodes?_payload (t : Telegram) : readCodes? t.payload = some t.rereadCodes := by
  cases h : t.apci with
  | none => simp [payload, rereadCodes, h, firstOctet, readCodes?]
  | some apci =>
    have hcode := apci.code_lt
    have htpci : UInt8.ofNat (t.firstOctet.toNat / 4 * 4) = t.tpci.lifted.octet := by
      rw [Tpci.octet_lifted, toNat_firstOctet h]
      congr 1
      omega
    have hhigh : t.firstOctet.toNat % 4 = apci.code / 256 := by
      rw [toNat_firstOctet h]
      omega
    cases hrest : t.data.trailing with
    | nil =>
      -- nothing follows the codes: the low six bits of the service are read as data
      have hread : t.firstOctet.toNat % 4 * 256 + (secondOctet apci t.data).toNat / 64 * 64 =
          apci.code / 64 * 64 := by
        rw [hhigh, toNat_secondOctet_div]
        omega
      have hlow : Apdu.ofLowBits (secondOctet apci t.data) =
          .short (BitVec.ofNat 6 (apci.code % 64 ||| t.data.bits)) := by
        rw [Apdu.ofLowBits, ← toNat_secondOctet_mod]
        congr 1
        apply BitVec.eq_of_toNat_eq
        simp
      simp only [payload, rereadCodes, h, hrest, readCodes?, htpci, hread, hlow,
        toNat_secondOctet_mod, if_pos]
    | cons octet rest =>
      obtain ⟨data, hdata, hlist⟩ := Apdu.exists_octets_of_trailing (a := t.data) (by simp [hrest])
      have hread : t.firstOctet.toNat % 4 * 256 + (secondOctet apci t.data).toNat = apci.code := by
        rw [hhigh, toNat_secondOctet, hdata, Apdu.bits, Nat.or_zero]
        omega
      have hkept : Octets.ofList? (octet :: rest) = some data := by
        rw [← hrest, ← hlist, Octets.ofList?_toList]
      simp only [payload, rereadCodes, h, hrest, readCodes?, htpci, hread, hkept, Option.map_some,
        reduceCtorEq, if_false]
      rw [hdata]

/-- Data that does not follow the codes is read as it was written, together with the service,
if and only if the service fits and the data can be told. -/
theorem rereadCodes_snd_eq_iff {t : Telegram} {apci : Apci} (h : t.apci = some apci) :
    t.rereadCodes.2 = (some apci, t.data) ↔ apci.Fits ∧ t.data.IsTold (some apci) := by
  simp only [rereadCodes, h]
  by_cases hrest : t.data.trailing = []
  · by_cases hfits : apci.Fits ∧ apci.code % 64 = 0
    · -- the low bits are those of the data alone
      rw [if_pos hrest, (Apci.ofCode_high_eq_iff apci).mpr hfits, hfits.2, Nat.zero_or]
      cases hd : t.data with
      | short value =>
        have hvalue : value.toNat = 0 ↔ value = 0 := by simp [← BitVec.toNat_inj]
        by_cases hempty : apci = .groupValueRead ∧ value = 0
        · refine iff_of_false ?_ fun htold => htold.2.2 hempty
          simp [Apdu.bits, hempty, Apdu.empty]
        · refine iff_of_true ?_ ⟨hfits.1, hfits.2, hempty⟩
          rw [Apdu.bits, if_neg (by rwa [hvalue]), BitVec.ofNat_toNat, BitVec.setWidth_eq]
      | octets data =>
        rw [hd] at hrest
        have hnil : data = .empty := Octets.eq_empty_of_toList hrest
        by_cases hread : apci = .groupValueRead
        · refine iff_of_true ?_ ⟨hfits.1, .inr hread⟩
          rw [hnil, if_pos ⟨hread, rfl⟩]
          rfl
        · refine iff_of_false (by simp [hread]) ?_
          rintro ⟨-, hne | hread'⟩
          · exact hne hrest
          · exact hread hread'
    · rw [if_pos hrest]
      have hhigh : Apci.ofCode (apci.code / 64 * 64) ≠ apci := by
        rwa [Ne, Apci.ofCode_high_eq_iff]
      refine iff_of_false (fun hread => hhigh (Option.some.inj (congrArg Prod.fst hread))) ?_
      rintro ⟨happ, htold⟩
      refine hfits ⟨happ, ?_⟩
      cases hd : t.data with
      | short value =>
        rw [hd] at htold
        exact htold.1
      | octets data =>
        rw [hd] at htold hrest
        obtain hne | rfl := htold
        · exact absurd hrest hne
        · rfl
  · rw [if_neg hrest, Prod.ext_iff]
    obtain ⟨data, hd, hlist⟩ := Apdu.exists_octets_of_trailing hrest
    have hne : data.toList ≠ [] := hlist ▸ hrest
    simp [Apci.ofCode_code_eq_iff, hd, Apdu.IsTold, hne]

/-- The codes and the data are read as they were written if and only if the codes fit, the
transport control leaves its low bits to a service, and the data can be told. -/
theorem rereadCodes_eq_iff (t : Telegram) :
    t.rereadCodes = (t.tpci, t.apci, t.data) ↔
      t.tpci.Fits ∧ (t.apci.isSome → t.tpci.IsLifted) ∧ (∀ apci ∈ t.apci, apci.Fits) ∧
        t.data.IsTold t.apci := by
  cases h : t.apci with
  | none =>
    simp [rereadCodes, h, Tpci.ofOctet_octet_eq_iff, Apdu.IsTold, @eq_comm _ Apdu.empty]
  | some apci =>
    have htpci : t.rereadCodes.1 = .ofOctet t.tpci.lifted.octet := by simp [rereadCodes, h]
    rw [Prod.ext_iff, htpci, Tpci.ofOctet_octet_lifted_eq_iff, rereadCodes_snd_eq_iff h]
    simp [and_assoc]

/-! ### The telegram -/

/-- **What reading makes of a telegram.** -/
def reread (t : Telegram) : Telegram :=
  { t with
    control2 := t.control2.withGroup t.isForGroup
    tpci := t.rereadCodes.1
    apci := t.rereadCodes.2.1
    data := t.rereadCodes.2.2 }

/-- **Whether a telegram is read as it was written**: the control field says of the
destination what its address is, the codes fit into their bits, and codes and data that
share an octet can be told from each other. -/
structure IsFaithful (t : Telegram) : Prop where
  group : t.control2.isGroup = t.isForGroup
  transport : t.tpci.Fits
  lifted : t.apci.isSome → t.tpci.IsLifted
  service : ∀ apci ∈ t.apci, apci.Fits
  data : t.data.IsTold t.apci

theorem reread_eq_iff (t : Telegram) : t.reread = t ↔ t.IsFaithful := by
  have hgroup : t.control2.withGroup t.isForGroup = t.control2 ↔
      t.control2.isGroup = t.isForGroup := by
    constructor
    · intro h
      rw [← h, Control2.isGroup_withGroup]
    · intro h
      rw [← h, Control2.withGroup_isGroup]
  have hparts : t.reread = t ↔
      t.control2.withGroup t.isForGroup = t.control2 ∧
        t.rereadCodes = (t.tpci, t.apci, t.data) := by
    rw [Prod.ext_iff, Prod.ext_iff]
    constructor
    · intro h
      exact ⟨congrArg control2 h, congrArg tpci h, congrArg apci h, congrArg data h⟩
    · rintro ⟨hcontrol, htpci, hapci, hdata⟩
      rw [reread, hcontrol, htpci, hapci, hdata]
  rw [hparts, hgroup, rereadCodes_eq_iff]
  constructor
  · rintro ⟨group, transport, lifted, service, data⟩
    exact ⟨group, transport, lifted, service, data⟩
  · rintro ⟨group, transport, lifted, service, data⟩
    exact ⟨group, transport, lifted, service, data⟩

theorem length_payload_le (t : Telegram) : t.payload.length ≤ 34 := by
  have h : t.data.trailing.length ≤ 32 := t.data.length_trailing_le
  unfold payload
  split <;> simp
  omega

theorem payload_ne_nil (t : Telegram) : t.payload ≠ [] := by
  unfold payload
  split <;> simp

theorem toNat_lengthOctet (t : Telegram) : t.lengthOctet.toNat + 1 = t.payload.length := by
  have hle := t.length_payload_le
  have hpos := List.length_pos_iff.mpr t.payload_ne_nil
  simp only [lengthOctet, UInt8.toNat_ofNat']
  omega

theorem isGroup_reread (t : Telegram) : t.reread.control2.isGroup = t.reread.isForGroup :=
  Control2.isGroup_withGroup _ _

/-- Writing sets the bit of the destination, so it is written the same again. -/
theorem head_reread (t : Telegram) : t.reread.head = t.head := by
  have hcontrol : t.reread.control2.withGroup t.reread.isForGroup =
      t.control2.withGroup t.isForGroup := by
    rw [← isGroup_reread, Control2.withGroup_isGroup]
    rfl
  rw [head, hcontrol]
  rfl

end Telegram

/-! ### The message -/

namespace Cemi

/-- **What is read from the octets of a message**: the message with what reading makes of its
telegram. -/
theorem spells_wire (c : Cemi) : Spells { c with telegram := c.telegram.reread } c.wire := by
  refine ⟨c.telegram.isGroup_reread, c.telegram.lengthOctet, c.telegram.payload, ?_,
    c.telegram.toNat_lengthOctet.symm, c.telegram.readCodes?_payload⟩
  simp only [wire, Telegram.wire, opening, Telegram.head_reread, List.cons_append,
    List.append_assoc, List.nil_append]

theorem parse_wire_append (c : Cemi) (rest : List UInt8) :
    parse (c.wire ++ rest) = .ok { c with telegram := c.telegram.reread } :=
  c.spells_wire.parse_append rest

theorem parse_wire_eq_ok_iff (c : Cemi) : parse c.wire = .ok c ↔ c.telegram.IsFaithful := by
  have hparse := c.parse_wire_append []
  rw [List.append_nil] at hparse
  rw [hparse, ← Telegram.reread_eq_iff]
  constructor
  · intro h
    exact congrArg telegram (Except.ok.inj h)
  · intro h
    rw [h]

/-- **Whether a message can be written and is read back as it was.** -/
def IsReadBack (c : Cemi) : Prop := ∃ octets, c.toBytes = .ok octets ∧ parse octets = .ok c

theorem isReadBack_iff (c : Cemi) : c.IsReadBack ↔ c.telegram.IsFaithful := by
  rw [← parse_wire_eq_ok_iff, IsReadBack, toBytes_eq]
  constructor
  · rintro ⟨octets, hoctets, hparse⟩
    rwa [Except.ok.inj hoctets]
  · intro h
    exact ⟨c.wire, rfl, h⟩

/-- A request to a group is faithful unless its data is what looks like other data with its
service: short data zero of a read, no data of a value. -/
theorem isFaithful_groupRequest_iff (source : IndividualAddress) (group : GroupAddress)
    (service : GroupService) (data : Apdu) :
    (groupRequest source group service data).telegram.IsFaithful ↔
      if service = .read then data ≠ .short 0 else data.isEmpty = false := by
  have hdata : (groupRequest source group service data).telegram.IsFaithful ↔
      data.IsTold (some (.ofGroupService service)) := by
    have hgroup : Control2.default.isGroup = true := by decide
    refine ⟨fun h => h.data, fun h => ⟨hgroup, trivial, fun _ => trivial, ?_, h⟩⟩
    intro apci hapci
    obtain rfl : Apci.ofGroupService service = apci := Option.some.inj hapci
    cases service <;> trivial
  rw [hdata]
  cases data with
  | short value =>
    cases service <;>
      simp [Apdu.IsTold, Apci.ofGroupService, Apci.code, Apdu.isEmpty, Apdu.toList]
  | octets data =>
    cases service <;>
      simp [Apdu.IsTold, Apci.ofGroupService, Apdu.isEmpty, Apdu.toList]

/-- **Messages are read as they were written.** Every message can be written; it is read
back as it was if and only if its telegram is faithful. Every request to read a group is,
and a value for a group or an answer with one is if and only if it has data. -/
theorem isReadBack_iff_isFaithful :
    (∀ c : Cemi, ∃ octets, c.toBytes = .ok octets ∧
      (parse octets = .ok c ↔ c.telegram.IsFaithful)) ∧
    (∀ source group, (groupRead source group).IsReadBack) ∧
    ∀ source group data,
      ((groupWrite source group data).IsReadBack ↔ data.isEmpty = false) ∧
      ((groupResponse source group data).IsReadBack ↔ data.isEmpty = false) := by
  refine ⟨fun c => ⟨c.wire, c.toBytes_eq, c.parse_wire_eq_ok_iff⟩, ?_, ?_⟩
  · intro source group
    rw [isReadBack_iff, groupRead, isFaithful_groupRequest_iff]
    exact nofun
  · intro source group data
    rw [isReadBack_iff, isReadBack_iff, groupWrite, groupResponse,
      isFaithful_groupRequest_iff, isFaithful_groupRequest_iff]
    exact ⟨Iff.rfl, Iff.rfl⟩

end Cemi

end KnxIp
