import KnxIp.Proofs.Cemi.RoundTrip

/-!
# Messages are written as they were read

A message that was read is written as the octets from which it was read, which are as many as
its two lengths say. Nothing in them is lost and nothing moves: short data goes back into the
octet of the service that it was taken from, and the octet of the transport control gets back
the two bits of the service. Only bits that have no meaning are not kept. They are all in the
first octet of the codes (`KnxIp.Telegram.idleBits`): a control that numbers nothing has no use
for the bits of the sequence, and data without a service has none for the two bits that it
leaves to one. They are written as zero.

What codes can look like from which a telegram is read is said once
(`KnxIp.Telegram.readCodes?_cases`). From this it is seen that the codes and the data come back
(`KnxIp.Telegram.payload_of_readCodes?`), and that the telegram is faithful, so the message is
read again.

## Main statements

* `KnxIp.Cemi.wire_of_spells`: how a message is written that some octets spell.
* `KnxIp.Cemi.toBytes_of_parse`: a message that was read is written with the octets it was read
  from, but for idle bits, and read from them again.
-/

namespace KnxIp

/-- What holds of the octets one by one holds of all of them. -/
theorem forall_octet {p : UInt8 → Prop} (h : ∀ n < 256, p (UInt8.ofNat n)) (octet : UInt8) :
    p octet := by
  have := h octet.toNat octet.toNat_lt
  rwa [UInt8.ofNat_toNat] at this

/-! ### The transport control -/

namespace Tpci

/-- The bits of an octet that are those of a sequence, where nothing is numbered. -/
def idleBits : Tpci → UInt8
  | .unnumberedData | .unnumberedControl _ => 0b00111100
  | .numberedData _ | .numberedControl _ _ => 0

/-- A control that has an octet of its own is written as this octet, but for the bits of a
sequence or a code that it does not have. -/
theorem octet_ofOctet (octet : UInt8) :
    (ofOctet octet).octet =
      octet &&& ~~~ ((ofOctet octet).idleBits ||| if (ofOctet octet).isData then 0b11 else 0) := by
  revert octet
  refine forall_octet ?_
  decide +kernel

/-- A control that shares its octet with a service is written as this octet together with the
two bits of the service. -/
theorem octet_ofOctet_lifted (octet : UInt8) :
    UInt8.ofNat ((ofOctet (UInt8.ofNat (octet.toNat / 4 * 4))).octet.toNat / 4 * 4 +
        octet.toNat % 4) =
      octet &&& ~~~ (ofOctet (UInt8.ofNat (octet.toNat / 4 * 4))).idleBits := by
  revert octet
  refine forall_octet ?_
  decide +kernel

/-- A control that is read fits into its bits. -/
theorem fits_ofOctet (octet : UInt8) : (ofOctet octet).Fits := by
  unfold ofOctet
  split <;> simp [Fits] <;> omega

theorem isLifted_ofOctet (octet : UInt8) :
    (ofOctet (UInt8.ofNat (octet.toNat / 4 * 4))).IsLifted := by
  unfold ofOctet
  split <;> simp [IsLifted]

end Tpci

/-! ### The application control -/

namespace Apci

/-- A service that is read fits into its bits. -/
theorem fits_ofCode (n : Nat) : (ofCode n).Fits := by
  rw [← ofCode_code_eq_iff, code_ofCode]
  simp only [ofCode, Nat.mod_mod]

end Apci

/-! ### The codes with the data -/

namespace Telegram

/-- **The bits of the first octet of the codes that a telegram has no use for**: those of the
sequence, where nothing is numbered, and those of the service, where there is data without
one. -/
def idleBits (t : Telegram) : UInt8 :=
  t.tpci.idleBits ||| if t.tpci.isData && t.apci.isNone then 0b00000011 else 0

/-- Six low bits that are read are the data, and can be told from the service, which has none
of its own. A read without data and one of short data zero have the same low bits. -/
theorem isTold_lowBits {second : UInt8} {apci : Apci} {data : Apdu} (hcode : apci.code % 64 = 0)
    (h : (if apci = .groupValueRead ∧ second.toNat % 64 = 0 then .empty
      else .ofLowBits second) = data) :
    data.bits = second.toNat % 64 ∧ data.trailing = [] ∧ data.IsTold (some apci) := by
  by_cases hempty : apci = .groupValueRead ∧ second.toNat % 64 = 0
  · rw [if_pos hempty] at h
    subst h
    exact ⟨hempty.2.symm, rfl, .inr hempty.1⟩
  · rw [if_neg hempty] at h
    subst h
    refine ⟨by simp [Apdu.ofLowBits, Apdu.bits], rfl, hcode, ?_⟩
    rintro ⟨hread, hzero⟩
    exact hempty ⟨hread, by simpa using congrArg BitVec.toNat hzero⟩

/-- **What codes look like from which a telegram is read.** They are the octet of the transport
control alone; or they are two octets, which the service shares with the transport control and
with short data, and the other data behind them. -/
theorem readCodes?_cases {t : Telegram} {codes : List UInt8}
    (h : readCodes? codes = some (t.tpci, t.apci, t.data)) :
    (∃ first, codes = [first] ∧ t.tpci = .ofOctet first ∧ t.apci = none ∧ t.data = .empty) ∨
    ∃ first apci, codes = first :: secondOctet apci t.data :: t.data.trailing ∧
      t.tpci = .ofOctet (UInt8.ofNat (first.toNat / 4 * 4)) ∧ t.apci = some apci ∧
      apci.code / 256 = first.toNat % 4 ∧ apci.Fits ∧ t.data.IsTold (some apci) := by
  obtain _ | ⟨first, _ | ⟨second, _ | ⟨octet, rest⟩⟩⟩ := codes
  · cases h
  · -- the transport control alone
    simp only [readCodes?, Option.some.injEq, Prod.mk.injEq] at h
    obtain ⟨htpci, hapci, hdata⟩ := h
    exact .inl ⟨first, rfl, htpci.symm, hapci.symm, hdata.symm⟩
  · -- a service and short data, or none
    simp only [readCodes?, Option.some.injEq, Prod.mk.injEq] at h
    obtain ⟨htpci, hapci, hdata⟩ := h
    have hlt := second.toNat_lt
    have hfits := Apci.fits_ofCode (first.toNat % 4 * 256 + second.toNat / 64 * 64)
    have hcode := Apci.code_ofCode (first.toNat % 4 * 256 + second.toNat / 64 * 64)
    generalize Apci.ofCode (first.toNat % 4 * 256 + second.toNat / 64 * 64) = apci at *
    have hlow : apci.code % 64 = 0 := by omega
    obtain ⟨hbits, htrailing, htold⟩ := isTold_lowBits hlow hdata
    have hsecond : secondOctet apci t.data = second := by
      apply UInt8.toNat_inj.mp
      have hdiv := toNat_secondOctet_div apci t.data
      have hmod := toNat_secondOctet_mod apci t.data
      rw [hlow, hbits, Nat.zero_or] at hmod
      omega
    refine .inr ⟨first, apci, ?_, htpci.symm, hapci.symm, by omega, hfits, htold⟩
    rw [hsecond, htrailing]
  · -- a service and data behind it
    simp only [readCodes?, Option.map_eq_some_iff, Prod.mk.injEq] at h
    obtain ⟨data, hkept, htpci, hapci, hdata⟩ := h
    have hlt := second.toNat_lt
    have hfits := Apci.fits_ofCode (first.toNat % 4 * 256 + second.toNat)
    have hcode := Apci.code_ofCode (first.toNat % 4 * 256 + second.toNat)
    generalize Apci.ofCode (first.toNat % 4 * 256 + second.toNat) = apci at *
    have htrailing : data.toList = octet :: rest := Octets.ofList?_eq_some_iff.mp hkept
    have hsecond : secondOctet apci (.octets data) = second := by
      apply UInt8.toNat_inj.mp
      rw [toNat_secondOctet, Apdu.bits, Nat.or_zero]
      omega
    rw [← hdata]
    refine .inr ⟨first, apci, ?_, htpci.symm, hapci.symm, by omega, hfits, .inl ?_⟩
    · rw [hsecond, Apdu.trailing, htrailing]
    · simp [htrailing]

/-- **The codes and the data are written as they were read**, but for the idle bits. -/
theorem payload_of_readCodes? {t : Telegram} {codes : List UInt8}
    (h : readCodes? codes = some (t.tpci, t.apci, t.data)) :
    t.payload = codes.modifyHead (· &&& ~~~ t.idleBits) := by
  obtain ⟨first, rfl, htpci, hapci, -⟩ | ⟨first, apci, rfl, htpci, hapci, hcode, -⟩ :=
    readCodes?_cases h
  · have hidle : t.idleBits = t.tpci.idleBits ||| if t.tpci.isData then 0b11 else 0 := by
      simp [idleBits, hapci]
    rw [List.modifyHead_cons, hidle, htpci, ← Tpci.octet_ofOctet]
    simp only [payload, firstOctet, hapci, htpci]
  · have hidle : t.idleBits = t.tpci.idleBits := by simp [idleBits, hapci]
    rw [List.modifyHead_cons, hidle, htpci, ← Tpci.octet_ofOctet_lifted]
    simp only [payload, firstOctet, hapci, htpci, hcode]

/-- **A telegram that is read is faithful.** -/
theorem isFaithful_of_readCodes? {t : Telegram} {codes : List UInt8}
    (hgroup : t.control2.isGroup = t.isForGroup)
    (h : readCodes? codes = some (t.tpci, t.apci, t.data)) : t.IsFaithful := by
  obtain ⟨first, -, htpci, hapci, hdata⟩ | ⟨first, apci, -, htpci, hapci, -, hfits, htold⟩ :=
    readCodes?_cases h
  · refine ⟨hgroup, htpci ▸ Tpci.fits_ofOctet first, ?_, ?_, ?_⟩ <;> rw [hapci]
    · intro hsome
      cases hsome
    · intro apci hmem
      cases hmem
    · exact hdata
  · refine ⟨hgroup, htpci ▸ Tpci.fits_ofOctet _, fun _ => htpci ▸ Tpci.isLifted_ofOctet first,
      ?_, hapci ▸ htold⟩
    intro apci' hmem
    obtain rfl := Option.some.inj (hapci.symm.trans hmem)
    exact hfits

end Telegram

/-! ### Messages -/

namespace Cemi

/-- **How a message is written that some octets spell**: as these octets, but for the idle
bits of the first octet of its codes. -/
theorem wire_of_spells {c : Cemi} {s : List UInt8} (h : c.Spells s) :
    c.wire = s.modify (9 + c.info.toList.length) (· &&& ~~~ c.telegram.idleBits) := by
  obtain ⟨-, length, codes, rfl, hlength, hcodes⟩ := h
  have hpayload := Telegram.payload_of_readCodes? hcodes
  have hlengthOctet : c.telegram.lengthOctet = length := by
    apply UInt8.toNat_inj.mp
    have htotal := c.telegram.toNat_lengthOctet
    rw [hpayload, List.length_modifyHead, hlength] at htotal
    exact Nat.succ_inj.mp htotal
  rw [← c.length_opening length, List.modify_eq_take_drop, List.take_left, List.drop_left,
    ← hpayload, wire, Telegram.wire, hlengthOctet]
  simp only [opening, List.cons_append, List.append_assoc, List.nil_append]

/-- **A message that was read is written as it was read.** It takes as many octets as its two
lengths say, and is written as these, with the idle bits of the first octet of its codes as
zero; from what is written it is read again. -/
theorem toBytes_of_parse {s : List UInt8} {c : Cemi} (h : parse s = .ok c) :
    ∃ n written, extent? s = some n ∧ n ≤ s.length ∧
      c.toBytes = .ok written ∧ written.length = n ∧
      written =
        (s.take n).modify (9 + c.info.toList.length) (· &&& ~~~ c.telegram.idleBits) ∧
      parse written = .ok c := by
  obtain ⟨front, rest, hfront, rfl⟩ := parse_eq_ok_iff.mp h
  have hwire := wire_of_spells hfront
  have hfaithful : c.telegram.IsFaithful := by
    obtain ⟨hgroup, length, codes, -, -, hcodes⟩ := hfront
    exact Telegram.isFaithful_of_readCodes? hgroup hcodes
  refine ⟨front.length, c.wire, extent?_append hfront.extent?_eq rest, by simp, c.toBytes_eq, ?_,
    ?_, c.parse_wire_eq_ok_iff.mpr hfaithful⟩
  · rw [hwire, List.length_modify]
  · rw [List.take_left, hwire]

/-- A telegram to switch something on with the bits of a sequence set though nothing is
numbered, with additional information and an octet behind it. -/
theorem toBytes_of_parse_switch :
    ∃ c,
      parse [0x29, 2, 0xAA, 0xBB, 0xBC, 0xE0, 0x11, 0x0A, 0x0A, 0x03, 1, 0x3C, 0x81, 0xFF] =
        .ok c ∧
      ∃ n written,
        extent? [0x29, 2, 0xAA, 0xBB, 0xBC, 0xE0, 0x11, 0x0A, 0x0A, 0x03, 1, 0x3C, 0x81, 0xFF] =
          some n ∧
        n ≤ 14 ∧ c.toBytes = .ok written ∧ written.length = n ∧
        written =
          ([0x29, 2, 0xAA, 0xBB, 0xBC, 0xE0, 0x11, 0x0A, 0x0A, 0x03, 1, 0x3C, 0x81,
              0xFF].take n).modify
            (9 + c.info.toList.length) (· &&& ~~~ c.telegram.idleBits) ∧
        parse written = .ok c :=
  ⟨{  code := .indication
      info := ⟨[0xAA, 0xBB], by decide⟩
      telegram :=
        { control1 := ⟨0xBC⟩
          control2 := ⟨0xE0⟩
          source := ⟨0x110A⟩
          destination := .group ⟨0x0A03⟩
          tpci := .unnumberedData
          apci := some .groupValueWrite
          data := .short 1 } },
    by decide +kernel, toBytes_of_parse (by decide +kernel)⟩

end Cemi

end KnxIp
