import KnxIp.Dpt.Codec

/-!
# Values are read as they were written

A datapoint type writes a value as data and reads it back. What comes back depends on the family:

* a bit, a direction with a step, and a word say all of their value;
* an octet stands for a value on a scale, and both ways are rounded to the nearest step. A scale
  with no more steps than an octet has (`KnxIp.OctetDpt.max` at most 255) loses nothing by that;
  the one scale with more, that of angles, is off by one at most;
* a measurement is cut off to the digits for which its word has room.

`KnxIp.Dpt.Keeps` says this for every type. The scales are taken first, then
`KnxIp.Dpt.Writes` says in which octets each family writes, from which the reading is
immediate.

## Main statements

* `KnxIp.Dpt.writes_of_encode`: the data that a type writes has the form of its family.
* `KnxIp.Dpt.Writes.exists_decode`: what a type writes it can read, and what it reads is the
  value that was written, as far as the type keeps it.
-/

namespace KnxIp

/-! ### Scales -/

namespace OctetDpt

variable {t : OctetDpt} {n : Nat}

/-- A value on the scale has its place in an octet. -/
theorem toNat_scale (h : n ≤ t.max) : (t.scale n).toNat = (n * 255 + t.max / 2) / t.max := by
  have hlt : (n * 255 + t.max / 2) / t.max < 256 := by
    cases t <;> simp only [max] at h ⊢ <;> omega
  rw [scale, UInt8.toNat_ofNat', Nat.mod_eq_of_lt hlt]

theorem toNat_unscale (t : OctetDpt) (octet : UInt8) :
    (t.unscale octet).toNat = (octet.toNat * t.max + 127) / 255 := by
  have hoctet := octet.toNat_lt
  have hlt : (octet.toNat * t.max + 127) / 255 < 65536 := by
    cases t <;> simp only [max] <;> omega
  rw [unscale, UInt16.toNat_ofNat', Nat.mod_eq_of_lt hlt]

/-- **A scale with no more steps than an octet has** gives each value back. -/
theorem toNat_unscale_scale (hmax : t.max ≤ 255) (h : n ≤ t.max) :
    (t.unscale (t.scale n)).toNat = n := by
  rw [toNat_unscale, toNat_scale h]
  cases t <;> simp only [max] at hmax h ⊢ <;> omega

/-- **A value on any scale** comes back with a difference of one at most. -/
theorem toNat_unscale_scale_near (h : n ≤ t.max) :
    n ≤ (t.unscale (t.scale n)).toNat + 1 ∧ (t.unscale (t.scale n)).toNat ≤ n + 1 := by
  rw [toNat_unscale, toNat_scale h]
  cases t <;> simp only [max] at h ⊢ <;> omega

end OctetDpt

/-! ### All families -/

namespace Dpt

theorem length_singleton_le (x : UInt8) : [x].length ≤ maxApduData := by simp [maxApduData]

theorem length_wordOctets_le (w : UInt16) : (wordOctets w).length ≤ maxApduData := by
  simp [length_wordOctets, maxApduData]

/-- An octet, as data. -/
def octetData (x : UInt8) : Apdu := .octets ⟨[x], length_singleton_le x⟩

/-- The octets of a word, as data. -/
def wordData (w : UInt16) : Apdu := .octets ⟨wordOctets w, length_wordOctets_le w⟩

/-- **The data in which a type writes a value**, one form for each family. Of a measurement it is
said only that it is a word. -/
inductive Writes : Dpt → Value → Apdu → Prop
  | bit (t : BooleanDpt) (b : Bool) :
      Writes (.boolean t) (.bool b) (.ofLowBits (if b then 1 else 0))
  | step (t : ControlDpt) (c : ControlCommand) :
      Writes (.control t) (.control c)
        (.ofLowBits (UInt8.ofNat ((if c.forward then 8 else 0) + c.step.bits)))
  | octet (t : OctetDpt) (n : UInt16) (h : n.toNat ≤ t.max) :
      Writes (.octet t) (.unsigned n) (octetData (t.scale n.toNat))
  | word (t : WordDpt) (n : UInt16) : Writes (.word t) (.unsigned n) (wordData n)
  | measurement (t : FloatDpt) (v : Value) (w : UInt16) : Writes (.float t) v (wordData w)

variable {t : Dpt} {v : Value} {d : Apdu}

/-- What has been put into the buffer becomes the data. -/
theorem encode_of_put {octets : List UInt8} (hl : octets.length ≤ 2)
    (h : t.fill v (.blank 2) = (Region.blank 2).put octets) :
    t.encode v = .ok (if t.isShort then .ofLowBits (octets.headD 0)
      else .octets ⟨octets, Nat.le_trans hl (by decide)⟩) := by
  have hle : octets.length ≤ maxApduData := Nat.le_trans hl (by decide)
  have hput : (Region.blank 2).put octets =
      .ok ⟨octets, (Region.blank 2).free.drop octets.length⟩ := if_pos hl
  have hdata : Apdu.ofOctets octets = .ok (.octets ⟨octets, hle⟩) := by
    simp [Apdu.ofOctets, Octets.ofList, Octets.ofList?, hle, Except.map]
  rw [encode, h, hput]
  simp only [bind, Except.bind, pure, Except.pure, hdata]
  split <;> rfl

/-- What could not be written does not become data. -/
theorem encode_of_error {f : Fault} (h : t.fill v (.blank 2) = .error f) :
    t.encode v = .error f := by
  rw [encode, h]
  rfl

theorem encode_word {w : UInt16} (ht : t.isShort = false)
    (h : t.fill v (.blank 2) = (Region.blank 2).put (wordOctets w)) :
    t.encode v = .ok (wordData w) := by
  rw [encode_of_put (Nat.le_of_eq (length_wordOctets w)) h, ht]
  rfl

/-- A measurement that is written is a word. -/
theorem exists_word_of_encode {x : Binary32} (ht : t.isShort = false)
    (hfill : t.fill v (.blank 2) = Measurement.fill x (.blank 2)) (h : t.encode v = .ok d) :
    ∃ w, d = wordData w := by
  have hroom : ¬ (Region.blank 2).free.length < 2 := by decide
  simp only [Measurement.fill, if_neg hroom] at hfill
  cases hx : Measurement.encode? x with
  | none => simp [encode_of_error (hfill.trans (by rw [hx]))] at h
  | some w =>
    rw [hx] at hfill
    exact ⟨w, Except.ok.inj (h.symm.trans (encode_word ht hfill))⟩

/-- **What a type has written** has the form of its family. -/
theorem writes_of_encode (h : t.encode v = .ok d) : t.Writes v d := by
  -- A value of another shape than that of the type is not written, which closes these cases.
  cases t with
  | boolean t =>
    cases v with
    | bool b =>
      have hfill : fill (.boolean t) (.bool b) (.blank 2) =
          (Region.blank 2).put [if b then 1 else 0] := rfl
      rw [encode_of_put (by simp) hfill] at h
      cases h
      exact .bit t b
    | _ => cases h
  | control t =>
    cases v with
    | control c =>
      have hfill : fill (.control t) (.control c) (.blank 2) =
          (Region.blank 2).put [.ofNat ((if c.forward then 8 else 0) + c.step.bits)] := rfl
      rw [encode_of_put (by simp) hfill] at h
      cases h
      exact .step t c
    | _ => cases h
  | octet t =>
    cases v with
    | unsigned n =>
      have hfill : fill (.octet t) (.unsigned n) (.blank 2) =
          if t.max < n.toNat then .error (.dpt .valueOutOfRange)
          else (Region.blank 2).put [t.scale n.toNat] := rfl
      by_cases hn : t.max < n.toNat
      · rw [encode_of_error (hfill.trans (if_pos hn))] at h
        cases h
      · rw [encode_of_put (by simp) (hfill.trans (if_neg hn))] at h
        cases h
        exact .octet t n (Nat.le_of_not_lt hn)
    | _ => cases h
  | word t =>
    cases v with
    | unsigned n =>
      rw [encode_word rfl rfl] at h
      cases h
      exact .word t n
    | _ => cases h
  | float t =>
    cases v with
    | unsigned n =>
      obtain ⟨w, rfl⟩ := exists_word_of_encode rfl rfl h
      exact .measurement t _ w
    | float x =>
      obtain ⟨w, rfl⟩ := exists_word_of_encode rfl rfl h
      exact .measurement t _ w
    | _ => cases h

theorem isEmpty_of_writes (h : t.Writes v d) : d.isEmpty = false := by
  cases h <;> rfl

/-- **How much of a value a type keeps** that it has written: all of it, but for a measurement,
and for an angle, which may come back with a difference of one. -/
def Keeps : Dpt → Value → Value → Prop
  | .float _, _, _ => True
  | .octet .angle, v, w =>
    ∃ m n : UInt16, v = .unsigned m ∧ w = .unsigned n ∧ m.toNat ≤ n.toNat + 1 ∧
      n.toNat ≤ m.toNat + 1
  | _, v, w => w = v

theorem keeps_octet {t : OctetDpt} {n : UInt16} (h : n.toNat ≤ t.max) :
    (Dpt.octet t).Keeps (.unsigned n) (.unsigned (t.unscale (t.scale n.toNat))) := by
  have hexact : t.max ≤ 255 → Value.unsigned (t.unscale (t.scale n.toNat)) = .unsigned n :=
    fun hmax => congrArg Value.unsigned (UInt16.toNat_inj.mp (OctetDpt.toNat_unscale_scale hmax h))
  cases t with
  | angle => exact ⟨_, _, rfl, rfl, OctetDpt.toNat_unscale_scale_near h⟩
  | _ => exact hexact (by decide)

/-- **What a type has written it can read**, and it reads as much of the value as it keeps. -/
theorem Writes.exists_decode (h : t.Writes v d) :
    ∃ w, t.decode d.toList = .ok w ∧ t.Keeps v w := by
  cases h with
  | bit t b => exact ⟨.bool b, by cases b <;> rfl, rfl⟩
  | step t c =>
    obtain ⟨forward, step⟩ := c
    refine ⟨.control ⟨forward, step⟩, ?_, rfl⟩
    cases forward <;> cases step <;> rfl
  | octet t n h => exact ⟨_, rfl, keeps_octet h⟩
  | word t n =>
    refine ⟨.unsigned n, ?_, rfl⟩
    simp [wordData, Apdu.toList, wordOctets, decode, word_highOctet_lowOctet]
  | measurement t v w => exact ⟨_, rfl, trivial⟩

end Dpt

end KnxIp
