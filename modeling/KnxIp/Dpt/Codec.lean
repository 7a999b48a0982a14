import KnxIp.Cemi.Apdu
import KnxIp.Dpt
import KnxIp.Dpt.Value
import KnxIp.Region

/-!
# The codecs of datapoint types

How each family of `KnxIp.Dpt` writes a value as octets and reads it back.

* A *bit* is the lowest bit of an octet.
* A *step* is three bits below one bit of direction.
* An *octet* stands for a value on a scale that ends at `KnxIp.OctetDpt.max`; both ways
  are rounded to the nearest step of the scale.
* A *word* is itself.
* A *measurement* is `0.01 * m * 2 ^ e` for a mantissa `m` from -2048 to 2047 and an
  exponent `e` from 0 to 15. The word holds the sign of the mantissa, the exponent, and
  the low eleven bits of the mantissa. The encoder takes the least exponent that fits,
  which is the most precise one.
-/

namespace KnxIp

/-! ### Scales -/

namespace OctetDpt

/-- The octet for a value on a scale. -/
def scale (t : OctetDpt) (value : Nat) : UInt8 :=
  UInt8.ofNat ((value * 255 + t.max / 2) / t.max)

/-- The value on a scale that an octet stands for. -/
def unscale (t : OctetDpt) (octet : UInt8) : UInt16 :=
  UInt16.ofNat ((octet.toNat * t.max + 127) / 255)

end OctetDpt

/-! ### Measurements -/

namespace Measurement

/-- Whether a mantissa has a place in the word. -/
def fits (mantissa : Int) : Bool := -2048 ≤ mantissa && mantissa ≤ 2047

/-- The word of a mantissa and an exponent. -/
def assemble (mantissa : Int) (exponent : Nat) : UInt16 :=
  UInt16.ofNat
    ((if mantissa < 0 then 32768 else 0) + exponent * 2048 + (mantissa % 2048).toNat)

/-- The word for hundredths at the first of the exponents from `exponent` on, at most
`count` of them, whose mantissa fits. -/
def search (hundredths : Binary32) (exponent : Nat) : Nat → Option UInt16
  | 0 => none
  | count + 1 =>
    match (hundredths.shiftDown exponent).nearestInt? with
    | some mantissa =>
      if fits mantissa then some (assemble mantissa exponent)
      else search hundredths (exponent + 1) count
    | none => none

/-- The word for a measurement, if it has one. -/
def encode? (x : Binary32) : Option UInt16 :=
  if x.isFinite then search (x.timesInt 100) 0 16 else none

/-- The number nearest to one hundredth. -/
def hundredth : Binary32 := ⟨0x3C23D70A⟩

/-- The mantissa in a word. -/
def mantissa (w : UInt16) : Int :=
  (w.toNat % 2048 : Nat) - if 32768 ≤ w.toNat then 2048 else 0

/-- The exponent in a word. -/
def exponent (w : UInt16) : Nat := w.toNat / 2048 % 16

/-- The measurement that a word stands for. -/
def decode (w : UInt16) : Binary32 := (hundredth.timesInt (mantissa w)).shiftUp (exponent w)

end Measurement

/-- Write a measurement into a buffer. A buffer without room for a word is found out
before a measurement that has none. -/
def Measurement.fill (x : Binary32) (r : Region) : Except Fault Region :=
  if r.free.length < 2 then
    .error (.transport .bufferTooSmall)
  else
    match Measurement.encode? x with
    | some w => r.put (wordOctets w)
    | none => .error (.dpt .valueOutOfRange)

/-! ### All families -/

namespace Dpt

/-- Write a value into a buffer. Whole numbers are measurements too; any other value has
to have the shape of the type. -/
def fill (t : Dpt) (v : Value) (r : Region) : Except Fault Region :=
  match t, v with
  | .boolean _, .bool b => r.put [if b then 1 else 0]
  | .control _, .control c =>
    r.put [UInt8.ofNat ((if c.forward then 8 else 0) + c.step.bits)]
  | .octet t, .unsigned n =>
    if t.max < n.toNat then .error (.dpt .valueOutOfRange) else r.put [t.scale n.toNat]
  | .word _, .unsigned n => r.put (wordOctets n)
  | .float _, .float x => Measurement.fill x r
  | .float _, .unsigned n => Measurement.fill (Binary32.ofNat n.toNat) r
  | _, _ => .error (.dpt .typeMismatch)

/-- **The data that stands for a value.** No value has more than two octets. -/
def encode (t : Dpt) (v : Value) : Except Fault Apdu := do
  let r ← t.fill v (Region.blank 2)
  if t.isShort then
    pure (Apdu.ofLowBits (r.written.headD 0))
  else
    Apdu.ofOctets r.written

/-- **The value that data stands for.** Octets that the type does not need are passed
over. -/
def decode (t : Dpt) (data : List UInt8) : Except Fault Value :=
  match t, data with
  | .boolean _, first :: _ => .ok (.bool (first.toNat % 2 = 1))
  | .control _, first :: _ => do
    let step ← StepCode.ofBits (first.toNat % 8)
    pure (.control ⟨first.toNat / 8 % 2 = 1, step⟩)
  | .octet t, first :: _ => .ok (.unsigned (t.unscale first))
  | .word _, high :: low :: _ => .ok (.unsigned (KnxIp.word high low))
  | .float _, high :: low :: _ => .ok (.float (Measurement.decode (KnxIp.word high low)))
  | _, _ => .error (.dpt .invalidData)

end Dpt

end KnxIp
