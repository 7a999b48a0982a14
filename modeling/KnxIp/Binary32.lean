import KnxIp.Text.Decimal

/-!
# Binary numbers of thirty-two bits

Measured values are binary floating point numbers of thirty-two bits. Here they are kept
as their bits (`KnxIp.Binary32`) and computed with exactly: `KnxIp.Binary32.datum` says
which number the bits stand for, the operations work on whole numbers and powers of two,
and `KnxIp.Binary32.ofDyadic` rounds the result to the nearest number that bits can
stand for, of two equally near ones to the one whose last bit is zero.
-/

namespace KnxIp

/-- **A binary number of thirty-two bits**: one bit of sign, eight of exponent and
twenty-three of fraction. -/
structure Binary32 where
  bits : UInt32
  deriving DecidableEq

namespace Binary32

/-- What bits stand for. -/
inductive Datum
  /-- No number. -/
  | nan
  /-- Greater in size than every number. -/
  | infinite (negative : Bool)
  /-- `significand * 2 ^ exponent`, with a minus sign if `negative`. -/
  | finite (negative : Bool) (significand : Nat) (exponent : Int)
  deriving DecidableEq

/-- What the bits stand for. -/
def datum (x : Binary32) : Datum :=
  let negative := 2147483648 ≤ x.bits.toNat
  let exponent := x.bits.toNat / 8388608 % 256
  let fraction := x.bits.toNat % 8388608
  if exponent = 255 then
    if fraction = 0 then .infinite negative else .nan
  else if exponent = 0 then
    .finite negative fraction (-149)
  else
    .finite negative (8388608 + fraction) ((exponent : Int) - 150)

/-- A power of two. -/
def twoPow (k : Nat) : Nat := Nat.pow 2 k

/-- The quotient of a number by a power of two, rounded to the nearest whole number, of
two equally near ones to the even one. -/
def roundShift (m k : Nat) : Nat :=
  let quotient := m / twoPow k
  let rest := m % twoPow k
  if 2 * rest < twoPow k then quotient
  else if twoPow k < 2 * rest then quotient + 1
  else quotient + quotient % 2

/-- The bits of a magnitude, with a sign. -/
def ofMagnitude (negative : Bool) (magnitude : Nat) : Binary32 :=
  ⟨UInt32.ofNat (magnitude + if negative then 2147483648 else 0)⟩

/-- The number nearest to `m * 2 ^ e`, with a minus sign if `negative`. The significand
is brought to twenty-four bits, or to fewer where the exponent cannot fall any further;
exponent and fraction then follow by one addition, in which a significand that was
rounded up to twenty-five bits carries into the exponent. -/
def ofDyadic (negative : Bool) (m : Nat) (e : Int) : Binary32 :=
  if m = 0 then
    ofMagnitude negative 0
  else
    let scale := max (e + (m.log2 : Int) - 23) (-149)
    let significand :=
      if scale ≤ e then m * twoPow (e - scale).toNat else roundShift m (scale - e).toNat
    let magnitude := (scale + 149).toNat * 8388608 + significand
    ofMagnitude negative (min magnitude 2139095040)

/-- A whole number. -/
def ofNat (n : Nat) : Binary32 := ofDyadic false n 0

/-- Whether the bits stand for a number, and not for infinity or for none. -/
def isFinite (x : Binary32) : Bool :=
  match x.datum with
  | .finite _ _ _ => true
  | _ => false

/-- The product with a whole number; what is no number stays as it is. -/
def timesInt (x : Binary32) (n : Int) : Binary32 :=
  match x.datum with
  | .finite negative m e => ofDyadic (negative != decide (n < 0)) (m * n.natAbs) e
  | _ => x

/-- The quotient by a power of two; what is no number stays as it is. -/
def shiftDown (x : Binary32) (k : Nat) : Binary32 :=
  match x.datum with
  | .finite negative m e => ofDyadic negative m (e - k)
  | _ => x

/-- The product with a power of two; what is no number stays as it is. -/
def shiftUp (x : Binary32) (k : Nat) : Binary32 :=
  match x.datum with
  | .finite negative m e => ofDyadic negative m (e + k)
  | _ => x

/-- The whole part of `m * 2 ^ e`. -/
def wholePart (m : Nat) (e : Int) : Nat :=
  if 0 ≤ e then m * twoPow e.toNat else m / twoPow (-e).toNat

/-- The number that lies half a unit further from zero. -/
def awayByHalf (negative : Bool) (m : Nat) (e : Int) : Binary32 :=
  let unit := min e (-1)
  ofDyadic negative (m * twoPow (e - unit).toNat + twoPow (-1 - unit).toNat) unit

/-- The nearest whole number, of two equally near ones the one further from zero: half a
unit is added to the size, as a number of thirty-two bits, and the whole part is what
remains. Infinity and what is no number have none. -/
def nearestInt? (x : Binary32) : Option Int :=
  match x.datum with
  | .finite negative m e =>
    match (awayByHalf negative m e).datum with
    | .finite _ m e =>
      let size : Int := wholePart m e
      some (if negative then -size else size)
    | _ => none
  | _ => none

/-! ### The text -/

/-- The hundredths in `m * 2 ^ e`, rounded to the nearest whole number of them, of two
equally near ones to the even one. -/
def hundredths (m : Nat) (e : Int) : Nat :=
  if 0 ≤ e then m * 100 * twoPow e.toNat else roundShift (m * 100) (-e).toNat

/-- A number of hundredths with two decimal places. -/
def placesText (n : Nat) : String :=
  Text.decimal (n / 100) ++ "." ++
    String.ofList [Text.digit (n / 10 % 10), Text.digit (n % 10)]

/-- The number with two decimal places. The sign is that of the bits, also where only
zeros follow it. -/
def text (x : Binary32) : String :=
  match x.datum with
  | .nan => "NaN"
  | .infinite negative => if negative then "-inf" else "inf"
  | .finite negative m e =>
    (if negative then "-" else "") ++ placesText (hundredths m e)

end Binary32

end KnxIp
