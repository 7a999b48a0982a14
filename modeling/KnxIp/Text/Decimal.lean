/-!
# Decimal numbers

Natural numbers are written without leading zeros (`KnxIp.Text.decimal`) and read with
any number of them (`KnxIp.Text.readDigits?`). Some texts allow one plus sign in front
(`KnxIp.Text.readNumber?`). Only the ten ASCII digits are digits.
-/

namespace KnxIp.Text

/-- The value of a digit. -/
def digitValue? (c : Char) : Option Nat :=
  if '0' ≤ c ∧ c ≤ '9' then some (c.toNat - '0'.toNat) else none

/-- The digit with a value below ten. -/
def digit (value : Nat) : Char := Char.ofNat ('0'.toNat + value)

/-- The digits of a number, the most significant first. -/
def decimalDigits (n : Nat) : List Char :=
  if n < 10 then [digit n] else decimalDigits (n / 10) ++ [digit (n % 10)]

/-- A number in decimal. -/
def decimal (n : Nat) : String := String.ofList (decimalDigits n)

/-- The number that digits write, read on from `value`; `none` if something else than
digits comes. -/
def readDigitsFrom? (value : Nat) : List Char → Option Nat
  | [] => some value
  | c :: cs => (digitValue? c).bind fun d => readDigitsFrom? (value * 10 + d) cs

/-- The number that a text of one or more digits writes. -/
def readDigits? (cs : List Char) : Option Nat :=
  if cs.isEmpty then none else readDigitsFrom? 0 cs

/-- The number that a text writes: one or more digits, with or without one plus sign in
front. -/
def readNumber? : List Char → Option Nat
  | '+' :: cs => readDigits? cs
  | cs => readDigits? cs

/-- A number read and kept only below a bound, which is what a word of limited width
holds. -/
def readBelow? (bound : Nat) (cs : List Char) : Option Nat :=
  (readNumber? cs).filter (· < bound)

end KnxIp.Text
