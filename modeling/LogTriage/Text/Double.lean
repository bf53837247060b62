import LogTriage.Text.Numeral

/-!
# The range of doubles

Doubles have 53 bits, and a value from half a unit above the greatest double on rounds to infinity.
Whether a decimal number is in range depends on how it is rounded: at once, or in the steps of a
reader that keeps 64 bits of its digits and multiplies two doubles.
-/

namespace LogTriage.Text

/-- The least value that rounds to infinity. -/
def doubleBound : Nat := Nat.pow 2 1024 - Nat.pow 2 970

/-- Whether `digits · 10 ^ exponent` rounds to a finite double. -/
def roundsFinite (digits : List Char) (exponent : Int) : Bool :=
  let n := digitsValue 10 digits
  if n = 0 then true
  else
    let size : Int := (toString n).length + exponent
    if 400 < size then false
    else if size < 0 then true
    else
      let (above, below) := if exponent < 0 then (n, Nat.pow 10 exponent.natAbs)
        else (n * Nat.pow 10 exponent.natAbs, 1)
      above < doubleBound * below

/-- The double nearest to `n`, the even one of two, where the greatest double is out of sight. -/
def nearestDouble (n : Nat) : Nat :=
  let unit := Nat.pow 2 (n.log2 + 1 - 53)
  let low := n / unit
  let twice := 2 * (n % unit)
  (if unit < twice ∨ (unit = twice ∧ low % 2 = 1) then low + 1 else low) * unit

/-- A decimal number as `significand · 10 ^ exponent`, as far as it has been read. -/
structure Scaled where
  significand : Nat := 0
  exponent : Int := 0
deriving DecidableEq, Inhabited

namespace Scaled

/-- Reads digits of which each moves the exponent by `taken` while 64 bits hold the significand;
from the first one on that they do not hold, each moves it by `dropped`. -/
def read (taken dropped : Int) (n : Scaled) : List Char → Scaled
  | [] => n
  | d :: ds =>
    let grown := n.significand * 10 + (digitValue? 10 d).getD 0
    if grown < Nat.pow 2 64 then
      read taken dropped { significand := grown, exponent := n.exponent + taken } ds
    else { n with exponent := n.exponent + dropped * (ds.length + 1) }

/-- The number with the digits of its whole part and of its fraction; both parts have room of their
own, so that a digit after the point may still count where the last one before it did not. -/
def ofParts (whole fraction : List Char) (exponent : Int) : Scaled :=
  let n := (read 0 1 {} whole).read (-1) 0 fraction
  { n with exponent := n.exponent + exponent }

/-- Whether the product of the doubles nearest to the significand and to the power of ten is a
finite double; there are no powers beyond 308. -/
def isFinite (n : Scaled) : Bool :=
  n.significand = 0 || n.exponent < 0 ||
    (n.exponent ≤ 308 &&
      nearestDouble n.significand * nearestDouble (Nat.pow 10 n.exponent.toNat) < doubleBound)

end Scaled

end LogTriage.Text
