import Mathlib.Data.Rat.Floor

/-! Finite doubles as the rationals they are, with the arithmetic that rounds the exact result to
the nearest double and a tie to the even one. Results too large for a double do not arise here. -/

namespace Kit

/-- The value of a finite double. -/
abbrev Double := ℚ

/-- The integer nearest to `q`, the even one of two that are equally near. -/
def roundEven (q : ℚ) : ℤ :=
  let low := ⌊q⌋
  let rest := q - low
  if rest < 1 / 2 then low
  else if 1 / 2 < rest then low + 1
  else if low % 2 = 0 then low else low + 1

/-- The exponent of a positive rational: the `e` with `2 ^ e ≤ q < 2 ^ (e + 1)`. -/
def binaryExponent (q : ℚ) : ℤ :=
  let guess : ℤ := (q.num.natAbs.log2 : ℤ) - q.den.log2
  if (2 : ℚ) ^ guess ≤ |q| then guess else guess - 1

/-- The exponent of the last place of the doubles around `q`. -/
def lastPlace (q : ℚ) : ℤ := max (binaryExponent q - 52) (-1074)

/-- The double nearest to `q`. -/
def toDouble (q : ℚ) : Double := roundEven (q / 2 ^ lastPlace q) * 2 ^ lastPlace q

namespace Double

/-- The conversion of an unsigned integer. -/
def ofNat (n : ℕ) : Double := toDouble n

protected def add (a b : Double) : Double := toDouble (a + b)

protected def mul (a b : Double) : Double := toDouble (a * b)

protected def div (a b : Double) : Double := toDouble (a / b)

/-- The value kept between two bounds. -/
def clamp (low high a : Double) : Double := if a < low then low else if high < a then high else a

end Double

example : toDouble (1 / 2) = 1 / 2 := by decide +kernel

example : toDouble (7 / 10) = 6305039478318694 / 2 ^ 53 := by decide +kernel

end Kit
