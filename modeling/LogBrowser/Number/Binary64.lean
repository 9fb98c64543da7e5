/-!
# Binary64 values

Finite IEEE 754 double precision values, with the rounding of exact rationals to them. A value
is `(-1)^negative * mantissa * 2^exponent`, kept canonical: either the mantissa has 53 bits
(`2^52 ≤ mantissa < 2^53`) and the exponent lies in `[-1074, 971]`, or the exponent is `-1074`
and the mantissa is below `2^52` (zero and the subnormals). Infinities never arise as values:
an operation that overflows answers `none`.

Every operation is exact rational arithmetic followed by one rounding to nearest, ties to even,
which is what a binary64 unit computes.
-/

namespace LogBrowser.Number

/-- A finite binary64 value `(-1)^negative * mantissa * 2^exponent`. -/
structure Binary64 where
  negative : Bool
  mantissa : Nat
  exponent : Int
  deriving DecidableEq, Repr, Inhabited

namespace Binary64

/-- The smallest exponent: that of the subnormals. -/
def minExponent : Int := -1074

/-- The largest exponent of a finite value. -/
def maxExponent : Int := 971

/-- The zero of a sign. -/
def zero (negative : Bool) : Binary64 := ⟨negative, 0, minExponent⟩

/-- The value `n * 2^k` for an integer `k`, as a numerator over a denominator. -/
def scale (n : Nat) (k : Int) : Nat × Nat :=
  if 0 ≤ k then (n * Nat.pow 2 k.toNat, 1) else (n, Nat.pow 2 (-k).toNat)

/-- The floor of the binary logarithm of a fraction, `⌊log₂ (num / den)⌋`, for positive `num` and `den`. -/
def floorLog2 (num den : Nat) : Int :=
  let guess : Int := (num.log2 : Int) - (den.log2 : Int)
  let (a, b) := scale den guess
  -- `num / den ≥ 2^guess` exactly when `num * b ≥ a`
  if a ≤ num * b then guess else guess - 1

/-- Divides with rounding to nearest, ties to the even quotient. -/
def divRoundEven (n d : Nat) : Nat :=
  let q := n / d
  let r := n % d
  if d < 2 * r || (2 * r == d && q % 2 == 1) then q + 1 else q

/-- Rounds `(num / den) * 2^shift` to the nearest value of the given sign; `none` when it
overflows. The denominator is positive. -/
def round (negative : Bool) (num den : Nat) (shift : Int) : Option Binary64 :=
  if num = 0 then some (zero negative)
  else
    let top := floorLog2 num den + shift
    let e := max (top - 52) minExponent
    -- the mantissa is `(num / den) * 2^(shift - e)`
    let (a, b) := scale num (shift - e)
    let m := divRoundEven a (b * den)
    let (m, e) := if m = Nat.pow 2 53 then (Nat.pow 2 52, e + 1) else (m, e)
    if maxExponent < e then none else some ⟨negative, m, e⟩

/-- The value nearest to a natural number. -/
def ofNat (n : Nat) : Binary64 := (round false n 1 0).getD (zero false)

/-- The value nearest to `10^k`. -/
def powerOfTen (k : Nat) : Binary64 := (round false (Nat.pow 10 k) 1 0).getD (zero false)

/-- Whether the value is a zero. -/
def isZero (x : Binary64) : Bool := x.mantissa == 0

/-- The value with the sign flipped. -/
def neg (x : Binary64) : Binary64 := { x with negative := !x.negative }

/-- The rounded product; `none` when it overflows. -/
def mul (x y : Binary64) : Option Binary64 :=
  round (x.negative != y.negative) (x.mantissa * y.mantissa) 1 (x.exponent + y.exponent)

/-- The rounded quotient by a nonzero value. It never overflows for a divisor of at least one,
the only divisors used here. -/
def div (x y : Binary64) : Binary64 :=
  if y.mantissa = 0 then x
  else (round (x.negative != y.negative) x.mantissa y.mantissa (x.exponent - y.exponent)).getD x

theorem round_zero (negative : Bool) (den : Nat) (shift : Int) :
    round negative 0 den shift = some (zero negative) := by
  simp [round]

end Binary64

end LogBrowser.Number
