import LogBrowser.Number.Binary64

/-!
# Shortest decimal text of a binary64 value

A value is written with the fewest significant digits that still read back as the same value,
and among those the digits closest to it (ties to an even last digit). The digits are then laid
out as a plain decimal when the decimal exponent is moderate, and in scientific form otherwise.

The search is exact. Reading a decimal back gives the value exactly when the decimal lies in the
rounding interval of the value: halfway to each neighbour, the ends included when the mantissa is
even (ties go to the even mantissa). The lower neighbour of a power of two is twice as close.
Going down from a power of ten above the value, the first power `10^k` whose multiples meet the
interval gives the shortest digits; the multiple nearest to the value is taken.
-/

namespace LogBrowser.Number

/-- The floor of the decimal logarithm, `⌊log₁₀ n⌋`, of a positive `n`, and `0` for `0`. -/
def log10 (n : Nat) : Nat :=
  if h : 10 ≤ n then log10 (n / 10) + 1 else 0
termination_by n
decreasing_by omega

/-- The floor of the decimal logarithm of a fraction, `⌊log₁₀ (num / den)⌋`, for positive `num` and `den`. -/
def floorLog10 (num den : Nat) : Int :=
  if den ≤ num then (log10 (num / den) : Int)
  else -((log10 ((den - 1) / num) : Int) + 1)

/-- The rounding interval of a positive value, in quarter steps: the value is `4 * mantissa`
quarters of `2^(exponent - 2)`, and the interval runs from `low` to `high` quarters. -/
structure Interval where
  low : Nat
  value : Nat
  high : Nat
  quarter : Int
  inclusive : Bool

/-- The rounding interval of a positive finite value. -/
def Binary64.interval (x : Binary64) : Interval :=
  let m := x.mantissa
  let low := if m = Nat.pow 2 52 && Binary64.minExponent < x.exponent then 4 * m - 1 else 4 * m - 2
  { low := low, value := 4 * m, high := 4 * m + 2, quarter := x.exponent - 2,
    inclusive := m % 2 == 0 }

/-- The ratio `n * 2^q / 10^k` as a numerator and a denominator. -/
def ratioAt (n : Nat) (q k : Int) : Nat × Nat :=
  (n * Nat.pow 2 q.toNat * Nat.pow 10 (-k).toNat, Nat.pow 10 k.toNat * Nat.pow 2 (-q).toNat)

/-- The quotient rounded up, `⌈a / b⌉`. -/
def ceilDiv (a b : Nat) : Nat := (a + b - 1) / b

/-- The multiples of `10^k` inside the interval, as the range of their factors. -/
def Interval.factors (iv : Interval) (k : Int) : Nat × Nat :=
  let (lo, b) := ratioAt iv.low iv.quarter k
  let (hi, _) := ratioAt iv.high iv.quarter k
  let least := if iv.inclusive then ceilDiv lo b else lo / b + 1
  let most := if iv.inclusive then hi / b else ceilDiv hi b - 1
  (max least 1, most)

/-- The factor of `10^k` nearest to the value, kept inside `[least, most]`. -/
def Interval.nearest (iv : Interval) (k : Int) (least most : Nat) : Nat :=
  let (v, b) := ratioAt iv.value iv.quarter k
  min (max (Binary64.divRoundEven v b) least) most

/-- Tries `10^k`, `10^(k-1)`, … for the first power whose multiples meet the interval. -/
def Interval.search (iv : Interval) : Nat → Int → Nat × Int
  | 0, k => (iv.nearest k 1 1, k)
  | fuel + 1, k =>
    let (least, most) := iv.factors k
    if least ≤ most then (iv.nearest k least most, k) else iv.search fuel (k - 1)

/-- Moves the trailing zeros of the digits into the exponent. -/
def dropTrailingZeros (d : Nat) (k : Int) : Nat × Int :=
  if h : 0 < d ∧ d % 10 = 0 then dropTrailingZeros (d / 10) (k + 1) else (d, k)
termination_by d
decreasing_by omega

/-- The shortest digits `d` and exponent `k` with `d * 10^k` reading back as the positive value;
`d` has no trailing zero. -/
def Binary64.shortest (x : Binary64) : Nat × Int :=
  let iv := x.interval
  let (top, den) := ratioAt iv.high iv.quarter 0
  let (d, k) := iv.search 40 (floorLog10 top den + 1)
  dropTrailingZeros d k

/-- An exponent with its sign always written. -/
def exponentText (e : Int) : String :=
  if e < 0 then "-" ++ toString (-e) else "+" ++ toString e

/-- Lays out the digits `ds` times `10^k`: plainly when the number has at most 16 digits before
the point and fewer than five zeros after it, in scientific form otherwise. -/
def layout (ds : List Char) (k : Int) : String :=
  let n : Int := ds.length
  let kk := n + k
  let zeros (z : Int) : List Char := List.replicate z.toNat '0'
  if 0 ≤ k && kk ≤ 16 then String.ofList (ds ++ zeros k ++ ['.', '0'])
  else if 0 < kk && kk ≤ 16 then
    String.ofList (ds.take kk.toNat ++ '.' :: ds.drop kk.toNat)
  else if -5 < kk && kk ≤ 0 then String.ofList (['0', '.'] ++ zeros (-kk) ++ ds)
  else
    let mant := match ds with
      | [c] => [c]
      | c :: cs => c :: '.' :: cs
      | [] => []
    String.ofList mant ++ "e" ++ exponentText (kk - 1)

/-- The text of a finite value: `0.0` for zero, a minus sign for negative values. -/
def Binary64.toText (x : Binary64) : String :=
  let sign := if x.negative then "-" else ""
  if x.mantissa = 0 then sign ++ "0.0"
  else
    let (d, k) := x.shortest
    sign ++ layout (toString d).toList k

end LogBrowser.Number
