/-
  EntitySchema.Decimal.Shortest
  ────────────────────────────────
  **THE SHORTEST DECIMAL THAT READS BACK.**

  A double is written with the fewest digits that read back as the same
  double; of two candidates with as many digits the nearer one is taken,
  of two equally near ones the even one.  The search tries one digit, two,
  and so on, and looks at the two neighbours of the number on each decimal
  grid.

      positional from 10 ^ -5 up to below 10 ^ 16, with a digit on both
      sides of the point; otherwise one digit, the rest, and the exponent
      with its sign
-/
import EntitySchema.Decimal.Binary64

namespace EntitySchema.Decimal

/-! ## §1. Digits. -/

/-- Decimal digits of a number. -/
def digits (n : Nat) : List Char := Nat.toDigits 10 n

/-- Interval of numbers that round to a double, times `4 · 2 ^ -exponent`. -/
def Binary64.interval (x : Binary64) : Nat × Nat :=
  let below :=
    if x.mantissa = twoTo 52 && x.exponent > Binary64.leastExponent then 1 else 2
  (4 * x.mantissa - below, 4 * x.mantissa + 2)

/-- Whether `d · 10 ^ k` rounds to the double; the ends of the interval do if
the mantissa is even. -/
def Binary64.roundsFrom (x : Binary64) (d : Nat) (k : Int) : Bool :=
  let (low, high) := x.interval
  let num := d * (if 0 ≤ k then tenTo k.toNat else 1) * 4
  let den := if 0 ≤ k then 1 else tenTo (-k).toNat
  let (num, den) := Binary64.unscale num den x.exponent
  if x.mantissa % 2 = 0 then low * den ≤ num && num ≤ high * den
  else low * den < num && num < high * den

/-- Exponent of the leading digit. -/
def Binary64.leading (x : Binary64) : Int :=
  let (num, den) := x.ratio
  let k : Int := (digits den).length - (digits num).length
  let reaches :=
    if 0 ≤ k then den ≤ num * tenTo k.toNat else den * tenTo (-k).toNat ≤ num
  if reaches then -k else -k - 1

/-- Neighbours of the double on the grid of `10 ^ k`: the one below and
whether the one above is nearer. -/
def Binary64.onGrid (x : Binary64) (k : Int) : Nat × Bool :=
  let (num, den) := x.ratio
  let (num, den) :=
    if 0 ≤ k then (num, den * tenTo k.toNat) else (num * tenTo (-k).toNat, den)
  let d := num / den
  let r := num % den
  (d, 2 * r > den || (2 * r == den && d % 2 == 1))

/-- Point of the grid of `10 ^ k` that reads back as the double, if any. -/
def Binary64.pointOnGrid (x : Binary64) (k : Int) : Option Nat :=
  let (d, upper) := x.onGrid k
  let (first, second) := if upper then (d + 1, d) else (d, d + 1)
  if x.roundsFrom first k then some first
  else if x.roundsFrom second k then some second
  else none

/-- Shortest decimal `d · 10 ^ k` of a nonzero double, trying `count` digits
and more. -/
def Binary64.search (x : Binary64) (count : Nat) : Nat → Nat × Int
  | 0 => (x.mantissa, x.exponent)
  | tries + 1 =>
      let k := x.leading - count + 1
      match x.pointOnGrid k with
      | some d => (d, k)
      | none => x.search (count + 1) tries

/-- Digits without trailing zeros. -/
def significant (d : Nat) : List Char :=
  (((digits d).reverse.dropWhile (· == '0')).reverse)

/-! ## §2. Layout. -/

/-- Where positional layout begins and ends, as exponents of the leading
digit. -/
structure Layout where
  least : Int
  greatest : Int

/-- Layout of numbers in documents and messages. -/
def Layout.document : Layout := ⟨-5, 15⟩

/-- Text of the digits `ds` whose first one has the exponent `p`. -/
def Layout.render (l : Layout) (ds : List Char) (p : Int) : List Char :=
  if 0 ≤ p && p ≤ l.greatest then
    let whole := p.toNat + 1
    if ds.length ≤ whole then
      ds ++ List.replicate (whole - ds.length) '0' ++ ['.', '0']
    else ds.take whole ++ '.' :: ds.drop whole
  else if p < 0 && l.least ≤ p then
    '0' :: '.' :: (List.replicate ((-p).toNat - 1) '0' ++ ds)
  else
    let fraction := if ds.length ≤ 1 then [] else '.' :: ds.drop 1
    let sign := if p < 0 then '-' else '+'
    ds.take 1 ++ fraction ++ 'e' :: sign :: digits p.natAbs

/-- Text of a double. -/
def Binary64.render (x : Binary64) : String :=
  let body :=
    if x.mantissa = 0 then ['0', '.', '0']
    else
      let (d, k) := x.search 1 17
      Layout.document.render (significant d) (k + (digits d).length - 1)
  String.ofList (if x.negative then '-' :: body else body)

end EntitySchema.Decimal
