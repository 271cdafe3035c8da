/-
  EntitySchema.Decimal.Binary64
  ────────────────────────────────
  **DOUBLE PRECISION NUMBERS, EXACTLY.**

  A finite double is a sign and `mantissa · 2 ^ exponent`.  Every operation
  is one exact quotient of natural numbers followed by one rounding to the
  nearest double, ties to the even mantissa, so results are plain
  arithmetic and can be computed by the kernel.

      nearest n d   — the double nearest to n / d, if it is finite
      scaled s k    — s · 10 ^ k, rounded after each of the two steps
-/
namespace EntitySchema.Decimal

/-- Two to a power. -/
def twoTo (k : Nat) : Nat := Nat.pow 2 k

/-- Ten to a power. -/
def tenTo (k : Nat) : Nat := Nat.pow 10 k

/-- A finite double: the number is `mantissa · 2 ^ exponent`, negated if
`negative`. -/
structure Binary64 where
  negative : Bool
  mantissa : Nat
  exponent : Int
  deriving DecidableEq, Repr

namespace Binary64

/-! ## §1. Rounding a quotient. -/

/-- Least exponent of a double. -/
def leastExponent : Int := -1074

/-- Greatest exponent of a double. -/
def greatestExponent : Int := 971

/-- The quotient rounded to the nearest natural number, a tie to the even
one. -/
def roundHalfEven (num den : Nat) : Nat :=
  let q := num / den
  let r := num % den
  if 2 * r > den || (2 * r == den && q % 2 == 1) then q + 1 else q

/-- Numerator and denominator of `n / d / 2 ^ e`. -/
def unscale (n d : Nat) (e : Int) : Nat × Nat :=
  if 0 ≤ e then (n, d * twoTo e.toNat) else (n * twoTo (-e).toNat, d)

/-- Exponent that leaves `n / d` a mantissa of 53 bits, or the least one. -/
def fittingExponent (n d : Nat) : Int :=
  let e : Int := (n.log2 : Int) - (d.log2 : Int) - 52
  let (num, den) := unscale n d e
  max leastExponent (if num < twoTo 52 * den then e - 1 else e)

/-- The nonnegative double nearest to `n / d`; none if that overflows. -/
def nearest (n d : Nat) : Option Binary64 :=
  if n = 0 then some ⟨false, 0, 0⟩
  else
    let e := fittingExponent n d
    let (num, den) := unscale n d e
    let m := roundHalfEven num den
    let (m, e) := if m = twoTo 53 then (twoTo 52, e + 1) else (m, e)
    if m = 0 then some ⟨false, 0, 0⟩
    else if e > greatestExponent then none
    else some ⟨false, m, e⟩

/-! ## §2. Products and quotients of magnitudes. -/

/-- Numerator and denominator of the magnitude. -/
def ratio (x : Binary64) : Nat × Nat := unscale x.mantissa 1 (-x.exponent)

/-- Rounded product of two magnitudes. -/
def times (x y : Binary64) : Option Binary64 :=
  nearest (x.ratio.1 * y.ratio.1) (x.ratio.2 * y.ratio.2)

/-- Rounded quotient of two magnitudes. -/
def dividedBy (x y : Binary64) : Option Binary64 :=
  nearest (x.ratio.1 * y.ratio.2) (x.ratio.2 * y.ratio.1)

/-- Number with the given sign. -/
def signed (negative : Bool) (x : Binary64) : Binary64 := { x with negative }

/-! ## §3. Reading a decimal. -/

/-- Greatest power of ten that is a double. -/
def greatestTenPower : Nat := 308

/-- Magnitude divided by `10 ^ k`, in steps of the greatest power of ten. -/
def shiftDown (x : Binary64) (k : Nat) : Option Binary64 := do
  if k ≤ greatestTenPower then
    x.dividedBy (← nearest (tenTo k) 1)
  else
    let y ← x.dividedBy (← nearest (tenTo greatestTenPower) 1)
    if y.mantissa = 0 then some y else shiftDown y (k - greatestTenPower)
termination_by k
decreasing_by simp only [greatestTenPower] at *; omega

/-- Double for `significand · 10 ^ exponent`: the significand is rounded
first, its product with the power of ten second.  None if it overflows. -/
def scaled (significand : Nat) (exponent : Int) : Option Binary64 := do
  let x ← nearest significand 1
  if x.mantissa = 0 then some x
  else if exponent < 0 then shiftDown x (-exponent).toNat
  else if exponent.toNat ≤ greatestTenPower then
    x.times (← nearest (tenTo exponent.toNat) 1)
  else none

end Binary64
end EntitySchema.Decimal
