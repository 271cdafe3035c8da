/-
  EntitySchema.Toml.Number
  ────────────────────────────────
  **NUMBERS AND MOMENTS.**

  Digits may have single underscores between them.  A whole number has 64
  bits and a sign; it may be written to the base 16, 8 or 2.  A number with
  a fraction or an exponent must not exceed the greatest double.  Dates and
  times of day are checked against the calendar; a second 60 is admitted.
-/
import EntitySchema.Toml.Value
import EntitySchema.Decimal.Binary64
import EntitySchema.Text.Hex

namespace EntitySchema.Toml

open EntitySchema.Decimal (tenTo twoTo)

/-! ## §1. Digits. -/

/-- Digits that continue a number, underscores left out, and the rest. -/
def moreDigits (isDigit : Char → Bool) : List Char → List Char × List Char
  | '_' :: c :: rest =>
      if isDigit c then (c :: (moreDigits isDigit rest).1, (moreDigits isDigit rest).2)
      else ([], '_' :: c :: rest)
  | c :: rest =>
      if isDigit c then (c :: (moreDigits isDigit rest).1, (moreDigits isDigit rest).2)
      else ([], c :: rest)
  | [] => ([], [])

/-- Digits of a number, of which there is at least one, and the rest. -/
def readDigits (isDigit : Char → Bool) : List Char → Option (List Char × List Char)
  | c :: rest =>
      if isDigit c then some (c :: (moreDigits isDigit rest).1, (moreDigits isDigit rest).2)
      else none
  | [] => none

/-- Number that digits spell. -/
def digitsValue (base : Nat) (ds : List Char) : Nat :=
  ds.foldl (fun n d => n * base + (Text.hexValue? d).getD 0) 0

/-- Sign at the front, plus if there is none; the flag says minus. -/
def readSign : List Char → Bool × List Char
  | '-' :: rest => (true, rest)
  | '+' :: rest => (false, rest)
  | rest => (false, rest)

/-! ## §2. Whole numbers. -/

/-- Whole number of 64 bits. -/
def integer? (n : Int) : Option Toml :=
  if -(twoTo 63 : Int) ≤ n && n < twoTo 63 then some (.integer n) else none

/-- Whole number to a base. -/
def readBased (base : Nat) (isDigit : Char → Bool) (cs : List Char) :
    Option (Toml × List Char) := do
  let (ds, rest) ← readDigits isDigit cs
  return (← integer? (digitsValue base ds), rest)

/-! ## §3. Numbers with a fraction. -/

/-- Whether the number of these digits, times a power of ten, lies within
the doubles. -/
def isFinite (digits : List Char) (exponent : Int) : Bool :=
  let significand := digitsValue 10 digits
  let magnitude : Int := (toString significand).length + exponent
  if significand = 0 || magnitude < -400 then true
  else if 400 < magnitude then false
  else if 0 ≤ exponent then (Decimal.Binary64.nearest (significand * tenTo exponent.toNat) 1).isSome
  else (Decimal.Binary64.nearest significand (tenTo (-exponent).toNat)).isSome

/-- Exponent at the front. -/
def readExponent : List Char → Option (Int × List Char)
  | c :: rest =>
      if c = 'e' || c = 'E' then do
        let (negative, rest) := readSign rest
        let (ds, rest) ← readDigits Char.isDigit rest
        let n : Int := digitsValue 10 ds
        return (if negative then -n else n, rest)
      else none
  | [] => none

/-- Digits in front of a point: a zero alone, or digits that start with
another one. -/
def readWhole : List Char → Option (List Char × List Char)
  | '0' :: rest => some (['0'], rest)
  | cs => readDigits Char.isDigit cs

/-- Decimal number behind its sign.  Below the least double there is minus
infinity, so only the positive numbers are bounded. -/
def readDecimal (negative : Bool) (cs : List Char) : Option (Toml × List Char) := do
  let (whole, rest) ← readWhole cs
  match rest with
  | '.' :: rest => do
      let (digits, rest) ← readDigits Char.isDigit rest
      let (exponent, rest) := (readExponent rest).getD (0, rest)
      if negative || isFinite (whole ++ digits) (exponent - digits.length) then
        some (.float, rest)
      else none
  | _ =>
      match readExponent rest with
      | some (exponent, rest) =>
          if negative || isFinite whole exponent then some (.float, rest) else none
      | none =>
          let n : Int := digitsValue 10 whole
          return (← integer? (if negative then -n else n), rest)

/-- Number at the front. -/
def readNumber (cs : List Char) : Option (Toml × List Char) :=
  match cs with
  | '0' :: 'x' :: rest => readBased 16 (fun c => (Text.hexValue? c).isSome) rest
  | '0' :: 'o' :: rest => readBased 8 (fun c => '0' ≤ c && c ≤ '7') rest
  | '0' :: 'b' :: rest => readBased 2 (fun c => c = '0' || c = '1') rest
  | _ =>
      match readSign cs with
      | (_, 'i' :: 'n' :: 'f' :: rest) => some (.float, rest)
      | (_, 'n' :: 'a' :: 'n' :: rest) => some (.float, rest)
      | (negative, rest) => readDecimal negative rest

/-! ## §4. Moments. -/

/-- Number of exactly `n` digits at the front, and the rest. -/
def readFixed (n : Nat) (cs : List Char) : Option (Nat × List Char) :=
  let ds := cs.take n
  if ds.length = n && ds.all Char.isDigit then some (digitsValue 10 ds, cs.drop n) else none

/-- Text behind an expected character. -/
def expect (c : Char) : List Char → Option (List Char)
  | d :: rest => if d = c then some rest else none
  | [] => none

/-- Days of a month. -/
def daysIn (year month : Nat) : Nat :=
  match month with
  | 2 => if year % 4 = 0 && (year % 100 ≠ 0 || year % 400 = 0) then 29 else 28
  | 4 | 6 | 9 | 11 => 30
  | _ => 31

/-- Text behind a date. -/
def readDate (cs : List Char) : Option (List Char) := do
  let (year, rest) ← readFixed 4 cs
  let (month, rest) ← readFixed 2 (← expect '-' rest)
  let (day, rest) ← readFixed 2 (← expect '-' rest)
  if 1 ≤ month && month ≤ 12 && 1 ≤ day && day ≤ daysIn year month then some rest else none

/-- Text behind a fraction of a second, if there is one. -/
def skipFraction : List Char → List Char
  | '.' :: c :: rest => if c.isDigit then rest.dropWhile Char.isDigit else '.' :: c :: rest
  | cs => cs

/-- Text behind hours and minutes. -/
def readClock (cs : List Char) : Option (List Char) := do
  let (hour, rest) ← readFixed 2 cs
  let (minute, rest) ← readFixed 2 (← expect ':' rest)
  if hour ≤ 23 && minute ≤ 59 then some rest else none

/-- Text behind a time of day. -/
def readTime (cs : List Char) : Option (List Char) := do
  let (second, rest) ← readFixed 2 (← expect ':' (← readClock cs))
  if second ≤ 60 then some (skipFraction rest) else none

/-- Text behind the distance from universal time, if it is given. -/
def skipOffset (cs : List Char) : List Char :=
  match cs with
  | 'Z' :: rest => rest
  | 'z' :: rest => rest
  | '+' :: rest => (readClock rest).getD cs
  | '-' :: rest => (readClock rest).getD cs
  | _ => cs

/-- Text behind a time of day that follows a date, if one does. -/
def skipTime (cs : List Char) : List Char :=
  match cs with
  | c :: rest =>
      if c = 'T' || c = 't' || c = ' ' then ((readTime rest).map skipOffset).getD cs else cs
  | [] => []

/-- Moment at the front. -/
def readMoment (cs : List Char) : Option (Toml × List Char) :=
  (((readDate cs).map skipTime).or (readTime cs)).map (.moment, ·)

end EntitySchema.Toml
