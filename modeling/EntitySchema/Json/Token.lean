/-
  EntitySchema.Json.Token
  ────────────────────────────────
  **TOKENS OF A JSON TEXT.**

  Punctuation, texts with their escapes undone, numbers and the three
  words.  A whole number within 64 bits, signed or unsigned, stays whole;
  every other number becomes a double.

      "\u" escapes  — surrogates must come in pairs
      numbers       — no leading zeros, digits on both sides of the point
      minus zero    — a double, since it keeps its sign
-/
import EntitySchema.Json.Value
import EntitySchema.Text.Hex

namespace EntitySchema.Json

open EntitySchema.Decimal (Binary64 twoTo)
open EntitySchema.Text (hexNumber? charOfCode?)

/-- A token. -/
inductive Token where
  | openArray
  | closeArray
  | openObject
  | closeObject
  | comma
  | colon
  | value (v : Json)
  deriving Repr

/-! ## §1. Numbers. -/

/-- Value of a run of digits that continues `n`. -/
def decimalValue (n : Nat) (ds : List Char) : Nat :=
  ds.foldl (fun acc d => acc * 10 + (d.toNat - '0'.toNat)) n

/-- Greatest significand that is kept while a number is read. -/
def significandLimit : Nat := twoTo 64 - 1

/-- Whole digits: the significand kept and how many digits were left out of
it.  From the first digit that does not fit on, every digit is left out. -/
def wholeDigits (significand : Nat) : List Char → Nat × Nat
  | [] => (significand, 0)
  | d :: ds =>
      let next := decimalValue significand [d]
      if next ≤ significandLimit then wholeDigits next ds
      else (significand, ds.length + 1)

/-- Digits behind the point: the significand kept and how many digits went
into it. -/
def fractionDigits (significand taken : Nat) : List Char → Nat × Nat
  | [] => (significand, taken)
  | d :: ds =>
      let next := decimalValue significand [d]
      if next ≤ significandLimit then fractionDigits next (taken + 1) ds
      else (significand, taken)

/-- Parts of a number literal. -/
structure NumberLiteral where
  negative : Bool
  whole : List Char
  fraction : List Char
  exponent : Int
  isWhole : Bool

/-- Document value of a literal; none if it is too large for a double. -/
def NumberLiteral.value? (l : NumberLiteral) : Option Json :=
  let (significand, dropped) := wholeDigits 0 l.whole
  if l.isWhole && dropped = 0 then
    if !l.negative then some (.int significand)
    else if 0 < significand && significand ≤ twoTo 63 then some (.int (-(significand : Int)))
    else (Binary64.nearest significand 1).map fun x => .float (x.signed true)
  else
    let (significand, taken) := fractionDigits significand 0 l.fraction
    (Binary64.scaled significand ((dropped : Int) - taken + l.exponent)).map fun x =>
      .float (x.signed l.negative)

/-- Longest run of digits and the rest. -/
def spanDigits (cs : List Char) : List Char × List Char :=
  (cs.takeWhile Char.isDigit, cs.dropWhile Char.isDigit)

/-- Sign of an exponent, plus if there is none; the flag says minus. -/
def readSign : List Char → Bool × List Char
  | '-' :: rest => (true, rest)
  | '+' :: rest => (false, rest)
  | rest => (false, rest)

/-- Exponent part of a number, if there is one: its value, or none if it has
no digits. -/
def readExponent (cs : List Char) : Option (Option Int × List Char) :=
  match cs with
  | 'e' :: rest | 'E' :: rest =>
      let (negative, rest) := readSign rest
      let (ds, rest) := spanDigits rest
      if ds.isEmpty then none
      else
        let n : Int := decimalValue 0 ds
        some (some (if negative then -n else n), rest)
  | _ => some (none, cs)

/-- Fraction part of a number, if there is one. -/
def readFraction (cs : List Char) : Option (Option (List Char) × List Char) :=
  match cs with
  | '.' :: rest =>
      let (ds, rest) := spanDigits rest
      if ds.isEmpty then none else some (some ds, rest)
  | _ => some (none, cs)

/-- Number without its sign. -/
def readNumber (negative : Bool) (cs : List Char) : Option (Json × List Char) := do
  let (whole, rest) := spanDigits cs
  match whole with
  | [] => none
  | '0' :: _ :: _ => none
  | _ =>
      let (fraction, rest) ← readFraction rest
      let (exponent, rest) ← readExponent rest
      let literal : NumberLiteral :=
        { negative, whole, fraction := fraction.getD [], exponent := exponent.getD 0,
          isWhole := fraction.isNone && exponent.isNone }
      return (← literal.value?, rest)

/-! ## §2. Texts. -/

/-- Character of a pair of surrogates. -/
def pairedChar? (high low : Nat) : Option Char :=
  if 0xD800 ≤ high && high ≤ 0xDBFF && 0xDC00 ≤ low && low ≤ 0xDFFF then
    some (Char.ofNat (0x10000 + (high - 0xD800) * 0x400 + (low - 0xDC00)))
  else none

/-- Character of an escape other than `\u`. -/
def escapedChar? : Char → Option Char
  | '"' => some '"'
  | '\\' => some '\\'
  | '/' => some '/'
  | 'b' => some '\x08'
  | 'f' => some '\x0c'
  | 'n' => some '\n'
  | 'r' => some '\r'
  | 't' => some '\t'
  | _ => none

/-- Characters up to the closing quote, escapes undone, and what follows
it. -/
def readText : List Char → Option (List Char × List Char)
  | [] => none
  | '"' :: rest => some ([], rest)
  | '\\' :: 'u' :: a :: b :: c :: d :: '\\' :: 'u' :: e :: f :: g :: h :: rest =>
      match hexNumber? [a, b, c, d] with
      | none => none
      | some n =>
          match charOfCode? n with
          | some ch =>
              (readText ('\\' :: 'u' :: e :: f :: g :: h :: rest)).map fun r => (ch :: r.1, r.2)
          | none =>
              match (hexNumber? [e, f, g, h]).bind (pairedChar? n) with
              | none => none
              | some ch => (readText rest).map fun r => (ch :: r.1, r.2)
  | '\\' :: 'u' :: a :: b :: c :: d :: rest =>
      match (hexNumber? [a, b, c, d]).bind charOfCode? with
      | none => none
      | some ch => (readText rest).map fun r => (ch :: r.1, r.2)
  | '\\' :: c :: rest =>
      match escapedChar? c with
      | none => none
      | some ch => (readText rest).map fun r => (ch :: r.1, r.2)
  | c :: rest =>
      if c.toNat < 0x20 || c = '\\' then none
      else (readText rest).map fun r => (c :: r.1, r.2)
termination_by cs => cs.length

theorem length_readText {cs : List Char} {r : List Char × List Char}
    (h : readText cs = some r) : r.2.length < cs.length := by
  fun_induction readText cs generalizing r <;>
    simp_all only [Option.map_eq_some_iff, List.length_cons, reduceCtorEq, Option.some.injEq]
  all_goals first
    | (subst h; simp)
    | (obtain ⟨a, ha, rfl⟩ := h; grind)

/-! ## §3. All tokens. -/

/-- Whether a character separates tokens. -/
def isBlank (c : Char) : Bool := c ∈ [' ', '\n', '\t', '\r']

/-- One of the three words and the rest. -/
def readWord : List Char → Option (Json × List Char)
  | 'n' :: 'u' :: 'l' :: 'l' :: rest => some (.null, rest)
  | 't' :: 'r' :: 'u' :: 'e' :: rest => some (.bool true, rest)
  | 'f' :: 'a' :: 'l' :: 's' :: 'e' :: rest => some (.bool false, rest)
  | _ => none

/-- A text, a word or a number. -/
def readScalar (c : Char) (rest : List Char) : Option (Json × List Char) :=
  if c = '"' then (readText rest).map fun r => (.text (String.ofList r.1), r.2)
  else if c = '-' then readNumber true rest
  else (readWord (c :: rest)).or (readNumber false (c :: rest))

/-- Punctuation by its character. -/
def punctuation? : Char → Option Token
  | '[' => some .openArray
  | ']' => some .closeArray
  | '\x7b' => some .openObject
  | '\x7d' => some .closeObject
  | ',' => some .comma
  | ':' => some .colon
  | _ => none

/-- Token at the front, or no token for a blank, and the rest; none if the
text starts with no token. -/
def nextToken (c : Char) (rest : List Char) : Option (Option Token × List Char) :=
  if isBlank c then some (none, rest)
  else match punctuation? c with
    | some t => some (some t, rest)
    | none => (readScalar c rest).map fun r => (some (.value r.1), r.2)

theorem length_spanDigits (cs : List Char) :
    (spanDigits cs).1.length + (spanDigits cs).2.length = cs.length := by
  simp only [spanDigits]
  rw [← List.length_append, List.takeWhile_append_dropWhile]

theorem length_readSign (cs : List Char) : (readSign cs).2.length ≤ cs.length := by
  unfold readSign
  split <;> simp

theorem length_readFraction {cs : List Char} {r : Option (List Char) × List Char}
    (h : readFraction cs = some r) : r.2.length ≤ cs.length := by
  unfold readFraction at h
  split at h
  · have := length_spanDigits
    grind
  · grind

theorem length_readExponent {cs : List Char} {r : Option Int × List Char}
    (h : readExponent cs = some r) : r.2.length ≤ cs.length := by
  unfold readExponent at h
  split at h
  all_goals first
    | (next rest =>
        have h1 := length_readSign rest
        have h2 := length_spanDigits (readSign rest).2
        simp only [Option.ite_none_left_eq_some, Option.some.injEq] at h
        obtain ⟨-, rfl⟩ := h
        simp only [List.length_cons]
        omega)
    | (simp only [Option.some.injEq] at h; subst h; simp)

theorem length_readNumber {negative : Bool} {cs : List Char} {r : Json × List Char}
    (h : readNumber negative cs = some r) : r.2.length < cs.length := by
  have hspan := length_spanDigits cs
  unfold readNumber at h
  generalize spanDigits cs = p at h hspan
  obtain ⟨whole, rest⟩ := p
  simp only at h hspan
  split at h
  · simp at h
  · simp at h
  · next hw _ =>
    simp only [Option.bind_eq_bind, Option.bind_eq_some_iff, Option.pure_def, Option.some.injEq] at h
    obtain ⟨f, hf, e, he, v, -, rfl⟩ := h
    have h1 := length_readFraction hf
    have h2 := length_readExponent he
    have h3 : 0 < whole.length := by
      cases hd : whole with
      | nil => exact absurd hd hw
      | cons => simp
    simp only
    omega

theorem length_readWord {cs : List Char} {r : Json × List Char}
    (h : readWord cs = some r) : r.2.length < cs.length := by
  unfold readWord at h
  split at h
  all_goals first
    | contradiction
    | (simp only [Option.some.injEq] at h; subst h; simp only [List.length_cons]; omega)

theorem length_readScalar {c : Char} {cs : List Char} {r : Json × List Char}
    (h : readScalar c cs = some r) : r.2.length < (c :: cs).length := by
  unfold readScalar at h
  split at h
  · obtain ⟨a, ha, rfl⟩ := Option.map_eq_some_iff.1 h
    have := length_readText ha
    simp only [List.length_cons]
    omega
  · split at h
    · have := length_readNumber h
      simp only [List.length_cons]
      omega
    · rcases Option.or_eq_some_iff.1 h with h | ⟨-, h⟩
      · exact length_readWord h
      · exact length_readNumber h

theorem length_nextToken {c : Char} {cs : List Char} {r : Option Token × List Char}
    (h : nextToken c cs = some r) : r.2.length < (c :: cs).length := by
  unfold nextToken at h
  split at h
  · simp only [Option.some.injEq] at h
    subst h
    simp
  · split at h
    · simp only [Option.some.injEq] at h
      subst h
      simp
    · obtain ⟨a, ha, rfl⟩ := Option.map_eq_some_iff.1 h
      exact length_readScalar ha

/-- Tokens of a text; none if some part of it is no token. -/
def tokens : List Char → Option (List Token)
  | [] => some []
  | c :: cs =>
      match _h : nextToken c cs with
      | none => none
      | some (t, rest) => (tokens rest).map (t.toList ++ ·)
termination_by cs => cs.length
decreasing_by exact length_nextToken _h

end EntitySchema.Json
