/-
  EntitySchema.Text.Case
  ────────────────────────────────
  **FULL CASE MAPPING.**

  Upper and lower case of texts, where one character may become several
  (`ß` becomes `SS`).  Characters map on their own, with one exception:
  a capital sigma that ends a word becomes the final form `ς`.

      upper t — every character by its full upper case
      lower t — every character by its full lower case, sigma by position
-/
import EntitySchema.Text.CaseTable

namespace EntitySchema.Text

/-! ## §1. Characters. -/

/-- Whether a code point lies in one of the closed ranges. -/
def inRanges (ranges : List (Nat × Nat)) (n : Nat) : Bool :=
  ranges.any fun r => r.1 ≤ n && n ≤ r.2

/-- The other case of a character beyond ASCII, by its table. -/
def mapByTable (expansions : List (Nat × List Nat)) (runs : List CaseRun) (c : Char) :
    List Char :=
  match expansions.lookup c.toNat with
  | some codes => codes.map Char.ofNat
  | none =>
      match runs.find? (·.covers c.toNat) with
      | some r => [Char.ofNat (c.toNat + r.shift).toNat]
      | none => [c]

/-- Whether a character belongs to ASCII. -/
def isAscii (c : Char) : Bool := c.toNat < 128

/-- Full upper case of one character. -/
def upperChar (c : Char) : List Char :=
  if isAscii c then [c.toUpper] else mapByTable upperExpansions upperRuns c

/-- Full lower case of one character, away from any word. -/
def lowerChar (c : Char) : List Char :=
  if isAscii c then [c.toLower] else mapByTable lowerExpansions lowerRuns c

/-- Whether a character has a case at all. -/
def isCased (c : Char) : Bool :=
  if isAscii c then c.isAlpha else inRanges casedRanges c.toNat

/-- Whether a character is passed over when a word's end is sought. -/
def isCaseIgnorable (c : Char) : Bool := inRanges caseIgnorableRanges c.toNat

/-! ## §2. Texts. -/

/-- Full upper case of a text. -/
def upper (t : List Char) : List Char := t.flatMap upperChar

/-- Whether the first character that counts is a cased one. -/
def meetsCased (t : List Char) : Bool :=
  match t.dropWhile isCaseIgnorable with
  | [] => false
  | c :: _ => isCased c

/-- Lower case of a text that follows `before`, given in reverse. -/
def lowerAfter (before : List Char) : List Char → List Char
  | [] => []
  | c :: rest =>
      (if c = 'Σ' then
        [if meetsCased before && !meetsCased rest then 'ς' else 'σ']
      else lowerChar c) ++ lowerAfter (c :: before) rest

/-- Full lower case of a text. -/
def lower (t : List Char) : List Char := lowerAfter [] t

/-- First character in upper case, the rest in lower case as a text of its
own. -/
def capital : List Char → List Char
  | [] => []
  | c :: rest => upperChar c ++ lower rest

end EntitySchema.Text
