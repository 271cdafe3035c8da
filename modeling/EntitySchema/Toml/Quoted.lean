/-
  EntitySchema.Toml.Quoted
  ────────────────────────────────
  **QUOTED TEXTS AND NAMES.**

  Texts in double quotes know escapes, texts in single quotes do not;
  either kind has a form over several lines between three quotes.  There a
  line break right behind the opening quotes does not count, a break with a
  carriage return counts as a plain one, and up to two quotes may precede
  the closing three.

  Each reader takes the text behind the opening quotes and gives the
  characters with what follows the closing ones.
-/
import EntitySchema.Text.Hex

namespace EntitySchema.Toml

open EntitySchema.Text (hexNumber? charOfCode?)

/-! ## §1. Characters. -/

/-- Whether a character separates words of a line. -/
def isBlank (c : Char) : Bool := c = ' ' || c = '\t'

/-- Whether a character may stand in a line of text: no control character
but the tabulator. -/
def isPlain (c : Char) : Bool := c = '\t' || (0x20 ≤ c.toNat && c.toNat ≠ 0x7f)

/-- Text behind its blanks. -/
def skipBlanks (cs : List Char) : List Char := cs.dropWhile isBlank

/-- Text behind a line break at its front, if there is one. -/
def skipBreak : List Char → List Char
  | '\n' :: rest => rest
  | '\r' :: '\n' :: rest => rest
  | cs => cs

/-! ## §2. Escapes. -/

/-- Character of hexadecimal digits. -/
def charOfHex? (ds : List Char) : Option Char := (hexNumber? ds).bind charOfCode?

/-- Character that the text behind a backslash stands for. -/
def readEscape : List Char → Option (Char × List Char)
  | 'b' :: rest => some ('\x08', rest)
  | 't' :: rest => some ('\t', rest)
  | 'n' :: rest => some ('\n', rest)
  | 'f' :: rest => some ('\x0c', rest)
  | 'r' :: rest => some ('\r', rest)
  | '"' :: rest => some ('"', rest)
  | '\\' :: rest => some ('\\', rest)
  | 'u' :: a :: b :: c :: d :: rest => (charOfHex? [a, b, c, d]).map (·, rest)
  | 'U' :: a :: b :: c :: d :: e :: f :: g :: h :: rest =>
      (charOfHex? [a, b, c, d, e, f, g, h]).map (·, rest)
  | _ => none

theorem length_readEscape {cs : List Char} {r : Char × List Char}
    (h : readEscape cs = some r) : r.2.length < cs.length := by
  unfold readEscape at h
  split at h
  all_goals first
    | (simp only [Option.some.injEq] at h; subst h; simp)
    | (obtain ⟨a, -, rfl⟩ := Option.map_eq_some_iff.1 h; simp only [List.length_cons]; omega)
    | simp at h

/-! ## §3. Texts in one line. -/

/-- Text in double quotes. -/
def readBasic : List Char → Option (List Char × List Char)
  | [] => none
  | '"' :: rest => some ([], rest)
  | '\\' :: rest =>
      match _h : readEscape rest with
      | none => none
      | some (c, rest) => (readBasic rest).map fun r => (c :: r.1, r.2)
  | c :: rest =>
      if isPlain c then (readBasic rest).map fun r => (c :: r.1, r.2) else none
termination_by cs => cs.length
decreasing_by
  · have := length_readEscape _h
    simp only [List.length_cons] at *
    omega
  · simp

/-- Text in single quotes. -/
def readLiteral : List Char → Option (List Char × List Char)
  | [] => none
  | '\'' :: rest => some ([], rest)
  | c :: rest => if isPlain c then (readLiteral rest).map fun r => (c :: r.1, r.2) else none

/-! ## §4. Texts over several lines. -/

/-- Text behind blanks and line breaks. -/
def skipSpace : List Char → List Char
  | '\n' :: rest => skipSpace rest
  | '\r' :: '\n' :: rest => skipSpace rest
  | c :: rest => if isBlank c then skipSpace rest else c :: rest
  | [] => []

theorem length_skipSpace (cs : List Char) : (skipSpace cs).length ≤ cs.length := by
  fun_induction skipSpace cs <;> grind

/-- Text that a backslash at the end of a line continues with. -/
def continuation? (cs : List Char) : Option (List Char) :=
  match skipBlanks cs with
  | '\n' :: rest => some (skipSpace rest)
  | '\r' :: '\n' :: rest => some (skipSpace rest)
  | _ => none

theorem length_continuation? {cs rest : List Char} (h : continuation? cs = some rest) :
    rest.length < cs.length := by
  have hb : (skipBlanks cs).length ≤ cs.length := (List.dropWhile_sublist _).length_le
  unfold continuation? at h
  split at h
  all_goals first
    | (next hs => rw [hs] at hb; simp only [Option.some.injEq] at h; subst h
                  have := length_skipSpace ‹_›
                  simp only [List.length_cons] at hb; omega)
    | simp at h

/-- Text between three double quotes. -/
def readBasicLines : List Char → Option (List Char × List Char)
  | [] => none
  | '"' :: '"' :: '"' :: '"' :: '"' :: rest => some (['"', '"'], rest)
  | '"' :: '"' :: '"' :: '"' :: rest => some (['"'], rest)
  | '"' :: '"' :: '"' :: rest => some ([], rest)
  | '"' :: rest => (readBasicLines rest).map fun r => ('"' :: r.1, r.2)
  | '\n' :: rest => (readBasicLines rest).map fun r => ('\n' :: r.1, r.2)
  | '\r' :: '\n' :: rest => (readBasicLines rest).map fun r => ('\n' :: r.1, r.2)
  | '\\' :: rest =>
      match _hc : continuation? rest with
      | some rest => readBasicLines rest
      | none =>
          match _he : readEscape rest with
          | none => none
          | some (c, rest) => (readBasicLines rest).map fun r => (c :: r.1, r.2)
  | c :: rest =>
      if isPlain c then (readBasicLines rest).map fun r => (c :: r.1, r.2) else none
termination_by cs => cs.length
decreasing_by
  · simp
  · simp
  · simp only [List.length_cons]; omega
  · have := length_continuation? _hc
    simp only [List.length_cons] at *
    omega
  · have := length_readEscape _he
    simp only [List.length_cons] at *
    omega
  · simp

/-- Text between three single quotes. -/
def readLiteralLines : List Char → Option (List Char × List Char)
  | [] => none
  | '\'' :: '\'' :: '\'' :: '\'' :: '\'' :: rest => some (['\'', '\''], rest)
  | '\'' :: '\'' :: '\'' :: '\'' :: rest => some (['\''], rest)
  | '\'' :: '\'' :: '\'' :: rest => some ([], rest)
  | '\n' :: rest => (readLiteralLines rest).map fun r => ('\n' :: r.1, r.2)
  | '\r' :: '\n' :: rest => (readLiteralLines rest).map fun r => ('\n' :: r.1, r.2)
  | c :: rest =>
      if isPlain c then (readLiteralLines rest).map fun r => (c :: r.1, r.2) else none

/-- Text in any quotes. -/
def readQuoted : List Char → Option (List Char × List Char)
  | '"' :: '"' :: '"' :: rest => readBasicLines (skipBreak rest)
  | '"' :: rest => readBasic rest
  | '\'' :: '\'' :: '\'' :: rest => readLiteralLines (skipBreak rest)
  | '\'' :: rest => readLiteral rest
  | _ => none

/-! ## §5. Names. -/

/-- Whether a character may stand in a name without quotes. -/
def isNameChar (c : Char) : Bool := c.isAlphanum || c = '_' || c = '-'

/-- Name, with quotes or without. -/
def readName : List Char → Option (String × List Char)
  | '"' :: rest => (readBasic rest).map fun r => (String.ofList r.1, r.2)
  | '\'' :: rest => (readLiteral rest).map fun r => (String.ofList r.1, r.2)
  | cs =>
      if (cs.takeWhile isNameChar).isEmpty then none
      else some (String.ofList (cs.takeWhile isNameChar), cs.dropWhile isNameChar)

end EntitySchema.Toml
