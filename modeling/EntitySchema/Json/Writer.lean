/-
  EntitySchema.Json.Writer
  ────────────────────────────────
  **TEXTS OF DOCUMENTS.**

  Two layouts of the same document: on one line without blanks, and over
  several lines with two blanks per level, where an empty container stays
  on its line.  Texts escape quotes, backslashes and control characters
  below the blank and nothing else.
-/
import EntitySchema.Json.Value
import EntitySchema.Decimal.Shortest

namespace EntitySchema.Json

/-! ## §1. Scalars. -/

/-- Two hexadecimal digits of a control character. -/
def controlCode (n : Nat) : List Char := [Nat.digitChar (n / 16), Nat.digitChar (n % 16)]

/-- Written form of a character inside quotes. -/
def escapeChar (c : Char) : List Char :=
  if c = '"' then ['\\', '"']
  else if c = '\\' then ['\\', '\\']
  else if c = '\n' then ['\\', 'n']
  else if c = '\r' then ['\\', 'r']
  else if c = '\t' then ['\\', 't']
  else if c = '\x08' then ['\\', 'b']
  else if c = '\x0c' then ['\\', 'f']
  else if c.toNat < 0x20 then ['\\', 'u', '0', '0'] ++ controlCode c.toNat
  else [c]

/-- Text between quotes. -/
def quoted (s : String) : String :=
  String.ofList ('"' :: s.toList.flatMap escapeChar ++ ['"'])

/-- Text of a truth value. -/
def boolText (b : Bool) : String := if b then "true" else "false"

/-! ## §2. On one line. -/

mutual

/-- Document on one line. -/
def compact : Json → String
  | .null => "null"
  | .bool b => boolText b
  | .int n => toString n
  | .float x => x.render
  | .text s => quoted s
  | .array vs => "[" ++ ",".intercalate (compactItems vs) ++ "]"
  | .object ms => "\x7b" ++ ",".intercalate (compactMembers ms) ++ "\x7d"

/-- Items of an array, each on one line. -/
def compactItems : List Json → List String
  | [] => []
  | v :: vs => v.compact :: compactItems vs

/-- Members of an object, each on one line. -/
def compactMembers : List (String × Json) → List String
  | [] => []
  | (k, v) :: ms => (quoted k ++ ":" ++ v.compact) :: compactMembers ms

end

/-! ## §3. Over several lines. -/

/-- Line break and the blanks of a level. -/
def lineBreak (level : Nat) : String := "\n" ++ String.ofList (List.replicate (2 * level) ' ')

/-- Container over several lines; an empty one stays on its line. -/
def block (opening closing : String) (level : Nat) : List String → String
  | [] => opening ++ closing
  | parts =>
      opening ++ lineBreak (level + 1) ++ ("," ++ lineBreak (level + 1)).intercalate parts
        ++ lineBreak level ++ closing

mutual

/-- Document over several lines, starting at a level. -/
def prettyAt (level : Nat) : Json → String
  | .null => "null"
  | .bool b => boolText b
  | .int n => toString n
  | .float x => x.render
  | .text s => quoted s
  | .array vs => block "[" "]" level (prettyItems (level + 1) vs)
  | .object ms => block "\x7b" "\x7d" level (prettyMembers (level + 1) ms)

/-- Items of an array at a level. -/
def prettyItems (level : Nat) : List Json → List String
  | [] => []
  | v :: vs => v.prettyAt level :: prettyItems level vs

/-- Members of an object at a level. -/
def prettyMembers (level : Nat) : List (String × Json) → List String
  | [] => []
  | (k, v) :: ms => (quoted k ++ ": " ++ v.prettyAt level) :: prettyMembers level ms

end

/-- Document over several lines. -/
def pretty (v : Json) : String := v.prettyAt 0

/-- Contents of a file that holds the document: over several lines, with a
line break at its end. -/
def fileText (v : Json) : String := v.pretty ++ "\n"

end EntitySchema.Json
