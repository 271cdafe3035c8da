/-
  EntitySchema.Source.Literal
  ────────────────────────────────
  **GO STRING LITERALS.**

  An interpreted literal escapes quotes, backslashes and the three usual
  control characters.  A raw literal stands between backquotes and cannot
  hold one, so a text with a backquote falls back to the interpreted form
  unless it is a raw literal already.
-/
namespace EntitySchema.Source

/-! ## §1. Interpreted literals. -/

/-- Written form of a character inside an interpreted literal. -/
def escapeChar (c : Char) : List Char :=
  if c = '"' then ['\\', '"']
  else if c = '\\' then ['\\', '\\']
  else if c = '\n' then ['\\', 'n']
  else if c = '\r' then ['\\', 'r']
  else if c = '\t' then ['\\', 't']
  else [c]

/-- Interpreted literal of a text. -/
def quote (s : String) : String := String.ofList ('"' :: s.toList.flatMap escapeChar ++ ['"'])

/-- Interpreted literals of several texts, separated by commas. -/
def quoteAll (ss : List String) : String := ", ".intercalate (ss.map quote)

/-! ## §2. Raw literals. -/

/-- Character that encloses a raw literal. -/
def backquote : Char := '\x60'

/-- Whether a text is a raw literal as it stands. -/
def isRawLiteral : List Char → Bool
  | [] => false
  | c :: rest =>
      c = backquote && rest.getLast? = some backquote && !rest.dropLast.contains backquote

/-- Literal of a struct tag. -/
def raw (s : String) : String :=
  if isRawLiteral s.toList then s
  else if s.toList.contains backquote then quote s
  else String.ofList (backquote :: s.toList ++ [backquote])

end EntitySchema.Source
