/-
  EntitySchema.Toml.Reader
  ────────────────────────────────
  **READING A TOML DOCUMENT.**

  The text is read into statements, one per line: headers, and values under
  names.  Arrays may go over several lines and end in a comma, tables in
  braces may not.  Values lie at most 79 deep in arrays and braces, and a
  dotted name has at most 79 parts.
-/
import EntitySchema.Toml.Number
import EntitySchema.Toml.Quoted

namespace EntitySchema.Toml

/-! ## §1. Sequences. -/

/-- Items read one after another.  Reading one also tells whether more
follow; an item that takes no text ends the sequence in a fault. -/
def readMany {α : Type} (item : List Char → Option (α × Bool × List Char)) (cs : List Char) :
    Option (List α × List Char) :=
  match item cs with
  | none => none
  | some (a, more, rest) =>
      if more then
        if rest.length < cs.length then (readMany item rest).map fun r => (a :: r.1, r.2)
        else none
      else some ([a], rest)
termination_by cs.length

/-- Greatest number of values around a value, and of parts of a name. -/
def nestingLimit : Nat := 79

/-! ## §2. Names and blanks. -/

/-- Part of a dotted name, and whether another one follows. -/
def readNamePart (cs : List Char) : Option (String × Bool × List Char) := do
  let (name, rest) ← readName (skipBlanks cs)
  match skipBlanks rest with
  | '.' :: rest => return (name, true, rest)
  | rest => return (name, false, rest)

/-- Dotted name: the parts before the last one, and the last one. -/
def readPath (cs : List Char) : Option (List String × String × List Char) := do
  let (parts, rest) ← readMany readNamePart cs
  let name ← parts.getLast?
  if nestingLimit < parts.length then none else return (parts.dropLast, name, rest)

/-- Text behind blanks, line breaks and comments; the flag says that the
text starts inside a comment. -/
def skipLines : Bool → List Char → List Char
  | _, [] => []
  | _, '\n' :: rest => skipLines false rest
  | _, '\r' :: '\n' :: rest => skipLines false rest
  | true, c :: rest => if isPlain c then skipLines true rest else c :: rest
  | false, c :: rest =>
      if c = '#' then skipLines true rest
      else if isBlank c then skipLines false rest
      else c :: rest

/-! ## §3. Values. -/

/-- Value that holds no others. -/
def readScalar (cs : List Char) : Option (Toml × List Char) :=
  match cs with
  | 't' :: 'r' :: 'u' :: 'e' :: rest => some (.bool true, rest)
  | 'f' :: 'a' :: 'l' :: 's' :: 'e' :: rest => some (.bool false, rest)
  | '"' :: _ | '\'' :: _ => (readQuoted cs).map fun r => (.text (String.ofList r.1), r.2)
  | _ => (readMoment cs).or (readNumber cs)

/-- Item of an array, and whether another one follows. -/
def readItem (value : List Char → Option (Toml × List Char)) (cs : List Char) :
    Option (Toml × Bool × List Char) := do
  let (v, rest) ← value (skipLines false cs)
  match skipLines false rest with
  | ']' :: rest => return (v, false, rest)
  | ',' :: rest =>
      match skipLines false rest with
      | ']' :: rest => return (v, false, rest)
      | rest => return (v, true, rest)
  | _ => none

/-- Array behind its opening bracket. -/
def readArray (value : List Char → Option (Toml × List Char)) (cs : List Char) :
    Option (Toml × List Char) :=
  match skipLines false cs with
  | ']' :: rest => some (.array [], rest)
  | rest => (readMany (readItem value) rest).map fun r => (.array r.1, r.2)

/-- Value under a dotted name. -/
def readEntry (value : List Char → Option (Toml × List Char)) (cs : List Char) :
    Option ((List String × String × Toml) × List Char) := do
  let (path, name, rest) ← readPath cs
  let (v, rest) ← value (skipBlanks (← expect '=' rest))
  return ((path, name, v), skipBlanks rest)

/-- Entry of a table in braces, and whether another one follows. -/
def readInnerEntry (value : List Char → Option (Toml × List Char)) (cs : List Char) :
    Option ((List String × String × Toml) × Bool × List Char) := do
  match ← readEntry value cs with
  | (e, ',' :: rest) => return (e, true, rest)
  | (e, '\x7d' :: rest) => return (e, false, rest)
  | _ => none

/-- Table in braces of entries, unless they contradict each other. -/
def tableOf? (es : List (List String × String × Toml)) : Option Toml :=
  (es.foldlM (fun (t : Entries) e => t.addAt e.1 e.2.1 e.2.2) []).map (.table .braces)

/-- Table behind its opening brace. -/
def readBraces (value : List Char → Option (Toml × List Char)) (cs : List Char) :
    Option (Toml × List Char) :=
  match skipBlanks cs with
  | '\x7d' :: rest => some (.table .braces [], rest)
  | rest => do
      let (es, rest) ← readMany (readInnerEntry value) rest
      return (← tableOf? es, rest)

/-- Value that lies in others, of which `depth` more may be opened. -/
def readValue : (depth : Nat) → List Char → Option (Toml × List Char)
  | depth + 1, '[' :: rest => readArray (readValue depth) rest
  | depth + 1, '\x7b' :: rest => readBraces (readValue depth) rest
  | _, cs => readScalar cs

/-! ## §4. Documents. -/

/-- Text behind the end of a line, which a comment may precede. -/
def readLineEnd (cs : List Char) : Option (List Char) :=
  let rest := match skipBlanks cs with
    | '#' :: rest => rest.dropWhile isPlain
    | rest => rest
  match rest with
  | [] => some []
  | '\n' :: rest => some rest
  | '\r' :: '\n' :: rest => some rest
  | _ => none

/-- Statement of a line that has one. -/
def readStatement (cs : List Char) : Option (Statement × List Char) :=
  match cs with
  | '[' :: '[' :: rest => do
      let (path, name, rest) ← readPath rest
      return (.element path name, ← expect ']' (← expect ']' rest))
  | '[' :: rest => do
      let (path, name, rest) ← readPath rest
      return (.table path name, ← expect ']' rest)
  | _ => do
      let ((path, name, v), rest) ← readEntry (readValue nestingLimit) cs
      return (.entry path name v, rest)

/-- Line with its statement, if it has one, and whether more text follows. -/
def readLine (cs : List Char) : Option (Option Statement × Bool × List Char) := do
  let start := skipBlanks cs
  let (statement, rest) ← match start with
    | [] => some (none, start)
    | '#' :: _ => some (none, start)
    | '\n' :: _ => some (none, start)
    | '\r' :: _ => some (none, start)
    | _ => (readStatement start).map fun r => (some r.1, r.2)
  let rest ← readLineEnd rest
  return (statement, !rest.isEmpty, rest)

/-- Text without the mark that a file may begin with. -/
def skipByteOrderMark : List Char → List Char
  | '\ufeff' :: rest => rest
  | cs => cs

/-- Document that a text spells; none if it spells none. -/
def read? (text : String) : Option Toml := do
  let (lines, _) ← readMany readLine (skipByteOrderMark text.toList)
  ofStatements? (lines.filterMap id)

end EntitySchema.Toml
