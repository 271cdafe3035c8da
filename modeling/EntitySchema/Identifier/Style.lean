/-
  EntitySchema.Identifier.Style
  ────────────────────────────────
  **NAMES DERIVED FROM A NAME.**

  One declared name gives every other spelling the program needs: the
  storage name, the sort key, the type name, the member name, the last
  segment of a qualified type name, and the plural.

      snake    `createdAt` → `created_at`
      sortKey  `createdAt` → `CREATED_AT`
      pascal   `created_at` → `CreatedAt`
      camel    `created_at` → `createdAt`
      plural   `Category` → `Categories`
-/
import EntitySchema.Identifier.Words

namespace EntitySchema.Identifier

open EntitySchema.Text

/-! ## §1. Case styles. -/

/-- Words joined by a separator. -/
def joinWords (separator : List Char) (ws : List (List Char)) : String :=
  String.ofList (separator.intercalate ws)

/-- Small words joined by underscores. -/
def snake (name : String) : String :=
  joinWords ['_'] ((words name.toList).map lower)

/-- Capital words joined by underscores: the key a result is sorted by. -/
def sortKey (name : String) : String :=
  joinWords ['_'] ((words name.toList).map upper)

/-- Capitalised words run together. -/
def pascal (name : String) : String :=
  joinWords [] ((words name.toList).map capital)

/-- Words run together, all but the first one capitalised. -/
def camel (name : String) : String :=
  match words name.toList with
  | [] => ""
  | w :: ws => joinWords [] (lower w :: ws.map capital)

/-! ## §2. Segments and plurals. -/

/-- What follows the last dot of a qualified type name. -/
def shortTypeName (typeName : String) : String :=
  String.ofList (typeName.toList.reverse.takeWhile (· != '.')).reverse

/-- Whether a small letter is a vowel. -/
def isVowel (c : Char) : Bool := c ∈ ['a', 'e', 'i', 'o', 'u']

/-- Ending that the plural adds to a name, after dropping as many letters as
the first component says.  Only ASCII letters are compared without regard
to case. -/
def pluralEnding (name : List Char) : Nat × List Char :=
  match name.reverse.map Char.toLower with
  | 'y' :: rest => if rest.head?.any isVowel then (0, ['s']) else (1, ['i', 'e', 's'])
  | 's' :: _ | 'x' :: _ | 'z' :: _ => (0, ['e', 's'])
  | 'h' :: 'c' :: _ | 'h' :: 's' :: _ => (0, ['e', 's'])
  | _ => (0, ['s'])

/-- Plural of an English noun by its ending. -/
def plural (name : String) : String :=
  let (dropped, ending) := pluralEnding name.toList
  String.ofList (name.toList.take (name.toList.length - dropped) ++ ending)

end EntitySchema.Identifier
