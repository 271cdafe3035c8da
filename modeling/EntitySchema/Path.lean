/-
  EntitySchema.Path
  ────────────────────────────────
  **PATHS.**

  A path is a text with slashes.  Its components are what lies between
  them: empty ones and dots do not count, except for a root slash and a
  dot at the very beginning.  Nothing is resolved: two dots stay what they
  are.

      join         one slash between, unless the directory is empty or
                   ends in one; an absolute path replaces the directory
      relativeTo   what follows the components of the directory
-/
namespace EntitySchema

/-- A path, as written. -/
abbrev Path := String

namespace Path

/-! ## §1. Components. -/

/-- One step of a path. -/
inductive Component where
  | root
  | current
  | parent
  | normal (name : String)
  deriving DecidableEq, Repr

/-- Pieces of a text between slashes. -/
def pieces : List Char → List (List Char)
  | [] => [[]]
  | c :: rest =>
      if c = '/' then [] :: pieces rest
      else match pieces rest with
        | [] => [[c]]
        | p :: ps => (c :: p) :: ps

/-- Component of a piece inside a path; empty pieces and dots are none. -/
def component? (piece : List Char) : Option Component :=
  if piece = [] || piece = ['.'] then none
  else if piece = ['.', '.'] then some .parent
  else some (.normal (String.ofList piece))

/-- Whether a path starts at the root. -/
def isAbsolute (p : Path) : Bool := p.toList.head? = some '/'

/-- Component at the very beginning of a path, if it is one that only stands
there, and the text behind it. -/
def leading (cs : List Char) : Option Component × List Char :=
  match cs with
  | '/' :: rest => (some .root, rest)
  | ['.'] => (some .current, [])
  | '.' :: '/' :: rest => (some .current, '/' :: rest)
  | _ => (none, cs)

/-- Components of a path. -/
def components (p : Path) : List Component :=
  let (first, rest) := leading p.toList
  first.toList ++ (pieces rest).filterMap component?

/-! ## §2. Joining. -/

/-- Path below a directory. -/
def join (directory path : Path) : Path :=
  if path.isAbsolute then path
  else if directory.isEmpty || directory.toList.getLast? = some '/' then directory ++ path
  else directory ++ "/" ++ path

/-! ## §3. Ends of a path. -/

/-- Text without the pieces at its end that are no components. -/
def trimEnd (cs : List Char) : List Char :=
  let ps := (pieces cs).reverse.dropWhile fun p => (component? p).isNone
  ['/'].intercalate ps.reverse

/-- Text without the pieces at its beginning that are no components. -/
def trimStart (cs : List Char) : List Char :=
  let ps := (pieces cs).dropWhile fun p => (component? p).isNone
  ['/'].intercalate ps

/-- Text of a path split into its leading component and the trimmed rest. -/
def split (p : Path) : List Char × List Char :=
  match leading p.toList with
  | (some .root, rest) => (['/'], trimEnd rest)
  | (some .current, rest) => (['.'], trimEnd rest)
  | (_, rest) => ([], trimEnd rest)

/-- Name at the end of a path, if it ends in a name. -/
def fileName? (p : Path) : Option String :=
  match p.components.getLast? with
  | some (.normal name) => some name
  | _ => none

/-- Text before the last piece and its slash. -/
def dropLastPiece (cs : List Char) : List Char :=
  ['/'].intercalate (pieces cs).dropLast

/-- Path without its last component; the root and the empty path have
none. -/
def parent? (p : Path) : Option Path :=
  match p.components.getLast? with
  | none | some .root => none
  | some .current => some ""
  | some _ =>
      let (first, body) := p.split
      some (String.ofList (match first, trimEnd (dropLastPiece body) with
        | ['.'], [] => ['.']
        | ['.'], rest => '.' :: rest
        | first, rest => first ++ rest))

/-- Path with another name at its end. -/
def withFileName (p : Path) (name : String) : Path :=
  match p.fileName?, p.parent? with
  | some _, some directory => join directory name
  | _, _ => join p name

/-- Ancestors of a path, itself first. -/
def ancestorsUpTo : Nat → Path → List Path
  | 0, p => [p]
  | n + 1, p =>
      match p.parent? with
      | none => [p]
      | some q => p :: ancestorsUpTo n q

/-- Path, its parent, and so on. -/
def ancestors (p : Path) : List Path := ancestorsUpTo p.components.length p

/-! ## §4. Relative paths. -/

/-- Text behind the first `n` components of a path's body. -/
def dropComponents : Nat → List (List Char) → List (List Char)
  | 0, ps => ps
  | _, [] => []
  | n + 1, p :: ps =>
      if (component? p).isSome then dropComponents n ps else dropComponents (n + 1) ps

/-- Text of a path behind its first `n` components. -/
def textBehind (p : Path) (n : Nat) : Path :=
  let (first, body) := p.split
  if n = 0 then String.ofList (first ++ body)
  else
    let skipped := if first.isEmpty then n else n - 1
    String.ofList (trimStart (['/'].intercalate (dropComponents skipped (pieces body))))

/-- Path behind a directory, or the path itself if it lies elsewhere. -/
def relativeTo (directory path : Path) : Path :=
  let ds := components directory
  if ds.isPrefixOf path.components then path.textBehind ds.length else path

end Path
end EntitySchema
