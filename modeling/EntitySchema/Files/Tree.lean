/-
  EntitySchema.Files.Tree
  ────────────────────────────────
  **A TREE OF FILES.**

  Directories and files by location, seen through `get?`, with the
  operations that a run needs.  A path is walked from the root or from the
  current directory; every name on the way must be a directory, a dot stays
  where it is, two dots go up.  The first step that fails decides the fault.

      makeDirectory  the last name must be new
      create         an empty file, or an existing one emptied
      touch          an empty file unless there is one
      append         data behind what a file holds
      move           a file under another name, in place of the file there
-/
import EntitySchema.Path

namespace EntitySchema

/-! ## §1. Faults. -/

/-- Why a file operation fails. -/
inductive FileFault where
  | notFound
  | alreadyExists
  | notDirectory
  | isDirectory
  | nameTooLong
  | busy
  /-- The path holds a zero character. -/
  | zeroInPath
  /-- The file holds no text. -/
  | notText
  /-- Any other reason, in the words of the system. -/
  | other (reason : String)
  deriving DecidableEq, Repr

/-- Wording of a system fault with its number. -/
def systemMessage (reason : String) (number : Nat) : String :=
  reason ++ " (os error " ++ toString number ++ ")"

/-- Wording of a file fault. -/
def FileFault.message : FileFault → String
  | .notFound => systemMessage "No such file or directory" 2
  | .alreadyExists => systemMessage "File exists" 17
  | .notDirectory => systemMessage "Not a directory" 20
  | .isDirectory => systemMessage "Is a directory" 21
  | .nameTooLong => systemMessage "File name too long" 36
  | .busy => systemMessage "Device or resource busy" 16
  | .zeroInPath => "file name contained an unexpected NUL byte"
  | .notText => "stream did not contain valid UTF-8"
  | .other reason => reason

/-! ## §2. Trees. -/

/-- A place in a tree: the names on the way from the root. -/
abbrev Location := List String

/-- What stands at a location. -/
inductive FileNode where
  | directory
  | file (contents : ByteArray)

/-- Whether a node is a directory. -/
def FileNode.isDirectory : FileNode → Bool
  | .directory => true
  | .file _ => false

/-- Directories and files by location, and the current directory. -/
structure FileTree where
  nodes : List (Location × FileNode)
  current : Location

namespace FileTree

theorem lookup_filter_ne {l m : Location} (h : m ≠ l) (nodes : List (Location × FileNode)) :
    (nodes.filter (·.1 != l)).lookup m = nodes.lookup m := by
  induction nodes with
  | nil => rfl
  | cons e rest ih => grind

theorem lookup_filter_self (l : Location) (nodes : List (Location × FileNode)) :
    (nodes.filter (·.1 != l)).lookup l = none := by
  induction nodes with
  | nil => rfl
  | cons e rest ih => grind

/-- What stands at a location; the root is a directory. -/
def get? (t : FileTree) (l : Location) : Option FileNode :=
  if l = [] then some .directory else t.nodes.lookup l

/-- The tree with something else at a location. -/
def set (t : FileTree) (l : Location) (n : FileNode) : FileTree :=
  { t with nodes := (l, n) :: t.nodes.filter (·.1 != l) }

/-- The tree with nothing at a location. -/
def erase (t : FileTree) (l : Location) : FileTree :=
  { t with nodes := t.nodes.filter (·.1 != l) }

theorem get?_set (t : FileTree) (l m : Location) (n : FileNode) :
    (t.set l n).get? m = if m = l ∧ m ≠ [] then some n else t.get? m := by
  unfold get? set
  by_cases hm : m = []
  · simp [hm]
  · rcases Decidable.em (m = l) with rfl | hl
    · simp [hm]
    · simp [hm, hl, List.lookup_cons, beq_false_of_ne hl, lookup_filter_ne hl]

theorem get?_erase (t : FileTree) (l m : Location) :
    (t.erase l).get? m = if m = l ∧ m ≠ [] then none else t.get? m := by
  unfold get? erase
  by_cases hm : m = []
  · simp [hm]
  · rcases Decidable.em (m = l) with rfl | hl
    · simp [hm, lookup_filter_self]
    · simp [hm, hl, lookup_filter_ne hl]

/-! ## §3. Walking. -/

/-- Greatest length of a name, in bytes. -/
def nameLimit : Nat := 255

/-- Greatest length of a path, in bytes. -/
def pathLimit : Nat := 4095

/-- Names of a path in order, dots included. -/
def names (p : Path) : List String :=
  ((Path.pieces p.toList).filter (!·.isEmpty)).map String.ofList

/-- Whether a path demands a directory by a slash at its end. -/
def endsInSlash (p : Path) : Bool := p.toList.getLast? = some '/'

/-- Fault of a path whatever the tree holds. -/
def checkPath (p : Path) : Except FileFault Unit :=
  if p.toList.contains '\x00' then .error .zeroInPath
  else if p.isEmpty then .error .notFound
  else if pathLimit < p.utf8ByteSize then .error .nameTooLong
  else .ok ()

/-- Location that a name leads to. -/
def step (l : Location) (name : String) : Except FileFault Location :=
  if name = "." then .ok l
  else if name = ".." then .ok l.dropLast
  else if nameLimit < name.utf8ByteSize then .error .nameTooLong
  else .ok (l ++ [name])

/-- Directory that names lead to. -/
def descend (t : FileTree) (l : Location) : List String → Except FileFault Location
  | [] => .ok l
  | name :: rest => do
      let next ← step l name
      match t.get? next with
      | none => .error .notFound
      | some (.file _) => .error .notDirectory
      | some .directory => t.descend next rest

/-- Location where the walk along a path starts. -/
def origin (t : FileTree) (p : Path) : Location := if p.isAbsolute then [] else t.current

/-- Location of a path and what stands there. -/
def find (t : FileTree) (p : Path) : Except FileFault (Location × FileNode) := do
  checkPath p
  match (names p).getLast? with
  | none => return ([], .directory)
  | some name =>
      let l ← step (← t.descend (t.origin p) (names p).dropLast) name
      match t.get? l with
      | none => .error .notFound
      | some .directory => return (l, .directory)
      | some (.file c) => if endsInSlash p then .error .notDirectory else return (l, .file c)

/-- Place of an entry that a path names: its directory and its name; the root
and a path that ends in dots give no name. -/
def place (t : FileTree) (p : Path) : Except FileFault (Location × Option String) := do
  checkPath p
  match (names p).getLast? with
  | none => return ([], none)
  | some name =>
      let d ← t.descend (t.origin p) (names p).dropLast
      if name = "." || name = ".." then return (d, none)
      else return (d, some name)

/-! ## §4. Operations. -/

/-- Contents of the file at a path. -/
def contents (t : FileTree) (p : Path) : Except FileFault ByteArray := do
  match ← t.find p with
  | (_, .directory) => .error .isDirectory
  | (_, .file c) => return c

/-- Text of the file at a path. -/
def read (t : FileTree) (p : Path) : Except FileFault String := do
  match String.fromUTF8? (← t.contents p) with
  | some s => return s
  | none => .error .notText

/-- The tree with a new directory. -/
def makeDirectory (t : FileTree) (p : Path) : Except FileFault FileTree := do
  match ← t.place p with
  | (_, none) => .error .alreadyExists
  | (d, some name) =>
      let l ← step d name
      if (t.get? l).isSome then .error .alreadyExists else return t.set l .directory

/-- Location of a file to be opened for writing. -/
def openForWriting (t : FileTree) (p : Path) : Except FileFault Location := do
  match ← t.place p with
  | (_, none) => .error .isDirectory
  | (d, some name) =>
      if endsInSlash p then .error .isDirectory
      else
        let l ← step d name
        if (t.get? l).any (·.isDirectory) then .error .isDirectory else return l

/-- The tree with an empty file. -/
def create (t : FileTree) (p : Path) : Except FileFault FileTree := do
  return t.set (← t.openForWriting p) (.file .empty)

/-- The tree with a file, an empty one unless there is one. -/
def touch (t : FileTree) (p : Path) : Except FileFault FileTree := do
  let l ← t.openForWriting p
  if (t.get? l).isSome then return t else return t.set l (.file .empty)

/-- The tree with more data at the end of a file. -/
def append (t : FileTree) (p : Path) (data : ByteArray) : Except FileFault FileTree := do
  match ← t.find p with
  | (_, .directory) => .error .isDirectory
  | (l, .file c) => return t.set l (.file (c ++ data))

/-- The tree with a file under another name.  Directories are not moved. -/
def move (t : FileTree) (source target : Path) : Except FileFault FileTree := do
  match ← t.place source, ← t.place target with
  | (d, some name), (e, some other) =>
      let l ← step d name
      match t.get? l with
      | none => .error .notFound
      | some .directory => .error .isDirectory
      | some (.file c) =>
          let m ← step e other
          if endsInSlash source || endsInSlash target then .error .notDirectory
          else if (t.get? m).any (·.isDirectory) then .error .isDirectory
          else return (t.erase l).set m (.file c)
  | _, _ => .error .busy

end FileTree
end EntitySchema
