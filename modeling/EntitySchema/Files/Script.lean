/-
  EntitySchema.Files.Script
  ────────────────────────────────
  **SCRIPTS: WORK ON FILES AS DATA.**

  A script is a tree of requests: it is done, or it asks for one thing and
  goes on with the answer.  The same script runs on a tree of files that is
  a value, for proofs and tests, and on real files.  Each request is one
  step of the system, so the states between two requests are the states in
  which a run may be cut off.
-/
import EntitySchema.Files.Tree
import EntitySchema.Moment

namespace EntitySchema

/-! ## §1. Requests. -/

/-- What stands at a path. -/
inductive FileKind where
  | directory
  | file
  deriving DecidableEq, Repr

/-- What a command leaves behind that ran to its end. -/
structure CommandOutput where
  success : Bool
  /-- All that it printed. -/
  text : ByteArray

/-- One request to the system. -/
inductive Request where
  /-- Text of a file. -/
  | read (p : Path)
  /-- What stands at a path, if anything does. -/
  | find (p : Path)
  | makeDirectory (p : Path)
  /-- Make a file that is empty, emptying the one there. -/
  | create (p : Path)
  /-- Make an empty file unless there is a file. -/
  | touch (p : Path)
  | append (p : Path) (data : ByteArray)
  /-- Have what was written at a path on the disk. -/
  | sync (p : Path)
  | move (source target : Path)
  /-- The current time. -/
  | now
  /-- Run of the version control program on the given words. -/
  | git (words : List String)

/-- What a request is answered with. -/
def Request.Answer : Request → Type
  | .read _ => Except FileFault String
  | .find _ => Option FileKind
  | .makeDirectory _ | .create _ | .touch _ | .append _ _ | .sync _ | .move _ _ =>
      Except FileFault Unit
  | .now => Moment
  | .git _ => Option CommandOutput

/-! ## §2. Scripts. -/

/-- Work that ends with a value. -/
inductive Script (α : Type) where
  | done (a : α)
  | ask (r : Request) (next : r.Answer → Script α)

namespace Script

/-- One script after another. -/
def bind {α β : Type} : Script α → (α → Script β) → Script β
  | .done a, f => f a
  | .ask r next, f => .ask r fun answer => (next answer).bind f

instance : Monad Script where
  pure := .done
  bind := bind

theorem pure_bind {α β : Type} (a : α) (f : α → Script β) : (pure a : Script α) >>= f = f a := rfl

theorem bind_pure {α : Type} (s : Script α) : s >>= pure = s := by
  induction s with
  | done a => rfl
  | ask r next ih => exact congrArg (Script.ask r) (funext ih)

theorem bind_assoc {α β γ : Type} (s : Script α) (f : α → Script β) (g : β → Script γ) :
    s >>= f >>= g = s >>= fun a => f a >>= g := by
  induction s with
  | done a => rfl
  | ask r next ih => exact congrArg (Script.ask r) (funext ih)

instance : LawfulMonad Script := .mk' Script bind_pure pure_bind bind_assoc

/-- Script of a single request. -/
def request (r : Request) : Script r.Answer := .ask r .done

/-- Text of a file. -/
def read (p : Path) : Script (Except FileFault String) := request (.read p)

/-- What stands at a path. -/
def find (p : Path) : Script (Option FileKind) := request (.find p)

/-- A new directory. -/
def makeDirectory (p : Path) : Script (Except FileFault Unit) := request (.makeDirectory p)

/-- An empty file. -/
def create (p : Path) : Script (Except FileFault Unit) := request (.create p)

/-- A file, whatever it holds. -/
def touch (p : Path) : Script (Except FileFault Unit) := request (.touch p)

/-- More data at the end of a file. -/
def appendBytes (p : Path) (data : ByteArray) : Script (Except FileFault Unit) :=
  request (.append p data)

/-- More text at the end of a file. -/
def append (p : Path) (text : String) : Script (Except FileFault Unit) := appendBytes p text.toUTF8

/-- What was written at a path, on the disk. -/
def sync (p : Path) : Script (Except FileFault Unit) := request (.sync p)

/-- A file under another name. -/
def move (source target : Path) : Script (Except FileFault Unit) := request (.move source target)

/-- The current time. -/
def now : Script Moment := request .now

/-- What the version control program prints, if it can be started. -/
def git (words : List String) : Script (Option CommandOutput) := request (.git words)

/-- Whether there is a directory at a path. -/
def isDirectory (p : Path) : Script Bool := do return (← find p) = some .directory

/-- Script that may fail, its fault seen as another one. -/
def orFail {ε φ α : Type} (s : Script (Except ε α)) (cause : ε → φ) : ExceptT φ Script α :=
  .mk do return (← s).mapError cause

end Script

/-! ## §3. Running on a value. -/

/-- A system: its files, what its clock shows at each look, how often it was
looked at, what the version control program does at each call, and how often
it was called.  That program is foreign: it finds the files as they are and
may leave any others in their place.

The system itself is an ideal one.  It refuses no request that its files
admit, and a flush never fails.  `Script.Stops` says how a script may end on
one that fails anywhere. -/
structure Host where
  files : FileTree
  clock : Nat → Moment
  looks : Nat := 0
  git : Nat → List String → FileTree → Option CommandOutput × List (Location × FileNode) :=
    fun _ _ t => (none, t.nodes)
  calls : Nat := 0

namespace Host

/-- The system after an operation on its files, which stay as they are if it
fails. -/
def update (h : Host) : Except FileFault FileTree → Except FileFault Unit × Host
  | .ok files => (.ok (), { h with files })
  | .error e => (.error e, h)

/-- Answer of the version control program, and the system after it. -/
def callGit (h : Host) (words : List String) : Option CommandOutput × Host :=
  let (output, nodes) := h.git h.calls words h.files
  (output, { h with files := { h.files with nodes }, calls := h.calls + 1 })

/-- Kind of a node. -/
def kindOf : FileNode → FileKind
  | .directory => .directory
  | .file _ => .file

/-- Answer to a request, and the system after it.  What is written is there
at once, so a flush has nothing to do. -/
def answer (h : Host) : (r : Request) → r.Answer × Host
  | .read p => (h.files.read p, h)
  | .find p => ((h.files.find p).toOption.map fun found => kindOf found.2, h)
  | .makeDirectory p => h.update (h.files.makeDirectory p)
  | .create p => h.update (h.files.create p)
  | .touch p => h.update (h.files.touch p)
  | .append p data => h.update (h.files.append p data)
  | .sync _ => (.ok (), h)
  | .move source target => h.update (h.files.move source target)
  | .now => (h.clock h.looks, { h with looks := h.looks + 1 })
  | .git words => h.callGit words

end Host

/-- Value that a script ends with, and the system after it. -/
def Script.run {α : Type} : Script α → Host → α × Host
  | .done a, h => (a, h)
  | .ask r next, h => (next (h.answer r).1).run (h.answer r).2

theorem Script.run_pure {α : Type} (a : α) (h : Host) : (pure a : Script α).run h = (a, h) := rfl

/-- A script after another one runs where that one has ended. -/
theorem Script.run_bind {α β : Type} (s : Script α) (f : α → Script β) (h : Host) :
    (s >>= f).run h = (f (s.run h).1).run (s.run h).2 := by
  induction s generalizing h with
  | done a => rfl
  | ask r next ih => exact ih _ _

end EntitySchema
