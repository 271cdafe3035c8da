/-
  EntitySchema.Files.Replacement
  ────────────────────────────────
  **REPLACING A FILE IN ONE STEP.**

  New contents go to a temporary file beside the target and are moved over
  it when they are complete, so the target holds either what it held before
  or all of the new contents.  Missing directories are made on the way.  The
  temporary file is on the disk before it is moved, and the directory after
  that.
-/
import EntitySchema.Files.Script

namespace EntitySchema

/-! ## §1. Directories. -/

/-- Makes a directory, or does nothing if there is one; a fault other than
a missing parent is passed on. -/
def Script.ensureDirectory (p : Path) : Script (Except FileFault Unit) := do
  match ← Script.makeDirectory p with
  | .ok () => return .ok ()
  | .error e => if ← Script.isDirectory p then return .ok () else return .error e

/-- Makes the first of the listed directories, each one lying in the next,
and as many of the others as are missing.  The empty path is the current
directory, which is there. -/
def Script.ensureDirectories : List Path → Script (Except FileFault Unit)
  | [] => return .ok ()
  | p :: outer =>
      if p.isEmpty then return .ok ()
      else do
        match ← Script.makeDirectory p with
        | .ok () => return .ok ()
        | .error .notFound =>
            match ← Script.ensureDirectories outer with
            | .error e => return .error e
            | .ok () => Script.ensureDirectory p
        | .error e => if ← Script.isDirectory p then return .ok () else return .error e

/-! ## §2. Replacement. -/

/-- Why a file could not be replaced. -/
inductive WriteFault where
  | file (e : FileFault)
  /-- The path ends in no name. -/
  | invalidPath (p : Path)
  deriving DecidableEq, Repr

/-- Wording of a write fault. -/
def WriteFault.message : WriteFault → String
  | .file e => "io error: " ++ e.message
  | .invalidPath p => "invalid output path: " ++ p

/-- Temporary file beside a path, if the path ends in a name. -/
def temporaryPath? (p : Path) : Option Path :=
  p.fileName?.map fun name => p.withFileName ("." ++ name ++ ".tmp")

/-- Directory that the file at a path lies in, unless that is the current
one. -/
def enclosing? (p : Path) : Option Path := p.parent?.filter fun d => !String.isEmpty d

/-- Makes the directory that the file at a path lies in. -/
def Script.ensureEnclosing (p : Path) : ExceptT WriteFault Script Unit :=
  match enclosing? p with
  | none => return
  | some directory => (Script.ensureDirectories directory.ancestors).orFail .file

/-- Has the directory on the disk that the file at a path lies in. -/
def Script.syncEnclosing (p : Path) : ExceptT WriteFault Script Unit :=
  match enclosing? p with
  | none => return
  | some directory => (Script.sync directory).orFail .file

/-- Puts data to a path, by way of the temporary file beside it. -/
def Script.putBytes (p : Path) (data : ByteArray) : ExceptT WriteFault Script Unit :=
  match temporaryPath? p with
  | none => throw (.invalidPath p)
  | some temporary => do
      (Script.create temporary).orFail .file
      (Script.appendBytes temporary data).orFail .file
      (Script.sync temporary).orFail .file
      (Script.move temporary p).orFail .file
      Script.syncEnclosing p

/-- Puts a text to a path. -/
def Script.putFile (p : Path) (text : String) : ExceptT WriteFault Script Unit :=
  Script.putBytes p text.toUTF8

/-- Replaces the file at a path by data. -/
def Script.replaceBytes (p : Path) (data : ByteArray) : ExceptT WriteFault Script Unit := do
  Script.ensureEnclosing p
  Script.putBytes p data

/-- Replaces the file at a path by a text. -/
def Script.replaceFile (p : Path) (text : String) : ExceptT WriteFault Script Unit :=
  Script.replaceBytes p text.toUTF8

end EntitySchema
