/-
  EntitySchema.Main
  ────────────────────────────────
  **THE OUTER LAYER.**

  Scripts carried out on real files, and the entry of the program.  Every
  request is one call to the system; what follows from its answer is
  decided by the script.  No other program is started from here: version
  control answers as where it is not installed.
-/
import EntitySchema.Program

namespace EntitySchema

/-! ## §1. Answers of the system. -/

/-- Fault that an error of the system means. -/
def FileFault.ofError : IO.Error → FileFault
  | .noFileOrDirectory _ _ _ => .notFound
  | .alreadyExists _ _ _ => .alreadyExists
  | .inappropriateType _ _ details =>
      if details = "Is a directory" then .isDirectory else .notDirectory
  | .resourceBusy _ _ => .busy
  | .invalidArgument _ _ details =>
      if details = "File name too long" then .nameTooLong else .other details
  | e => .other (toString e)

/-- Carries out an action of the system, its error being part of the
answer. -/
def attempt {α : Type} (action : IO α) : IO (Except FileFault α) := do
  try return .ok (← action)
  catch e => return .error (.ofError e)

/-- Text of bytes. -/
def textOfBytes (bytes : ByteArray) : Except FileFault String :=
  match String.fromUTF8? bytes with
  | some text => .ok text
  | none => .error .notText

/-- Moment at which a fresh temporary file was made. -/
def currentMoment : IO Moment := do
  let (_, path) ← IO.FS.createTempFile
  let modified := (← path.metadata).modified
  IO.FS.removeFile path
  return ⟨modified.sec.toNat * 1000000000 + modified.nsec.toNat⟩

/-- What stands at a path. -/
def kindAt (p : Path) : IO (Option FileKind) := do
  try
    let found ← (System.mkFilePath [p]).metadata
    return some (match found.type with
      | .dir => .directory
      | _ => .file)
  catch _ => return none

/-- Answer of the system to a request. -/
def Request.perform : (r : Request) → IO r.Answer
  | .read p => do return (← attempt (IO.FS.readBinFile p)).bind textOfBytes
  | .find p => kindAt p
  | .makeDirectory p => attempt (IO.FS.createDir p)
  | .create p => attempt (IO.FS.writeBinFile p .empty)
  | .touch p => attempt do let _ ← IO.FS.Handle.mk p .append
  | .append p data => attempt do (← IO.FS.Handle.mk p .append).write data
  | .sync p => attempt do (← IO.FS.Handle.mk p .read).flush
  | .move source target => attempt (IO.FS.rename source target)
  | .now => currentMoment
  | .git _ => return none

/-- Carries out a script. -/
def Script.perform {α : Type} : Script α → IO α
  | .done a => return a
  | .ask r next => do (next (← r.perform)).perform

/-! ## §2. The entry. -/

/-- Hexadecimal text of a byte. -/
def hexByte (b : UInt8) : String :=
  String.ofList [Nat.digitChar (b.toNat / 16), Nat.digitChar (b.toNat % 16)]

/-- Identifier made of sixteen random bytes, marked as such. -/
def identifierOf (bytes : List UInt8) : String :=
  let marked := bytes.mapIdx fun i b =>
    if i = 6 then b &&& 0x0f ||| 0x40 else if i = 8 then b &&& 0x3f ||| 0x80 else b
  let part (start length : Nat) := String.join (((marked.drop start).take length).map hexByte)
  "-".intercalate [part 0 4, part 4 2, part 6 2, part 8 2, part 10 6]

end EntitySchema

open EntitySchema in
/-- The program. -/
def main (words : List String) : IO UInt32 := do
  let runId := identifierOf (← IO.getRandomBytes 16).toList
  let result ← (program .plain runId words).perform
  IO.print result.output
  if let some e := result.fault then IO.eprintln (e.message .plain)
  return result.exitCode.toUInt32
