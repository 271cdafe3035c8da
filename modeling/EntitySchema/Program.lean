/-
  EntitySchema.Program
  ────────────────────────────────
  **THE PROGRAM.**

  From the words of the command line to a script, and from its end to what
  the caller sees: an exit code, a text to print, and the fault if the work
  failed.  How a fault is shown to the caller is left to the outer layer.

      0  the work is done        1  the work failed
      2  the command line is wrong
-/
import EntitySchema.CommandLine

namespace EntitySchema

/-- What the caller of the program sees. -/
structure ProgramResult where
  exitCode : Nat
  output : String := ""
  fault : Option RunFault := none

namespace ProgramResult

/-- The work is done, and a text is to be printed. -/
def printed (output : String) : ProgramResult := ⟨0, output, none⟩

/-- Result of work that prints nothing. -/
def ofWork : Except RunFault Unit → ProgramResult
  | .ok () => ⟨0, "", none⟩
  | .error e => ⟨1, "", some e⟩

end ProgramResult

/-- Writes the schema of descriptor documents to a file. -/
def writeSchema (p : Path) : RunScript Unit := writeFile p descriptorSchema.fileText

/-- Work of an invocation; a run has the given identifier. -/
def Invocation.script (wording : Wording) (runId : String) : Invocation → Script ProgramResult
  | .compile a => do return .ofWork (← (compileRun wording runId a).run)
  | .jsonSchema none => return .printed descriptorSchema.fileText
  | .jsonSchema (some p) => do return .ofWork (← (writeSchema p).run)
  | .version => return .printed CommandLine.versionText
  | .help topic => return .printed (CommandLine.helpText topic)

/-- The program, called with the words of a command line. -/
def program (wording : Wording) (runId : String) (words : List String) : Script ProgramResult :=
  match CommandLine.parse words with
  | some i => i.script wording runId
  | none => return ⟨2, "", none⟩

end EntitySchema
