/-
  EntitySchema.Run.Fault
  ────────────────────────────────
  **WHY A RUN FAILS.**

  One constructor per stage, each with the cause of that stage; the wording
  names the stage first.
-/
import EntitySchema.Contract.Validation
import EntitySchema.Files.Replacement
import EntitySchema.Pairing
import EntitySchema.Settings
import EntitySchema.Source.Bundle

namespace EntitySchema

/-- What the readers of JSON and of TOML say about a text that they refuse.
They are foreign, and their words are theirs. -/
structure Wording where
  json : String → String
  toml : String → String

/-- Words of readers that give no reasons. -/
def Wording.plain : Wording where
  json _ := "invalid JSON text"
  toml _ := "invalid TOML text"

/-- Why a text is no descriptor document. -/
inductive DocumentFault where
  /-- It is no JSON text. -/
  | notJson (text : String)
  /-- A value is not what it should be. -/
  | value (e : DecodeError)
  deriving Repr

/-- Wording of a document fault. -/
def DocumentFault.message (wording : Wording) : DocumentFault → String
  | .notJson text => wording.json text
  | .value e => e.message

/-- Why a run fails. -/
inductive RunFault where
  /-- A file of the run could not be written. -/
  | write (e : WriteFault)
  | compile (e : CompileFault)
  | emit (e : Source.DanglingEdge)
  /-- A file could not be read. -/
  | io (e : FileFault)
  | json (e : DocumentFault)
  /-- A text holds no settings. -/
  | config (text : String)
  /-- The document violates its schema, `first` being the first of `count`
  violations. -/
  | invalidInput (count : Nat) (first : Violation)

/-- Wording of a run's fault. -/
def RunFault.message (wording : Wording) : RunFault → String
  | .write e => "registry error: " ++ e.message
  | .compile e => "compile error: " ++ e.message
  | .emit e => "emit error: " ++ e.message
  | .io e => "io error: " ++ e.message
  | .json e => "json error: " ++ e.message wording
  | .config text => "config error: " ++ wording.toml text
  | .invalidInput count first =>
      "invalid descriptor input: " ++ toString count ++ " schema violation(s), first at "
        ++ first.pointer ++ ": " ++ first.message

end EntitySchema
