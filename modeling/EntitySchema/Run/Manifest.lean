/-
  EntitySchema.Run.Manifest
  ────────────────────────────────
  **THE MANIFEST OF A RUN.**

  What a run leaves about itself beside its output: how it was called, how
  it ended, and which files it wrote.
-/
import EntitySchema.Model.Basic
import EntitySchema.Run.Revision
import EntitySchema.Path
import EntitySchema.Json.Value

namespace EntitySchema

/-- Version of the program. -/
def programVersion : String := "0.1.0"

/-- Where a run stands. -/
inductive RunStatus where
  | running
  | ok
  | error
  deriving DecidableEq, Repr

/-- Name of a status. -/
def RunStatus.name : RunStatus → String
  | .running => "RUNNING"
  | .ok => "OK"
  | .error => "ERROR"

/-- What a run is called with. -/
structure RunContext where
  runId : String
  startedAt : Moment
  input : Path
  outDir : Path
  /-- Write the model alone, no sources. -/
  modelOnly : Bool

/-- What a successful run has produced. -/
structure RunOutcome where
  entities : Nat
  /-- Written files, relative to the output directory. -/
  files : List Path
  deriving DecidableEq, Repr

/-- A manifest. -/
structure Manifest where
  context : RunContext
  revision : Revision := {}
  status : RunStatus := .running
  finishedAt : Option Moment := none
  outcome : Option RunOutcome := none
  error : Option String := none

namespace Manifest

/-- Text of a moment. -/
def timeJson (m : Moment) : Json := .text (m.render "+00:00")

/-- Version control state in JSON. -/
def revisionJson (r : Revision) : Json :=
  .object [("commit", .textOrNull r.commit), ("dirty", (r.dirty.map .bool).getD .null)]

/-- Manifest in JSON. -/
def toJson (m : Manifest) : Json :=
  .object [
    ("run_id", .text m.context.runId),
    ("status", .text m.status.name),
    ("input", .text m.context.input),
    ("ir_only", .bool m.context.modelOnly),
    ("ir_version", .text currentIrVersion),
    ("cli_version", .text programVersion),
    ("started_at", timeJson m.context.startedAt),
    ("finished_at", (m.finishedAt.map timeJson).getD .null),
    ("entities", (m.outcome.map fun o => Json.nat o.entities).getD .null),
    ("files", .texts ((m.outcome.map (·.files)).getD [])),
    ("error", .textOrNull m.error),
    ("git", revisionJson m.revision)]

end Manifest
end EntitySchema
