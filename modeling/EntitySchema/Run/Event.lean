/-
  EntitySchema.Run.Event
  ────────────────────────────────
  **EVENTS OF A RUN.**

  What a run reports while it works, one line of JSON per event: when, how
  grave, what, and which part of the program says so.
-/
import EntitySchema.Model.Basic
import EntitySchema.Contract.Validation
import EntitySchema.Moment
import EntitySchema.Path

namespace EntitySchema

/-- How grave an event is. -/
inductive EventLevel where
  | debug
  | info
  | error
  deriving DecidableEq, Repr

/-- Name of a level. -/
def EventLevel.name : EventLevel → String
  | .debug => "DEBUG"
  | .info => "INFO"
  | .error => "ERROR"

/-- Something that happened during a run. -/
inductive Event where
  | fieldClassified (entity : String) (a : Attribute)
  | entityIndexed (entity : String) (attributes references : Nat)
  | entitiesIndexed (entities skipped : Nat)
  | edgeResolved (edge : Edge)
  | edgesResolved (entities edges : Nat)
  | filesRendered (files : Nat)
  | runStarted (runId : String) (input : Path)
  | descriptorInvalid (violation : Violation)
  | modelWritten (path : Path) (entities : Nat)
  | fileWritten (path : Path)
  | filesWritten (files : Nat)
  | runFinished (milliseconds : Nat)
  | runFailed (error : String)

namespace Event

/-- Name of an event. -/
def name : Event → String
  | .fieldClassified _ _ => "field_classified"
  | .entityIndexed _ _ _ => "entity_indexed"
  | .entitiesIndexed _ _ => "entities_indexed"
  | .edgeResolved _ => "edge_resolved"
  | .edgesResolved _ _ => "edges_resolved"
  | .filesRendered _ => "files_rendered"
  | .runStarted _ _ => "run_started"
  | .descriptorInvalid _ => "descriptor_invalid"
  | .modelWritten _ _ => "ir_written"
  | .fileWritten _ => "file_written"
  | .filesWritten _ => "files_written"
  | .runFinished _ => "run_finished"
  | .runFailed _ => "run_failed"

/-- Level of an event. -/
def level : Event → EventLevel
  | .fieldClassified _ _ | .entityIndexed _ _ _ | .edgeResolved _ | .filesRendered _
  | .fileWritten _ => .debug
  | .descriptorInvalid _ | .runFailed _ => .error
  | _ => .info

/-- Part of the program that reports an event. -/
def target : Event → String
  | .fieldClassified _ _ | .entityIndexed _ _ _ => "entgen_core::index"
  | .edgeResolved _ => "entgen_core::resolve"
  | .entitiesIndexed _ _ | .edgesResolved _ _ => "entgen_core::compile"
  | .filesRendered _ => "entgen_emit"
  | _ => "entgen"

/-- Particulars of an event. -/
def details : Event → List (String × Json)
  | .fieldClassified entity a =>
      [("entity", .text entity), ("field", .text a.name),
       ("storage_kind", .text a.storageKind.constructorName)]
  | .entityIndexed entity attributes references =>
      [("entity", .text entity), ("fields", .nat attributes), ("references", .nat references)]
  | .entitiesIndexed entities skipped =>
      [("entities", .nat entities), ("skipped", .nat skipped)]
  | .edgeResolved e =>
      [("entity", .text e.owner), ("edge", .text e.name), ("target", .text e.target),
       ("counterpart", .text e.counterpart), ("cardinality", .text e.cardinality.display),
       ("owning", .bool e.direction.isOwning)]
  | .edgesResolved entities edges => [("entities", .nat entities), ("edges", .nat edges)]
  | .filesRendered files => [("files", .nat files)]
  | .runStarted runId input => [("run_id", .text runId), ("input", .text input)]
  | .descriptorInvalid v => [("path", .text v.pointer), ("message", .text v.message)]
  | .modelWritten path entities => [("path", .text path), ("entities", .nat entities)]
  | .fileWritten path => [("path", .text path)]
  | .filesWritten files => [("files", .nat files)]
  | .runFinished ms => [("status", .text "success"), ("duration_ms", .nat ms)]
  | .runFailed error => [("error", .text error)]

/-- Record of an event. -/
def record (e : Event) (m : Moment) : Json :=
  .object [("timestamp", .text (m.render "Z")), ("level", .text e.level.name),
    ("fields", .object (("event", .text e.name) :: e.details)), ("target", .text e.target)]

/-- Line of an event. -/
def line (e : Event) (m : Moment) : String := (e.record m).compact ++ "\n"

end Event
end EntitySchema
