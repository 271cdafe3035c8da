/-
  EntitySchema.Run.Execution
  ────────────────────────────────
  **A RUN FROM START TO FINISH.**

  A run marks its beginning by a manifest and a log in the output directory,
  computes its product, writes the model first and the generated files after
  it, and marks its end in the manifest.  Settings are read before anything
  is written, and version control is asked between the making of the output
  directory and the first file in it.

      output directory, state of the sources
      manifest RUNNING, log
      input → product        a fault here writes nothing
      model, generated files
      manifest OK or ERROR
-/
import EntitySchema.Run.Manifest
import EntitySchema.Run.Product

namespace EntitySchema

/-- A script that may fail. -/
abbrev RunScript := ExceptT RunFault Script

/-! ## §1. Files of a run. -/

namespace RunContext

/-- Manifest of the run. -/
def manifestPath (c : RunContext) : Path := Path.join c.outDir "manifest.json"

/-- Model file of the run. -/
def modelPath (c : RunContext) : Path := Path.join c.outDir "ir.json"

/-- Log of the run. -/
def logPath (c : RunContext) : Path := Path.join c.outDir "logs.ndjson"

/-- Path of a written file as the manifest lists it. -/
def listed (c : RunContext) (p : Path) : Path := Path.relativeTo c.outDir p

end RunContext

/-- Replaces a file of the run. -/
def writeFile (p : Path) (text : String) : RunScript Unit :=
  (Script.replaceFile p text).run.orFail .write

/-- Writes the manifest of a run. -/
def writeManifest (m : Manifest) : RunScript Unit :=
  writeFile m.context.manifestPath m.toJson.fileText

/-! ## §2. The log. -/

/-- Where events go. -/
inductive EventLog where
  | file (p : Path)
  /-- Events are dropped. -/
  | discard

/-- Reports an event.  A log that cannot be written does not stop a run. -/
def EventLog.report (log : EventLog) (e : Event) : Script Unit :=
  match log with
  | .discard => return
  | .file p => do
      let now ← Script.now
      let _ ← Script.append p (e.line now)

/-- Reports events in order. -/
def EventLog.reportAll (log : EventLog) : List Event → Script Unit
  | [] => return
  | e :: rest => do
      log.report e
      log.reportAll rest

/-! ## §3. Stages of a run. -/

/-- File that settings are read from: an explicit one, else the default one
if that exists. -/
def settingsPath (explicit : Option Path) : Script (Option Path) :=
  match explicit with
  | some p => return some p
  | none => do return (← Script.find Settings.defaultPath).map fun _ => Settings.defaultPath

/-- Settings in a file. -/
def readSettings (p : Path) : RunScript Settings := do
  let text ← (Script.read p).orFail .io
  match Settings.parse? text with
  | some settings => return settings
  | none => throw (.config text)

/-- Settings of a run. -/
def loadSettings (explicit : Option Path) : RunScript Settings := do
  match ← settingsPath explicit with
  | none => return {}
  | some p => readSettings p

/-- Makes an output directory and asks for the state of the sources. -/
def prepareRun (outDir : Path) : RunScript Revision := do
  (Script.ensureDirectories outDir.ancestors).orFail fun e => .write (.file e)
  Script.revision

/-- Prepares a run and writes its manifest, which says that it has yet to
end. -/
def announceRun (c : RunContext) : RunScript Revision := do
  let revision ← prepareRun c.outDir
  writeManifest { context := c, revision }
  return revision

/-- Marks the beginning of a run. -/
def startRun (c : RunContext) : RunScript Revision := do
  let revision ← announceRun c
  (Script.touch c.logPath).orFail fun e => .write (.file e)
  return revision

/-- Writes generated files below the output directory, and lists them. -/
def writeGenerated (c : RunContext) (log : EventLog) :
    List Source.GeneratedFile → RunScript (List Path)
  | [] => return []
  | f :: rest => do
      let path := Path.join c.outDir f.path
      writeFile path f.contents
      log.report (.fileWritten path)
      let listed ← writeGenerated c log rest
      return c.listed path :: listed

/-- Writes what is generated from a model that was written. -/
def writeOutput (c : RunContext) (log : EventLog) (p : Product) : RunScript RunOutcome := do
  log.report (.modelWritten c.modelPath p.entities.length)
  let generated ← writeGenerated c log p.files
  let files := c.listed c.modelPath :: generated
  log.report (.filesWritten files.length)
  return ⟨p.entities.length, files⟩

/-- Writes a product. -/
def writeProduct (c : RunContext) (log : EventLog) (p : Product) : RunScript RunOutcome := do
  writeFile c.modelPath p.modelText
  writeOutput c log p

/-- Does the work of a run. -/
def executeRun (c : RunContext) (log : EventLog) (s : Settings) : RunScript RunOutcome := do
  let text ← (Script.read c.input).orFail .io
  let product := Product.ofInput s c.modelOnly text
  log.reportAll product.events
  match product.result with
  | .error e => throw e
  | .ok p => writeProduct c log p

/-- Manifest of a run that has ended. -/
def Manifest.ended (wording : Wording) (m : Manifest) (finishedAt : Moment) :
    Except RunFault RunOutcome → Manifest
  | .ok outcome => { m with status := .ok, finishedAt := some finishedAt, outcome := some outcome }
  | .error e =>
      { m with status := .error, finishedAt := some finishedAt, error := some (e.message wording) }

/-- Marks the end of a run in its manifest. -/
def finishRun (wording : Wording) (m : Manifest) (result : Except RunFault RunOutcome) :
    RunScript Unit := do
  writeManifest (m.ended wording (← Script.now) result)

/-! ## §4. The run. -/

/-- Arguments of a run. -/
structure CompileArguments where
  input : Path
  config : Option Path := none
  out : Path := "gen"
  modelOnly : Bool := false
  deriving DecidableEq, Repr

/-- Context of a run under the given arguments. -/
def CompileArguments.context (a : CompileArguments) (runId : String) (startedAt : Moment) :
    RunContext :=
  { runId, startedAt, input := a.input, outDir := a.out, modelOnly := a.modelOnly }

/-- A run that has begun. -/
structure ActiveRun where
  context : RunContext
  revision : Revision
  settings : Settings
  /-- When the work began. -/
  since : Moment

/-- Reads the settings of a run and marks its beginning, in the manifest and
in the log. -/
def beginRun (runId : String) (a : CompileArguments) : RunScript ActiveRun := do
  let settings ← loadSettings a.config
  let context := a.context runId (← Script.now)
  let revision ← startRun context
  (EventLog.file context.logPath).report (.runStarted runId a.input)
  return { context, revision, settings, since := ← Script.now }

namespace ActiveRun

/-- Manifest of a run that has yet to end. -/
def manifest (r : ActiveRun) : Manifest := { context := r.context, revision := r.revision }

/-- Log of a run. -/
def log (r : ActiveRun) : EventLog := .file r.context.logPath

/-- Work of a run. -/
def execute (r : ActiveRun) : RunScript RunOutcome := executeRun r.context r.log r.settings

/-- Marks the end of a run, in the manifest and in the log. -/
def conclude (wording : Wording) (r : ActiveRun) : Except RunFault RunOutcome → RunScript Unit
  | .ok outcome => do
      finishRun wording r.manifest (.ok outcome)
      let ended ← Script.now
      r.log.report (.runFinished (r.since.millisecondsUntil ended))
  | .error e => do
      r.log.report (.runFailed (e.message wording))
      finishRun wording r.manifest (.error e)

end ActiveRun

/-- A run under the given arguments, with an identifier of its own. -/
def compileRun (wording : Wording) (runId : String) (a : CompileArguments) : RunScript Unit := do
  let r ← beginRun runId a
  let result ← ExceptT.lift r.execute.run
  r.conclude wording result
  match result with
  | .ok _ => return
  | .error e => throw e

end EntitySchema
