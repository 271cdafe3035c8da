/-
  EntitySchema.Proofs.Run.Record
  ────────────────────────────────
  **THE LAST MANIFEST TELLS WHAT A RUN HAS DONE.**

  A run keeps count of what it writes while it writes it.  What the last
  manifest says is therefore what the caller is told and what is on disk:

                   status   error      entities   files
      exit code 0  OK       null       compiled   written, all on disk
      exit code 1  ERROR    the same   null       none

  Main result: `last_manifest_truthful`.
-/
import EntitySchema.Proofs.Run.Ending

namespace EntitySchema

open EntitySchema.FileTree (EndsIn Later Within endsInSlash)
open EntitySchema.Source (GeneratedFile)

variable {h h' h₁ h₂ h₃ : Host} {t t' : FileTree} {c : RunContext} {r : ActiveRun} {p : Product}
  {wording : Wording} {log : EventLog} {fs : List GeneratedFile} {outcome : RunOutcome} {q : Path}

/-! ## §1. What a run lists. -/

/-- Files that a run lists: the model, and what was generated from it. -/
def RunContext.record (c : RunContext) (fs : List GeneratedFile) : List Path :=
  "ir.json" :: fs.map fun f => Path.relativeTo c.outDir (Path.join c.outDir f.path)

theorem writeGenerated_listed {listed : List Path}
    (hrun : (writeGenerated c log fs).run.run h = (.ok listed, h')) :
    listed = fs.map fun f => c.listed (c.pathOf f) := by
  induction fs generalizing h h' listed with
  | nil => exact (Script.run_pure_eq_ok_iff.1 hrun).1
  | cons f fs ih =>
      rw [writeGenerated] at hrun
      obtain ⟨_, h₁, -, hrun⟩ := Script.run_bind_eq_ok_iff.1 hrun
      obtain ⟨_, h₂, -, hrun⟩ := Script.run_bind_eq_ok_iff.1 hrun
      obtain ⟨rest, h₃, hrest, hrun⟩ := Script.run_bind_eq_ok_iff.1 hrun
      rw [(Script.run_pure_eq_ok_iff.1 hrun).1, ih hrest]
      rfl

/-- **THE OUTCOME OF A RUN** counts its entities and lists its files. -/
theorem writeProduct_outcome (hrun : (writeProduct c log p).run.run h = (.ok outcome, h')) :
    outcome = ⟨p.entities.length, c.record p.files⟩ := by
  obtain ⟨_, h₁, -, hrun⟩ := Script.run_bind_eq_ok_iff.1 hrun
  unfold writeOutput at hrun
  obtain ⟨_, h₂, -, hrun⟩ := Script.run_bind_eq_ok_iff.1 hrun
  obtain ⟨listed, h₃, hlisted, hrun⟩ := Script.run_bind_eq_ok_iff.1 hrun
  obtain ⟨_, h₄, -, hrun⟩ := Script.run_bind_eq_ok_iff.1 hrun
  have hmodel : c.listed c.modelPath = "ir.json" := Path.relativeTo_join {} c.outDir
  rw [(Script.run_pure_eq_ok_iff.1 hrun).1, hmodel, writeGenerated_listed hlisted]
  rfl

/-! ## §2. What is on disk. -/

/-- A file stands at a path, and not a temporary one. -/
def FileAt (t : FileTree) (q : Path) : Prop :=
  endsInSlash q = false ∧ ∃ l data, t.Leads q l ∧ ¬ EndsIn ".tmp" l ∧ t.get? l = some (.file data)

namespace FileAt

theorem later (h : FileAt t q) (hlater : Later t t') : FileAt t' q := by
  obtain ⟨hslash, l, data, hl, htemporary, hdata⟩ := h
  obtain ⟨data', hdata'⟩ := hlater.file l data htemporary hdata
  exact ⟨hslash, l, data', hlater.leads hl, htemporary, hdata'⟩

theorem find (h : FileAt t q) : ∃ l data, t.find q = .ok (l, .file data) := by
  obtain ⟨hslash, l, data, hl, -, hdata⟩ := h
  exact ⟨l, data, hl.find_eq hdata hslash⟩

end FileAt

/-- Every file of a product is on disk when the last one is written. -/
theorem fileAt_of_writeProduct (hp : ∀ f ∈ p.files, f.Lasts)
    (hrun : (writeProduct c (.file c.logPath) p).run.run h = (.ok outcome, h')) :
    FileAt h'.files c.modelPath ∧ ∀ f ∈ p.files, FileAt h'.files (c.pathOf f) := by
  obtain ⟨_, h₁, hmodel, hrun⟩ := Script.run_bind_eq_ok_iff.1 hrun
  have hscope : WorkCovers (sparing "manifest.json") c := workCovers_sparing_manifest
  have hlater := ((asks_writeOutput hscope.toOutputCovers hp).within_of_run hrun).toLater
  obtain ⟨l, hreplaced⟩ := writeFile_ok hmodel
  have hmodel : FileAt h₁.files c.modelPath :=
    ⟨hreplaced.noSlash, l, _, hreplaced.leads, c.modelPath_lasting.not_endsIn hreplaced.leads,
      hreplaced.text⟩
  refine ⟨hmodel.later hlater, fun f hf => ?_⟩
  obtain ⟨t, hwritten⟩ := writeOutput_ok hp hrun
  obtain ⟨hslash, l, hl, f', -, -, hget⟩ := hwritten.each f hf
  exact ⟨hslash, l, _, hl, fun htemporary => not_passing (hp f hf) hl (.inl htemporary), hget⟩

/-! ## §3. What a manifest says. -/

/-- What all manifests of a run say. -/
structure Json.OfRun (c : RunContext) (revision : Revision) (v : Json) : Prop where
  runId : v.member? "run_id" = some (.text c.runId)
  input : v.member? "input" = some (.text c.input)
  modelOnly : v.member? "ir_only" = some (.bool c.modelOnly)
  irVersion : v.member? "ir_version" = some (.text currentIrVersion)
  programVersion : v.member? "cli_version" = some (.text programVersion)
  startedAt : v.member? "started_at" = some (Manifest.timeJson c.startedAt)
  git : v.member? "git" = some (Manifest.revisionJson revision)

/-- The last manifest of a run that has succeeded. -/
structure Json.TellsSuccess (v : Json) (entities : Nat) (files : List Path) : Prop where
  status : v.member? "status" = some (.text "OK")
  error : v.member? "error" = some .null
  entities : v.member? "entities" = some (.nat entities)
  files : v.member? "files" = some (.texts files)

/-- The last manifest of a run that has failed. -/
structure Json.TellsFailure (v : Json) (message : String) : Prop where
  status : v.member? "status" = some (.text "ERROR")
  error : v.member? "error" = some (.text message)
  entities : v.member? "entities" = some .null
  files : v.member? "files" = some (.texts [])

namespace Manifest

variable {m : Manifest}

theorem ofRun_toJson (m : Manifest) : m.toJson.OfRun m.context m.revision := by
  constructor <;> simp [toJson, Json.member?, lookup_cons_eq]

/-- The last manifest is of the run that the first one is of. -/
theorem ofRun_ended (m : Manifest) (ended : Moment) (result : Except RunFault RunOutcome) :
    (m.ended wording ended result).toJson.OfRun m.context m.revision := by
  have hended := ofRun_toJson (m.ended wording ended result)
  cases result <;> exact hended

theorem running_toJson (hm : m.status = .running) :
    m.toJson.member? "status" = some (.text "RUNNING") := by
  simp [toJson, Json.member?, lookup_cons_eq, hm, RunStatus.name]

theorem tellsSuccess_toJson (hm : m.error = none) (ended : Moment) (outcome : RunOutcome) :
    (m.ended wording ended (.ok outcome)).toJson.TellsSuccess outcome.entities outcome.files := by
  constructor <;> simp [Manifest.ended, toJson, Json.member?, lookup_cons_eq, RunStatus.name,
    Json.textOrNull, hm]

theorem tellsFailure_toJson (hm : m.outcome = none) (ended : Moment) (e : RunFault) :
    (m.ended wording ended (.error e)).toJson.TellsFailure (e.message wording) := by
  constructor <;> simp [Manifest.ended, toJson, Json.member?, lookup_cons_eq, RunStatus.name,
    Json.textOrNull, hm]

end Manifest

/-! ## §4. The run. -/

/-- **WHAT THE WORK OF A RUN HAS DONE** if it has succeeded. -/
theorem execute_ok (hwork : r.execute.run.run h = (.ok outcome, h')) :
    ∃ text d set, h.files.read r.context.input = .ok text ∧ Json.read? text = some d
      ∧ DescriptorSet.record.codec.decode d = .ok set
      ∧ ∃ es files, compile r.settings.compile set = .ok es
        ∧ (if r.context.modelOnly then files = [] else Source.bundle r.settings.emit es = .ok files)
        ∧ outcome = ⟨es.length, r.context.record files⟩
        ∧ FileAt h'.files r.context.modelPath ∧ ∀ f ∈ files, FileAt h'.files (r.context.pathOf f) := by
  obtain ⟨text, p, h₀, hread, hp, hwrite⟩ := executeRun_ok hwork
  obtain ⟨d, set, hdocument, -, hdecode, hcompile, hfiles⟩ := Product.ofInput_eq_ok_iff.1 hp
  obtain ⟨hmodel, hgenerated⟩ := fileAt_of_writeProduct (lasts_of_product hp) hwrite
  exact ⟨text, d, set, hread, hdocument, hdecode, p.entities, p.files, hcompile, hfiles,
    writeProduct_outcome hwrite, hmodel, hgenerated⟩

/-- A run whose end could be marked has its last manifest in place. -/
theorem conclude_marked {M : Manifest} {l m : Location} {result : Except RunFault RunOutcome}
    (hmarked : Marked r.context M h.files l m)
    (hend : (r.conclude wording result).run.run h = (.ok (), h')) :
    ∃ ended, Marked r.context (r.manifest.ended wording ended result) h'.files l m
      ∧ Later h.files h'.files := by
  by_cases hm : h.files.get? m = some .directory
  · obtain ⟨h'', hrun, -⟩ := run_conclude_of_directory result hmarked hm
    cases hend.symm.trans hrun
  · obtain ⟨ended, h'', hrun, hmarked', -, hlater⟩ := run_conclude result hmarked hm
    cases hend.symm.trans hrun
    exact ⟨ended, hmarked', hlater⟩

/-- **THE LAST MANIFEST TELLS THE TRUTH.**  Let the end of a run be marked.
Then the program succeeds iff the work has succeeded.  If it has, the manifest
says OK, counts the compiled entities, and lists the model and every generated
file in order, all of which are on disk.  If not, it says ERROR and why, in
the words of the fault that the program ends with.  How the run was called,
when it began and what version control said stands there as in the first
manifest. -/
theorem last_manifest_truthful (wording : Wording) (runId : String) (a : CompileArguments)
    (h : Host) {result : Except RunFault RunOutcome}
    (hbegin : (beginRun runId a).run.run h = (.ok r, h₁))
    (hwork : r.execute.run.run h₁ = (result, h₂))
    (hend : (r.conclude wording result).run.run h₂ = (.ok (), h₃)) :
    ∃ answer v₀ v, ((Invocation.compile a).script wording runId).run h = (answer, h₃)
      ∧ h₁.files.read r.context.manifestPath = .ok (Json.fileText v₀)
      ∧ v₀.member? "status" = some (.text "RUNNING") ∧ v₀.OfRun r.context r.revision
      ∧ h₃.files.read r.context.manifestPath = .ok (Json.fileText v)
      ∧ v.OfRun r.context r.revision
      ∧ (answer.exitCode = 0 ↔ ∃ outcome, result = .ok outcome)
      ∧ (answer.exitCode = 0 → ∃ text d set es files, h₁.files.read a.input = .ok text
        ∧ Json.read? text = some d ∧ DescriptorSet.record.codec.decode d = .ok set
        ∧ compile r.settings.compile set = .ok es
        ∧ (if a.modelOnly then files = [] else Source.bundle r.settings.emit es = .ok files)
        ∧ v.TellsSuccess es.length
          ("ir.json" :: files.map fun f => Path.relativeTo a.out (Path.join a.out f.path))
        ∧ ∀ q ∈ "ir.json" :: files.map (·.path),
          ∃ l data, h₃.files.find (Path.join a.out q) = .ok (l, .file data))
      ∧ (answer.exitCode ≠ 0 → ∃ e : RunFault, result = .error e
        ∧ answer.fault = some e ∧ v.TellsFailure (e.message wording)) := by
  obtain ⟨⟨l, m, hbegun⟩, -⟩ := beginRun_marked hbegin
  obtain ⟨ended, hended, hlater⟩ := conclude_marked (hbegun.sparing (within_execute hwork)) hend
  obtain ⟨-, hcontext, -⟩ := beginRun_ok hbegin
  refine ⟨.ofWork (result.map fun _ => ()), r.manifest.toJson,
    (r.manifest.ended wording ended result).toJson, ?_, hbegun.read, Manifest.running_toJson rfl,
    Manifest.ofRun_toJson r.manifest, hended.read, Manifest.ofRun_ended r.manifest ended result,
    ?_, ?_, ?_⟩
  · rw [run_compile_script, run_compileRun hbegin hwork, hend]
    rfl
  · cases result with
    | ok outcome => exact iff_of_true rfl ⟨outcome, rfl⟩
    | error e => exact iff_of_false nofun nofun
  · intro hsuccess
    cases result with
    | error e => cases hsuccess
    | ok outcome =>
        obtain ⟨text, d, set, hread, hdocument, hdecode, es, files, hcompile, hfiles, rfl, hmodel,
          hgenerated⟩ := execute_ok hwork
        have hdirectory : r.context.outDir = a.out := by rw [hcontext]; rfl
        rw [hcontext] at hread hfiles
        rw [← hdirectory]
        refine ⟨text, d, set, es, files, hread, hdocument, hdecode, hcompile, hfiles,
          Manifest.tellsSuccess_toJson (m := r.manifest) rfl ended
            ⟨es.length, r.context.record files⟩, ?_⟩
        rintro q (_ | ⟨_, hq⟩)
        · exact (hmodel.later hlater).find
        · obtain ⟨f, hf, rfl⟩ := List.mem_map.1 hq
          exact ((hgenerated f hf).later hlater).find
  · intro hfailure
    cases result with
    | ok outcome => exact absurd rfl hfailure
    | error e => exact ⟨e, rfl, rfl, Manifest.tellsFailure_toJson (m := r.manifest) rfl ended e⟩

/-- A repository with a document of one message. -/
def recordedHost : Host where
  files := ⟨[(["in.json"], .file ("\x7b\"entities\":[\x7b\"name\":\"Post\","
    ++ "\"options\":\x7b\"generate\":true\x7d\x7d]\x7d").toUTF8), ([".git"], .directory),
    (gitIndex, .file "stale".toUTF8)], []⟩
  clock _ := ⟨0⟩
  git _ := refreshingGit

/-- Arguments that name the document. -/
def recordedRun : CompileArguments where
  input := "in.json"

/-- The run succeeds, and its manifest says so, and which commit it is of. -/
theorem recordedRun_truthful :
    ∃ r h₁ outcome h₂ h₃, (beginRun "run" recordedRun).run.run recordedHost = (.ok r, h₁)
      ∧ r.execute.run.run h₁ = (.ok outcome, h₂)
      ∧ (r.conclude .plain (.ok outcome)).run.run h₂ = (.ok (), h₃)
      ∧ ∃ answer v, ((Invocation.compile recordedRun).script .plain "run").run recordedHost
          = (answer, h₃)
        ∧ answer.exitCode = 0
        ∧ h₃.files.read r.context.manifestPath = .ok (Json.fileText v)
        ∧ v.OfRun r.context ⟨some "89ab", some true⟩ ∧ ∃ es files, v.TellsSuccess es files := by
  have hends : (match (beginRun "run" recordedRun).run.run recordedHost with
      | (.ok r, h₁) => match r.execute.run.run h₁ with
        | (.ok outcome, h₂) => ((r.conclude .plain (.ok outcome)).run.run h₂).1.isOk
            && r.revision = ⟨some "89ab", some true⟩
        | _ => false
      | _ => false) = true := by
    decide +kernel
  rcases hbegin : (beginRun "run" recordedRun).run.run recordedHost with ⟨e | r, h₁⟩ <;>
    rw [hbegin] at hends
  · cases hends
  rcases hwork : r.execute.run.run h₁ with ⟨e | outcome, h₂⟩ <;> simp only [hwork] at hends
  · cases hends
  rcases hend : (r.conclude .plain (.ok outcome)).run.run h₂ with ⟨e | u, h₃⟩ <;>
    rw [hend] at hends
  · cases hends
  have hrevision : r.revision = ⟨some "89ab", some true⟩ := of_decide_eq_true hends
  obtain ⟨answer, _, v, hrun, -, -, -, hread, hof, hexit, hsuccess, -⟩ :=
    last_manifest_truthful .plain "run" recordedRun recordedHost hbegin hwork hend
  rw [hrevision] at hof
  have hexit := hexit.2 ⟨outcome, rfl⟩
  obtain ⟨_, _, _, es, files, -, -, -, -, -, htells, -⟩ := hsuccess hexit
  exact ⟨r, h₁, outcome, h₂, h₃, rfl, hwork, hend, answer, v, hrun, hexit, hread, hof, _, _,
    htells⟩

end EntitySchema
