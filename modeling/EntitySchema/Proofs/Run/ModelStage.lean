/-
  EntitySchema.Proofs.Run.ModelStage
  ────────────────────────────────
  **THE MODEL OF A RUN.**

  The work of a run falls into two stages: it writes the model, and then
  what is generated from it.  Nothing but the model itself is called like a
  model, so a run that does not get to the second stage leaves the model
  alone, and one that does leaves what it has written:

      fails before the model     the model that was there
      fails later, or succeeds   the model of its input

  Main results: `ActiveRun.run_execute`, `run_compileRun_of_unwritten`,
  `read_model_of_written`.
-/
import EntitySchema.Proofs.Run.Course

namespace EntitySchema

open EntitySchema.FileTree (Within WithinOr)

variable {h h' h₁ h₂ : Host} {c : RunContext} {r : ActiveRun} {runId : String}
  {a : CompileArguments} {p : Product}

/-! ## §1. The stage. -/

namespace ActiveRun

/-- The work of a run until its model is written. -/
def writeModel (r : ActiveRun) : RunScript Product :=
  onProduct r.context r.log r.settings fun p => do
    writeFile r.context.modelPath p.modelText
    return p

/-- **THE WORK OF A RUN** is to write its model, and then what is generated. -/
theorem run_execute (r : ActiveRun) (h : Host) :
    r.execute.run.run h = (r.writeModel >>= writeOutput r.context r.log).run.run h := by
  unfold execute writeModel
  rw [ExceptT.run_bind, Script.run_bind, executeRun_eq]
  cases hread : h.files.read r.context.input with
  | error e =>
      rw [run_onProduct_of_unread hread, run_onProduct_of_unread hread]
      rfl
  | ok text =>
      rw [run_onProduct_of_read hread, run_onProduct_of_read hread]
      rcases (Product.ofInput r.settings r.context.modelOnly text).result with e | p
      · rfl
      · simp only
        rw [writeProduct, ExceptT.run_bind, ExceptT.run_bind, Script.run_bind, Script.run_bind]
        rcases (writeFile r.context.modelPath p.modelText).run.run _ with ⟨_ | _, g⟩ <;> rfl

/-- A model that was written is in its place. -/
theorem writeModel_ok (hrun : r.writeModel.run.run h = (.ok p, h')) :
    ∃ text, h.files.read r.context.input = .ok text
      ∧ (Product.ofInput r.settings r.context.modelOnly text).result = .ok p
      ∧ ∃ l, h'.files.Leads r.context.modelPath l
        ∧ h'.files.get? l = some (.file p.modelText.toUTF8) := by
  obtain ⟨text, q, h₀, hread, hproduct, hrun⟩ := onProduct_ok hrun
  obtain ⟨_, h₁, hwrite, hpure⟩ := Script.run_bind_eq_ok_iff.1 hrun
  obtain ⟨rfl, rfl⟩ := Script.run_pure_eq_ok_iff.1 hpure
  obtain ⟨l, k, hready, htext, -⟩ := Script.replaceFile_ready r.context.modelPath_lasting
    (Script.run_orFail_eq_ok_iff.1 hwrite)
  exact ⟨text, hread, hproduct, l, hready.leads, htext⟩

end ActiveRun

/-! ## §2. What spares models. -/

theorem outputCovers_sparing_model (c : RunContext) : OutputCovers (sparing "ir.json") c :=
  outputCovers_sparing ⟨"ir", rfl⟩ (by decide)

theorem covers_manifest (c : RunContext) : Script.Covers (sparing "ir.json") c.manifestPath := by
  refine covers_sparing ⟨"ir", rfl⟩ fun t l hl => ?_
  rw [hl.getLast?, FileTree.getLast?_names c.manifest_called]
  decide

/-- A model that could not be written is not touched. -/
theorem ActiveRun.writeModel_error {e : RunFault}
    (hrun : r.writeModel.run.run h = (.error e, h')) :
    Within (sparing "ir.json") h.files h'.files := by
  have hlog := (outputCovers_sparing_model r.context).log
  obtain ⟨es, rfl | ⟨p, hrun⟩⟩ := onProduct_error hrun
  · exact (asks_reportAll hlog es).within h
  · refine ((asks_reportAll hlog es).within h).trans ?_
    rcases Script.run_bind_eq_error_iff.1 hrun with hrun | ⟨_, _, -, hrun⟩
    · obtain ⟨w, hrun, -⟩ := Script.run_orFail_eq_error_iff.1 hrun
      refine Script.replaceFile_error (fun q hq t l hl => ?_) (fun _ _ _ _ => trivial) hrun
      obtain ⟨q, rfl⟩ := Script.temporaryPath?_eq_some hq
      obtain ⟨u, hu⟩ := hl.endsIn {}
      rw [hu]
      exact fun heq => Path.append_ne (by decide) u (Option.some.inj heq)
    · cases hrun

/-- What is left of the beginning of a run once it is prepared. -/
def openRun (c : RunContext) (s : Settings) (revision : Revision) : RunScript ActiveRun := do
  writeManifest { context := c, revision }
  (Script.touch c.logPath).orFail fun e => .write (.file e)
  (EventLog.file c.logPath).report (.runStarted c.runId c.input)
  return ⟨c, revision, s, ← Script.now⟩

theorem beginRun_eq (runId : String) (a : CompileArguments) : beginRun runId a
    = (do
      let s ← loadSettings a.config
      let t ← Script.now
      let revision ← prepareRun a.out
      openRun (a.context runId t) s revision) := by
  simp only [beginRun, startRun, announceRun, openRun, bind_assoc, pure_bind]
  rfl

theorem run_beginRun (runId : String) (a : CompileArguments) (h : Host) :
    (beginRun runId a).run.run h = match ((loadSettings a.config).run.run h).1 with
      | .error e => (.error e, h)
      | .ok s => (prepareRun a.out >>= openRun (a.context runId (h.clock h.looks)) s).run.run
          { h with looks := h.looks + 1 } := by
  have hhost := run_loadSettings a.config h
  rw [beginRun_eq, ExceptT.run_bind, Script.run_bind]
  rcases hsettings : (loadSettings a.config).run.run h with ⟨result, h₀⟩
  rw [hsettings] at hhost
  obtain rfl : h = h₀ := hhost.symm
  cases result with
  | error e => rfl
  | ok s => exact Script.run_lift_bind _ _ _

theorem asks_openRun (c : RunContext) (s : Settings) (v : Revision) :
    (openRun c s v).run.Asks (sparing "ir.json").Admits := by
  have hscope := outputCovers_sparing_model c
  have hopen : (sparing "ir.json").Admits (.touch c.logPath) := hscope.log
  -- manifest, log, the first report
  exact (asks_writeFile (covers_manifest c) _).run_bind fun _ =>
    ((Script.Asks.request hopen).orFail _).run_bind fun _ =>
      (asks_report hscope.log _).lift.run_bind fun _ =>
        (Script.Asks.request trivial).lift.run_bind fun _ => .done _

/-- The beginning of a run spares models, beside what version control tends. -/
theorem asks_beginRun (runId : String) (a : CompileArguments) :
    (beginRun runId a).run.Asks (sparing "ir.json").AdmitsCalls := by
  have hlook : ∀ q, Looking q → (sparing "ir.json").AdmitsCalls q := by
    rintro q (⟨p, rfl⟩ | ⟨p, rfl⟩) <;> exact .inl trivial
  have hsettings : (loadSettings a.config).run.Asks (sparing "ir.json").AdmitsCalls := by
    refine Script.Asks.mono ((asks_settingsPath a.config).lift.run_bind fun path => ?_) hlook
    cases path with
    | none => exact .done _
    | some p => exact asks_readSettings p
  have hdirectories : (Script.ensureDirectories (Path.ancestors a.out)).Asks
      (sparing "ir.json").Admits := Script.asks_ensureDirectories_in fun _ _ => trivial
  have hprepare : (prepareRun a.out).run.Asks (sparing "ir.json").AdmitsCalls :=
    (hdirectories.calls.orFail _).run_bind fun _ => Script.asks_revision.lift
  -- step by step: settings, the clock, directories and version control, and what is opened then
  rw [beginRun_eq]
  refine hsettings.run_bind fun s => (Script.Asks.request (.inl trivial)).lift.run_bind fun t => ?_
  exact hprepare.run_bind fun v => (asks_openRun _ s v).calls

/-- So does its end. -/
theorem asks_conclude (wording : Wording) (r : ActiveRun) (result : Except RunFault RunOutcome) :
    (r.conclude wording result).run.Asks (sparing "ir.json").Admits := by
  have hreport := asks_report (outputCovers_sparing_model r.context).log
  have hfinish : (finishRun wording r.manifest result).run.Asks (sparing "ir.json").Admits := by
    refine (Script.Asks.request trivial).lift.run_bind fun t : Moment => asks_writeFile ?_ _
    rw [ended_context]
    exact covers_manifest _
  cases result with
  | ok outcome =>
      exact hfinish.run_bind fun _ => (Script.Asks.request trivial).lift.run_bind fun _ =>
        (hreport _).lift
  | error e => exact (hreport _).lift.run_bind fun _ => hfinish

/-! ## §3. The run. -/

/-- A later system where no model was touched, beside what version control
tends. -/
def SparesModels (h h' : Host) : Prop :=
  ∀ own, h.GitTouchesOnly own → WithinOr own (sparing "ir.json") h.files h'.files

theorem beginRun_sparesModels {result : Except RunFault ActiveRun}
    (hbegin : (beginRun runId a).run.run h = (result, h')) : SparesModels h h' := by
  intro own hgit
  have hbegun := (asks_beginRun runId a).withinOr hgit
  rwa [hbegin] at hbegun

/-- A run whose model is not written ends with a fault, and spares models. -/
theorem run_compileRun_of_unwritten (wording : Wording) {e : RunFault}
    (hbegin : (beginRun runId a).run.run h = (.ok r, h₁))
    (hmodel : r.writeModel.run.run h₁ = (.error e, h₂)) :
    ∃ h', (compileRun wording runId a).run.run h
        = (((r.conclude wording (.error e)).run.run h₂).1 >>= fun _ => .error e, h')
      ∧ SparesModels h h' := by
  have hwork : r.execute.run.run h₁ = (.error e, h₂) := by
    rw [ActiveRun.run_execute]
    exact Script.run_bind_eq_error_iff.2 (.inl hmodel)
  have hended := (asks_conclude wording r (.error e)).within h₂
  refine ⟨_, run_compileRun hbegin hwork, fun own hgit => ?_⟩
  exact (beginRun_sparesModels hbegin own hgit).trans
    (.of_within ((ActiveRun.writeModel_error hmodel).trans hended))

/-- **A MODEL THAT WAS WRITTEN STAYS** to the end of the run, however it
ends. -/
theorem read_model_of_written (wording : Wording)
    (hbegin : (beginRun runId a).run.run h = (.ok r, h₁))
    (hmodel : r.writeModel.run.run h₁ = (.ok p, h₂)) :
    ((compileRun wording runId a).run.run h).2.files.read (Path.join a.out "ir.json")
      = .ok p.modelText := by
  obtain ⟨text, -, hproduct, l, hl, htext⟩ := ActiveRun.writeModel_ok hmodel
  have hscope := outputCovers_sparing_model r.context
  rcases hwork : r.execute.run.run h₁ with ⟨result, h₃⟩
  have houtput := hwork
  rw [ActiveRun.run_execute, ExceptT.run_bind, Script.run_bind, hmodel] at houtput
  -- what comes after the model spares it: the generated files and the ending
  have hgenerated : Within (sparing "ir.json") h₂.files h₃.files :=
    (asks_writeOutput hscope (lasts_of_product hproduct)).within_of_run houtput
  have hended := (asks_conclude wording r result).within h₃
  have hwithin := hgenerated.trans hended
  have hname : l.getLast? = some "ir.json" := by
    rw [hl.getLast?, FileTree.getLast?_names r.context.model_called]
  have hpath : r.context.modelPath = Path.join a.out "ir.json" := by
    rw [(beginRun_ok hbegin).2.1]
    rfl
  rw [run_compileRun hbegin hwork, ← hpath]
  exact (hwithin.leads hl).read_eq ((file_of_sparing hwithin hname).2 htext)
    (FileTree.endsInSlash_eq_false r.context.model_called)

end EntitySchema
