/-
  EntitySchema.Proofs.Run.Course
  ────────────────────────────────
  **THE COURSE OF A RUN.**

  Before and after its work a run touches its traces alone: the directory
  that it writes to, its manifest and its log.  Its work touches the log,
  and more than that only if there is a product.  Between the directory and
  the manifest version control is asked, which tends files of its own:

      settings      nothing
      beginning     directory, what version control tends, manifest, log
      work          log, then the files of the product
      end           manifest, log

  Main results: `within_beginRun`, `asks_execute`, `within_conclude_error`,
  `run_compileRun`.
-/
import EntitySchema.Program
import EntitySchema.Proofs.Files.ForeignCall
import EntitySchema.Proofs.Files.Rewriting
import EntitySchema.Proofs.Run.Overwriting

namespace EntitySchema

open EntitySchema.FileTree (EndsIn EndsInName Later Lasting Scope Tended Within WithinOr)
open EntitySchema.Path (Ending FileName join join_append)

variable {h h' h₁ h₂ : Host} {c : RunContext} {S : Scope} {r : ActiveRun} {wording : Wording}
  {runId : String} {a : CompileArguments} {v : Revision} {own : Location → Prop}

/-! ## §1. Traces. -/

namespace RunContext

theorem manifest_fileName : FileName "manifest.json" := {}

theorem manifest_called (c : RunContext) : Path.Called c.manifestPath "manifest.json" :=
  Path.called_join manifest_fileName c.outDir

theorem model_called (c : RunContext) : Path.Called c.modelPath "ir.json" :=
  Path.called_join {} c.outDir

theorem log_called (c : RunContext) : Path.Called c.logPath "logs.ndjson" :=
  Path.called_join {} c.outDir

/-- What a run leaves of itself: its manifest, that in the making, and its
log. -/
def Traces (c : RunContext) (p : Path) : Prop :=
  p = c.manifestPath ∨ temporaryPath? c.manifestPath = some p ∨ p = c.logPath

/-- The traces of a run, and the directories down to its output directory. -/
def traceScope (c : RunContext) : Scope := ⟨c.Traces, fun p => p ∈ c.outDir.ancestors⟩

theorem log_traced : c.traceScope.files c.logPath := .inr (.inr rfl)

theorem logPath_endsInName (c : RunContext) : EndsInName c.logPath :=
  ⟨"logs.ndjson", FileTree.getLast?_names c.log_called, by decide⟩

theorem manifestPath_lasting (c : RunContext) : Lasting c.manifestPath :=
  ⟨"manifest.json", c.manifest_called,
    Path.append_ne_append (e := ".json") (by decide) "manifest"⟩

theorem modelPath_lasting (c : RunContext) : Lasting c.modelPath :=
  ⟨"ir.json", c.model_called, Path.append_ne_append (e := ".json") (by decide) "ir"⟩

end RunContext

/-! ## §2. The log. -/

/-- A report touches the log alone. -/
theorem asks_report (hlog : S.files c.logPath) (e : Event) :
    ((EventLog.file c.logPath).report e).Asks S.Admits := by
  have happend : ∀ data, S.Admits (.append c.logPath data) :=
    fun _ => ⟨hlog, c.logPath_endsInName⟩
  exact .bind (.request trivial) fun _ => .bind (.request (happend _)) fun _ => .done _

/-- The log alone. -/
def logScope (c : RunContext) : Scope := ⟨(· = c.logPath), fun _ => False⟩

theorem within_report (c : RunContext) (e : Event) (h : Host) :
    Within (logScope c) h.files (((EventLog.file c.logPath).report e).run h).2.files :=
  (asks_report rfl e).within h

/-- What is not called like a log stays what it is. -/
theorem get?_of_within_log {t t' : FileTree} {l : Location} (h : Within (logScope c) t t')
    (hl : l.getLast? ≠ some "logs.ndjson") : t'.get? l = t.get? l := by
  rcases h.changed l with hsame | ⟨p, rfl, hleads⟩ | ⟨-, -, p, hp, -⟩
  · exact hsame
  · rw [hleads.getLast?, FileTree.getLast?_names c.log_called] at hl
    exact absurd rfl hl
  · exact hp.elim

theorem asks_reportAll (hlog : S.files c.logPath) (es : List Event) :
    ((EventLog.file c.logPath).reportAll es).Asks S.Admits := by
  induction es with
  | nil => exact .done _
  | cons e es ih => exact (asks_report hlog e).bind fun _ => ih

/-! ## §3. The beginning. -/

/-- A request that only looks at files. -/
def Looking (r : Request) : Prop := (∃ p, r = .read p) ∨ ∃ p, r = .find p

theorem asks_settingsPath (explicit : Option Path) : (settingsPath explicit).Asks Looking := by
  cases explicit with
  | some p => exact .done _
  | none => exact (Script.Asks.request (.inr ⟨_, rfl⟩)).bind fun _ => .done _

theorem asks_readSettings (p : Path) : (readSettings p).run.Asks Looking := by
  refine ((Script.Asks.request (.inl ⟨p, rfl⟩)).orFail _).run_bind fun text => ?_
  split <;> exact .done _

/-- Settings are read, and nothing is changed. -/
theorem run_loadSettings (explicit : Option Path) (h : Host) :
    ((loadSettings explicit).run.run h).2 = h := by
  refine Script.Asks.run_eq_of_looking ((asks_settingsPath explicit).lift.run_bind fun path => ?_) h
  cases path with
  | none => exact .done _
  | some p => exact asks_readSettings p

theorem run_writeFile (p : Path) (text : String) (h : Host) :
    ((writeFile p text).run.run h).2 = ((Script.replaceFile p text).run.run h).2 := by
  rw [writeFile, Script.run_orFail]

/-- Where the output directory is there, a manifest is a trace. -/
theorem within_writeManifest {m : Manifest} (hc : m.context = c) (hw : h.files.Walkable c.outDir) :
    Within c.traceScope h.files ((writeManifest m).run.run h).2.files := by
  subst hc
  rw [writeManifest, run_writeFile]
  exact Script.within_replaceFile RunContext.manifest_fileName hw (.inl rfl)
    fun q hq => .inr (.inl hq)

/-- Directories that were ensured can be walked. -/
theorem walkable_of_ensureDirectories {d : Path}
    (hrun : (Script.ensureDirectories d.ancestors).run h = (.ok (), h')) :
    h'.files.Walkable d := by
  by_cases hd : d = ""
  · rw [hd]
    exact FileTree.walkable_empty _
  · obtain ⟨outer, houter⟩ := exists_ancestors d
    rw [houter] at hrun
    obtain ⟨k, hk⟩ := Script.ensureDirectories_ok hd hrun
    exact FileTree.walkable_of_find hk

/-- Directories are made, and then version control is asked. -/
theorem prepareRun_ok {d : Path} (hrun : (prepareRun d).run.run h = (.ok v, h')) :
    ∃ h₀, (Script.ensureDirectories d.ancestors).run h = (.ok (), h₀)
      ∧ Script.revision.run h₀ = (v, h') := by
  obtain ⟨_, h₀, hmade, hrun⟩ := Script.run_bind_eq_ok_iff.1 hrun
  exact ⟨h₀, Script.run_orFail_eq_ok_iff.1 hmade, Script.run_lift_eq_ok_iff.1 hrun⟩

/-- What is announced is what the preparation has found. -/
theorem announceRun_eq_ok_iff : (announceRun c).run.run h = (.ok v, h')
    ↔ ∃ g, (prepareRun c.outDir).run.run h = (.ok v, g)
      ∧ (writeManifest { context := c, revision := v }).run.run g = (.ok (), h') := by
  constructor
  · intro hrun
    obtain ⟨v', g, hprepare, hrun⟩ := Script.run_bind_eq_ok_iff.1 hrun
    obtain ⟨_, h₁, hmanifest, hrun⟩ := Script.run_bind_eq_ok_iff.1 hrun
    obtain ⟨rfl, rfl⟩ := Script.run_pure_eq_ok_iff.1 hrun
    exact ⟨g, hprepare, hmanifest⟩
  · rintro ⟨g, hprepare, hmanifest⟩
    exact Script.run_bind_eq_ok_iff.2 ⟨v, g, hprepare, Script.run_bind_eq_ok_iff.2
      ⟨(), h', hmanifest, Script.run_pure_eq_ok_iff.2 ⟨rfl, rfl⟩⟩⟩

theorem within_prepareRun (hgit : h.GitTouchesOnly own)
    (hrun : (prepareRun c.outDir).run.run h = (.ok v, h')) :
    WithinOr own c.traceScope h.files h'.files ∧ h'.files.Walkable c.outDir := by
  obtain ⟨h₀, hmade, hrevision⟩ := prepareRun_ok hrun
  have hdirectories : Within c.traceScope h.files h₀.files :=
    (Script.asks_ensureDirectories_in fun _ hp => hp).within_of_run hmade
  have htended := tended_of_revision (hgit.of_run hmade) hrevision
  exact ⟨(WithinOr.of_within hdirectories).trans (.of_tended htended),
    htended.toLater.walkable (walkable_of_ensureDirectories hmade)⟩

theorem within_announceRun (hgit : h.GitTouchesOnly own)
    (hrun : (announceRun c).run.run h = (.ok v, h')) :
    WithinOr own c.traceScope h.files h'.files ∧ h'.files.Walkable c.outDir := by
  obtain ⟨g, hprepare, hrun⟩ := announceRun_eq_ok_iff.1 hrun
  obtain ⟨hprepared, hw⟩ := within_prepareRun hgit hprepare
  have hmanifest := within_writeManifest (m := { context := c, revision := v }) rfl hw
  rw [hrun] at hmanifest
  exact ⟨hprepared.trans (.of_within hmanifest), hmanifest.walkable hw⟩

theorem asks_touchLog (c : RunContext) :
    ((Script.touch c.logPath).orFail fun e => RunFault.write (.file e)).run.Asks
      c.traceScope.Admits := by
  have htouch : c.traceScope.Admits (.touch c.logPath) := RunContext.log_traced
  exact (Script.Asks.request htouch).orFail _

theorem startRun_eq_ok_iff : (startRun c).run.run h = (.ok v, h')
    ↔ ∃ h₁, (announceRun c).run.run h = (.ok v, h₁)
      ∧ (Script.touch c.logPath).run h₁ = (.ok (), h') := by
  constructor
  · intro hrun
    obtain ⟨v', h₁, hannounce, hrun⟩ := Script.run_bind_eq_ok_iff.1 hrun
    obtain ⟨_, h₂, htouch, hrun⟩ := Script.run_bind_eq_ok_iff.1 hrun
    obtain ⟨rfl, rfl⟩ := Script.run_pure_eq_ok_iff.1 hrun
    exact ⟨h₁, hannounce, Script.run_orFail_eq_ok_iff.1 htouch⟩
  · rintro ⟨h₁, hannounce, htouch⟩
    exact Script.run_bind_eq_ok_iff.2 ⟨v, h₁, hannounce, Script.run_bind_eq_ok_iff.2
      ⟨(), h', Script.run_orFail_eq_ok_iff.2 htouch, Script.run_pure_eq_ok_iff.2 ⟨rfl, rfl⟩⟩⟩

/-- **STEPS OF THE BEGINNING**: settings, manifest, log, first report. -/
theorem beginRun_ok (hrun : (beginRun runId a).run.run h = (.ok r, h')) :
    (loadSettings a.config).run.run h = (.ok r.settings, h)
      ∧ r.context = a.context runId (h.clock h.looks)
      ∧ ∃ h₁ h₂, (announceRun r.context).run.run { h with looks := h.looks + 1 }
          = (.ok r.revision, h₁)
        ∧ (Script.touch r.context.logPath).run h₁ = (.ok (), h₂)
        ∧ h'.files = ((r.log.report (.runStarted runId a.input)).run h₂).2.files := by
  obtain ⟨settings, h₀, hsettings, hrest⟩ := Script.run_bind_eq_ok_iff.1 hrun
  -- looking for settings changes nothing
  have hhost := run_loadSettings a.config h
  rw [hsettings] at hhost
  obtain rfl : h = h₀ := hhost.symm
  rw [Script.run_lift_bind] at hrest
  obtain ⟨_, h₂, hstart, hrest⟩ := Script.run_bind_eq_ok_iff.1 hrest
  obtain ⟨h₁, hannounce, htouch⟩ := startRun_eq_ok_iff.1 hstart
  rw [Script.run_lift_bind, Script.run_lift_bind] at hrest
  obtain ⟨rfl, rfl⟩ := Script.run_pure_eq_ok_iff.1 hrest
  exact ⟨hsettings, rfl, h₁, h₂, hannounce, htouch, rfl⟩

/-- A run that has begun writes to the directory that it was given. -/
theorem outDir_of_begin (hrun : (beginRun runId a).run.run h = (.ok r, h')) :
    r.context.outDir = a.out := by
  rw [(beginRun_ok hrun).2.1]
  rfl

/-- It reads the input that it was given. -/
theorem input_of_begin (hrun : (beginRun runId a).run.run h = (.ok r, h')) :
    r.context.input = a.input := by
  rw [(beginRun_ok hrun).2.1]
  rfl

/-- A run that has announced itself begins if its log can be opened. -/
theorem exists_run_beginRun {s : Settings}
    (hsettings : (loadSettings a.config).run.run h = (.ok s, h))
    (hannounce : (announceRun (a.context runId (h.clock h.looks))).run.run
      { h with looks := h.looks + 1 } = (.ok v, h₁))
    (htouch : (Script.touch (a.context runId (h.clock h.looks)).logPath).run h₁ = (.ok (), h₂)) :
    ∃ r h', (beginRun runId a).run.run h = (.ok r, h') := by
  have hstart : (startRun (a.context runId (h.clock h.looks))).run.run
      { h with looks := h.looks + 1 } = (.ok v, h₂) :=
    startRun_eq_ok_iff.2 ⟨h₁, hannounce, htouch⟩
  rcases hbegin : (beginRun runId a).run.run h with ⟨result, h'⟩
  cases result with
  | ok r => exact ⟨r, h', rfl⟩
  | error e =>
      -- a fault would be one of the steps, and those succeed
      rcases Script.run_bind_eq_error_iff.1 hbegin with hfail | ⟨s', h₀, hsettings', hfail⟩
      · cases hsettings.symm.trans hfail
      · cases hsettings.symm.trans hsettings'
        rw [Script.run_lift_bind] at hfail
        rcases Script.run_bind_eq_error_iff.1 hfail with hfail | ⟨_, h₃, -, hfail⟩
        · cases hstart.symm.trans hfail
        · rw [Script.run_lift_bind, Script.run_lift_bind] at hfail
          cases hfail

/-- It fails if its log cannot be opened. -/
theorem run_beginRun_of_error {s : Settings} {e : FileFault}
    (hsettings : (loadSettings a.config).run.run h = (.ok s, h))
    (hannounce : (announceRun (a.context runId (h.clock h.looks))).run.run
      { h with looks := h.looks + 1 } = (.ok v, h₁))
    (htouch : (Script.touch (a.context runId (h.clock h.looks)).logPath).run h₁ = (.error e, h₂)) :
    (beginRun runId a).run.run h = (.error (.write (.file e)), h₂) := by
  refine Script.run_bind_eq_error_iff.2 (.inr ⟨s, h, hsettings, ?_⟩)
  rw [Script.run_lift_bind]
  refine Script.run_bind_eq_error_iff.2 (.inl ?_)
  exact Script.run_bind_eq_error_iff.2 (.inr ⟨v, h₁, hannounce,
    Script.run_bind_eq_error_iff.2 (.inl (Script.run_orFail_eq_error_iff.2 ⟨e, htouch, rfl⟩))⟩)

/-- **THE BEGINNING OF A RUN** leaves traces alone, beside what version control
tends, and an output directory that can be walked to. -/
theorem within_beginRun (hgit : h.GitTouchesOnly own)
    (hrun : (beginRun runId a).run.run h = (.ok r, h')) :
    WithinOr own r.context.traceScope h.files h'.files
      ∧ h'.files.Walkable r.context.outDir := by
  obtain ⟨-, -, h₁, h₂, hannounce, htouch, hfiles⟩ := beginRun_ok hrun
  obtain ⟨hannounced, hw⟩ :=
    within_announceRun (h := { h with looks := h.looks + 1 }) hgit hannounce
  have htouched : Within r.context.traceScope h₁.files h₂.files :=
    (asks_touchLog r.context).within_of_run (Script.run_orFail_eq_ok_iff.2 htouch)
  have hreported : Within r.context.traceScope h₂.files _ :=
    (asks_report RunContext.log_traced (.runStarted runId a.input)).within h₂
  have hlater := htouched.trans hreported
  rw [hfiles]
  exact ⟨hannounced.trans (.of_within hlater), hlater.walkable hw⟩

/-! ## §4. The work. -/

theorem writeFile_error {p : Path} {text : String} {e : RunFault}
    (hrun : (writeFile p text).run.run h = (.error e, h')) : ∃ w, e = .write w := by
  obtain ⟨w, -, rfl⟩ := Script.run_orFail_eq_error_iff.1 hrun
  exact ⟨w, rfl⟩

theorem run_lift_ne_error {α : Type} {s : Script α} {e : RunFault} :
    (liftM s : RunScript α).run.run h ≠ (.error e, h') := by
  rw [Script.run_lift]
  intro hrun
  cases hrun

theorem writeGenerated_error {log : EventLog} {fs : List Source.GeneratedFile} {e : RunFault}
    (hrun : (writeGenerated c log fs).run.run h = (.error e, h')) : ∃ w, e = .write w := by
  induction fs generalizing h with
  | nil => cases hrun
  | cons f fs ih =>
      rw [writeGenerated] at hrun
      rcases Script.run_bind_eq_error_iff.1 hrun with hrun | ⟨_, h₁, -, hrun⟩
      · exact writeFile_error hrun
      · rcases Script.run_bind_eq_error_iff.1 hrun with hrun | ⟨_, h₂, -, hrun⟩
        · exact absurd hrun run_lift_ne_error
        · rcases Script.run_bind_eq_error_iff.1 hrun with hrun | ⟨_, h₃, -, hrun⟩
          · exact ih hrun
          · cases hrun

theorem writeOutput_error {log : EventLog} {p : Product} {e : RunFault}
    (hrun : (writeOutput c log p).run.run h = (.error e, h')) : ∃ w, e = .write w := by
  rw [writeOutput, Script.run_lift_bind] at hrun
  rcases Script.run_bind_eq_error_iff.1 hrun with hrun | ⟨_, h₁, -, hrun⟩
  · exact writeGenerated_error hrun
  · rw [Script.run_lift_bind] at hrun
    cases hrun

/-- **WHAT IS WRITTEN IS ALL THAT CAN FAIL** once there is a product. -/
theorem writeProduct_error {log : EventLog} {p : Product} {e : RunFault}
    (hrun : (writeProduct c log p).run.run h = (.error e, h')) : ∃ w, e = .write w := by
  rcases Script.run_bind_eq_error_iff.1 hrun with hrun | ⟨_, h₁, -, hrun⟩
  · exact writeFile_error hrun
  · exact writeOutput_error hrun

/-- **WORK THAT FAILS OTHERWISE THAN IN WRITING** has touched the log alone. -/
theorem within_execute_of_error {e : RunFault} (he : ∀ w, e ≠ .write w)
    (hlog : S.files r.context.logPath) (hrun : r.execute.run.run h = (.error e, h')) :
    Within S h.files h'.files := by
  obtain ⟨es, rfl | ⟨p, hwrite⟩⟩ := onProduct_error hrun
  · exact (asks_reportAll hlog es).within h
  · obtain ⟨w, rfl⟩ := writeProduct_error hwrite
    exact absurd rfl (he w)

/-- A scope that any file may lie in but those of a name. -/
def sparing (name : String) : Scope :=
  ⟨fun p => ∀ t l, FileTree.Leads t p l → l.getLast? ≠ some name, fun _ => True⟩

/-- A scope has room for the log of a run and for the files that it
generates. -/
structure OutputCovers (S : Scope) (c : RunContext) : Prop where
  log : S.files c.logPath
  generated : ∀ f : Source.GeneratedFile, f.Lasts → Script.Covers S (c.pathOf f)

/-- A scope has room for the model as well. -/
structure WorkCovers (S : Scope) (c : RunContext) : Prop extends OutputCovers S c where
  model : Script.Covers S c.modelPath

section Sparing

variable {name : String}

theorem covers_sparing (hdocument : ∃ u, name = u ++ ".json") {p : Path}
    (hp : ∀ t l, FileTree.Leads t p l → l.getLast? ≠ some name) :
    Script.Covers (sparing name) p where
  file := hp
  temporary q hq t l hl := by
    obtain ⟨u, rfl⟩ := hdocument
    obtain ⟨q, rfl⟩ := Script.temporaryPath?_eq_some hq
    obtain ⟨u', hu'⟩ := hl.endsIn {}
    rw [hu']
    exact fun heq => Path.append_ne_append (by decide) u' u (Option.some.inj heq)
  directories _ _ _ _ := trivial

/-- What a run generates is no document. -/
theorem outputCovers_sparing (hdocument : ∃ u, name = u ++ ".json") (hlog : name ≠ "logs.ndjson") :
    OutputCovers (sparing name) c where
  log t l hl := by
    rw [hl.getLast?, FileTree.getLast?_names c.log_called]
    exact fun heq => hlog (Option.some.inj heq).symm
  generated f hf := by
    refine covers_sparing hdocument fun t l hl => ?_
    obtain ⟨u, rfl⟩ := hdocument
    obtain ⟨q, ending, hending, hpath⟩ := hf
    rw [RunContext.pathOf, hpath, join_append hending.toEnding] at hl
    obtain ⟨u', hu'⟩ := hl.endsIn hending.toEnding
    rw [hu']
    exact fun heq => hending.notDocument u' u (Option.some.inj heq)

/-- The work of a run spares its manifest. -/
theorem workCovers_sparing_manifest : WorkCovers (sparing "manifest.json") c where
  toOutputCovers := outputCovers_sparing ⟨"manifest", rfl⟩ (by decide)
  model := by
    refine covers_sparing ⟨"manifest", rfl⟩ fun t l hl => ?_
    rw [hl.getLast?, FileTree.getLast?_names c.model_called]
    decide

/-- Nothing that a scope spares is written. -/
theorem file_of_sparing {t t' : FileTree} {l : Location} (h : Within (sparing name) t t')
    (hl : l.getLast? = some name) {data : ByteArray} :
    t'.get? l = some (.file data) ↔ t.get? l = some (.file data) :=
  h.file_iff fun _ hp hleads => hp t' l hleads hl

end Sparing

theorem asks_writeFile {p : Path} (hp : Script.Covers S p) (text : String) :
    (writeFile p text).run.Asks S.Admits :=
  (Script.asks_replaceFile hp text).orFail _

theorem asks_writeGenerated (hS : OutputCovers S c) {fs : List Source.GeneratedFile}
    (hfs : ∀ f ∈ fs, f.Lasts) :
    (writeGenerated c (.file c.logPath) fs).run.Asks S.Admits := by
  induction fs with
  | nil => exact .done _
  | cons f fs ih =>
      obtain ⟨hf, hfs⟩ := List.forall_mem_cons.1 hfs
      exact (asks_writeFile (hS.generated f hf) _).run_bind fun _ =>
        (asks_report hS.log _).lift.run_bind fun _ => (ih hfs).run_bind fun _ => .done _

theorem asks_writeOutput (hS : OutputCovers S c) {p : Product} (hp : ∀ f ∈ p.files, f.Lasts) :
    (writeOutput c (.file c.logPath) p).run.Asks S.Admits :=
  (asks_report hS.log _).lift.run_bind fun _ => (asks_writeGenerated hS hp).run_bind fun _ =>
    (asks_report hS.log _).lift.run_bind fun _ => .done _

theorem asks_writeProduct (hS : WorkCovers S c) {p : Product} (hp : ∀ f ∈ p.files, f.Lasts) :
    (writeProduct c (.file c.logPath) p).run.Asks S.Admits :=
  (asks_writeFile hS.model _).run_bind fun _ => asks_writeOutput hS.toOutputCovers hp

/-- The files of a product are called after entities, or after the program
that they configure. -/
theorem lasts_of_product {s : Settings} {modelOnly : Bool} {text : String} {p : Product}
    (hp : (Product.ofInput s modelOnly text).result = .ok p) : ∀ f ∈ p.files, f.Lasts := by
  obtain ⟨_, _, -, -, -, hcompile, hfiles⟩ := Product.ofInput_eq_ok_iff.1 hp
  cases modelOnly with
  | true =>
      rw [show p.files = [] from hfiles]
      exact nofun
  | false =>
      rw [Source.eq_files_of_bundle hfiles]
      exact Source.lasts_of_mem_files (filed_of_compile hcompile)

/-- **THE WORK OF A RUN STAYS WITHIN ITS SCOPE.** -/
theorem asks_execute (hS : WorkCovers S r.context) : r.execute.run.Asks S.Admits := by
  have hread : ((Script.read r.context.input).orFail RunFault.io).run.Asks S.Admits :=
    (Script.Asks.request trivial).orFail _
  refine hread.run_bind fun text => (asks_reportAll hS.log _).lift.run_bind fun _ => ?_
  split
  · exact .done _
  next p hp => exact asks_writeProduct hS (lasts_of_product hp)

/-! ## §5. The end. -/

theorem run_finishRun (wording : Wording) (m : Manifest) (result : Except RunFault RunOutcome)
    (h : Host) : (finishRun wording m result).run.run h
      = (writeManifest (m.ended wording (h.clock h.looks) result)).run.run
          { h with looks := h.looks + 1 } :=
  Script.run_lift_bind _ _ _

theorem ended_context (wording : Wording) (m : Manifest) (finishedAt : Moment)
    (result : Except RunFault RunOutcome) :
    (m.ended wording finishedAt result).context = m.context := by
  cases result <;> rfl

/-- **THE END OF A RUN THAT FAILED** leaves traces alone. -/
theorem within_conclude_error (wording : Wording) (e : RunFault)
    (hw : h.files.Walkable r.context.outDir) :
    Within r.context.traceScope h.files ((r.conclude wording (.error e)).run.run h).2.files := by
  have hreport : Within r.context.traceScope h.files
      ((r.log.report (.runFailed (e.message wording))).run h).2.files :=
    (asks_report RunContext.log_traced (.runFailed (e.message wording))).within h
  rw [ActiveRun.conclude, Script.run_lift_bind, run_finishRun]
  generalize ((r.log.report (.runFailed (e.message wording))).run h).2 = h₁ at hreport ⊢
  have hmanifest := within_writeManifest (h := { h₁ with looks := h₁.looks + 1 })
    (ended_context wording r.manifest (h₁.clock h₁.looks) (.error e)) (hreport.walkable hw)
  exact hreport.trans hmanifest

/-! ## §6. The run. -/

theorem run_compileRun_of_error {e : RunFault}
    (hbegin : (beginRun runId a).run.run h = (.error e, h')) :
    (compileRun wording runId a).run.run h = (.error e, h') :=
  Script.run_bind_eq_error_iff.2 (.inl hbegin)

/-- **A RUN THAT HAS BEGUN** ends as its work has ended, unless the end itself
cannot be marked. -/
theorem run_compileRun {result : Except RunFault RunOutcome}
    (hbegin : (beginRun runId a).run.run h = (.ok r, h₁))
    (hwork : r.execute.run.run h₁ = (result, h₂)) : (compileRun wording runId a).run.run h
      = (((r.conclude wording result).run.run h₂).1 >>= fun _ => result.map fun _ => (),
        ((r.conclude wording result).run.run h₂).2) := by
  -- the work is lifted, so its fault is a value that the ending is given
  have hlift : ∀ f : Except RunFault RunOutcome → RunScript Unit,
      (ExceptT.lift r.execute.run >>= f).run.run h₁ = (f result).run.run h₂ := by
    intro f
    have hrun := Script.run_lift_bind (ε := RunFault) r.execute.run f h₁
    rwa [hwork] at hrun
  rw [compileRun, ExceptT.run_bind, Script.run_bind, hbegin]
  simp only
  rw [hlift, ExceptT.run_bind, Script.run_bind]
  rcases (r.conclude wording result).run.run h₂ with ⟨ended, h₃⟩
  cases ended with
  | error e => rfl
  | ok _ => cases result <;> rfl

theorem run_compile_script (wording : Wording) (runId : String) (a : CompileArguments) (h : Host) :
    ((Invocation.compile a).script wording runId).run h
      = (.ofWork ((compileRun wording runId a).run.run h).1,
        ((compileRun wording runId a).run.run h).2) := by
  rw [Invocation.script, Script.run_bind, Script.run_pure]

end EntitySchema
