/-
  EntitySchema.Proofs.Run.Outputs
  ────────────────────────────────
  **WHAT A COMPLETED RUN DELIVERS, AND WHEN IT GOES THROUGH.**

  A run that succeeds has delivered its files in order, its manifest first
  and last, while its log was growing:

      manifest.json    RUNNING
      ir.json          the model
      user.go …        what is generated
      manifest.json    OK

  And where all these paths are open, a run goes through, and makes no
  directory.

  Main results: `CompletedRun.delivered`, `exists_run_execute`.
-/
import EntitySchema.Proofs.Files.Delivery
import EntitySchema.Proofs.Run.Ending

namespace EntitySchema

open EntitySchema.FileTree (Delivered Lasting Later Open Scope Steady Tended Within endsInSlash)
open EntitySchema.Path (Ending exists_called_append join_append)
open EntitySchema.Source (GeneratedFile)

variable {h h' h₁ h₂ : Host} {c : RunContext} {r : ActiveRun} {p : Product} {wording : Wording}
  {runId : String} {a : CompileArguments} {fs : List GeneratedFile} {outcome : RunOutcome}
  {text : String} {q : Path} {v : Revision} {own : Location → Prop}

/-! ## §1. The files of a run. -/

theorem lasting_of_lasts {f : GeneratedFile} (hf : f.Lasts) : Lasting (c.pathOf f) := by
  obtain ⟨q, ending, hending, hpath⟩ := hf
  obtain ⟨u, hcalled⟩ := exists_called_append hending.toEnding (Path.join c.outDir q)
  refine ⟨u ++ ending, ?_, fun u' => hending.notTemporary u u'⟩
  rwa [RunContext.pathOf, hpath, join_append hending.toEnding]

/-- Generated files and what they hold, in the order in which they are
written. -/
def RunContext.generated (c : RunContext) (fs : List GeneratedFile) : List (Path × String) :=
  fs.map fun f => (c.pathOf f, f.contents)

/-- Files of a product and what they hold. -/
def RunContext.outputs (c : RunContext) (p : Product) : List (Path × String) :=
  (c.modelPath, p.modelText) :: c.generated p.files

/-- They depend on the output directory alone. -/
theorem outputs_congr {c c' : RunContext} (h : c'.outDir = c.outDir) (p : Product) :
    c'.outputs p = c.outputs p := by
  simp only [RunContext.outputs, RunContext.generated, RunContext.modelPath, RunContext.pathOf, h]

/-- All files of a run and what they hold; the first and the last text are
those of its manifest. -/
def RunContext.deliveries (c : RunContext) (p : Product) (first last : String) :
    List (Path × String) :=
  (c.manifestPath, first) :: (c.outputs p ++ [(c.manifestPath, last)])

/-! ## §2. What is delivered. -/

theorem writeFile_delivered (own : Location → Prop) (log : Path) (hq : Lasting q)
    (hrun : (writeFile q text).run.run h = (.ok (), h')) :
    Delivered own log [(q, text)] h.files h'.files :=
  Script.replaceFile_delivered hq (Script.run_orFail_eq_ok_iff.1 hrun)

/-- A report delivers nothing. -/
theorem report_delivered (own : Location → Prop) (c : RunContext) (e : Event) (h : Host) :
    Delivered own c.logPath [] h.files (((EventLog.file c.logPath).report e).run h).2.files :=
  .aside (fun _ => id) (within_report c e h)

theorem reportAll_delivered (c : RunContext) (es : List Event) (h : Host) :
    Delivered own c.logPath [] h.files
      (((EventLog.file c.logPath).reportAll es).run h).2.files := by
  have hlog : (logScope c).files c.logPath := rfl
  exact .aside (fun _ => id) ((asks_reportAll hlog es).within h)

theorem writeGenerated_delivered (hfs : ∀ f ∈ fs, f.Lasts) {listed : List Path}
    (hrun : (writeGenerated c (.file c.logPath) fs).run.run h = (.ok listed, h')) :
    Delivered own c.logPath (c.generated fs) h.files h'.files := by
  -- file by file: each one is delivered and reported, then the rest of them
  induction fs generalizing h h' listed with
  | nil =>
      obtain ⟨-, rfl⟩ := Script.run_pure_eq_ok_iff.1 hrun
      exact .aside (fun _ => id) (.refl (S := logScope c) h'.files)
  | cons f fs ih =>
      obtain ⟨hf, hfs⟩ := List.forall_mem_cons.1 hfs
      rw [writeGenerated] at hrun
      obtain ⟨_, h₁, hwrite, hrun⟩ := Script.run_bind_eq_ok_iff.1 hrun
      rw [Script.run_lift_bind] at hrun
      obtain ⟨rest, h₂, hrest, hrun⟩ := Script.run_bind_eq_ok_iff.1 hrun
      obtain ⟨-, rfl⟩ := Script.run_pure_eq_ok_iff.1 hrun
      exact (writeFile_delivered own c.logPath (lasting_of_lasts hf) hwrite).append
        ((report_delivered own c _ h₁).append (ih hfs hrest))

/-- **A PRODUCT THAT WAS WRITTEN** was delivered. -/
theorem writeProduct_delivered (hp : ∀ f ∈ p.files, f.Lasts)
    (hrun : (writeProduct c (.file c.logPath) p).run.run h = (.ok outcome, h')) :
    Delivered own c.logPath (c.outputs p) h.files h'.files := by
  obtain ⟨_, h₁, hmodel, hrun⟩ := Script.run_bind_eq_ok_iff.1 hrun
  rw [writeOutput, Script.run_lift_bind] at hrun
  obtain ⟨listed, h₂, hgenerated, hrun⟩ := Script.run_bind_eq_ok_iff.1 hrun
  rw [Script.run_lift_bind] at hrun
  obtain ⟨-, rfl⟩ := Script.run_pure_eq_ok_iff.1 hrun
  have hfiles := (writeFile_delivered own c.logPath c.modelPath_lasting hmodel).append
    ((report_delivered own c _ h₁).append (writeGenerated_delivered hp hgenerated))
  have hall := hfiles.append
    (report_delivered own c (.filesWritten (c.listed c.modelPath :: listed).length) h₂)
  rwa [List.append_nil] at hall

theorem execute_delivered (hread : h.files.read r.context.input = .ok text)
    (hp : (Product.ofInput r.settings r.context.modelOnly text).result = .ok p)
    (hwork : r.execute.run.run h = (.ok outcome, h')) :
    Delivered own r.context.logPath (r.context.outputs p) h.files h'.files := by
  unfold ActiveRun.execute at hwork
  rw [executeRun_eq, run_onProduct_of_read hread, hp] at hwork
  exact (reportAll_delivered r.context _ h).append
    (writeProduct_delivered (lasts_of_product hp) hwork)

/-- First manifest of a run, as it is written. -/
def RunContext.firstManifest (c : RunContext) (v : Revision) : String :=
  (Manifest.toJson { context := c, revision := v }).fileText

theorem announceRun_delivered (hgit : h.GitTouchesOnly own)
    (hrun : (announceRun c).run.run h = (.ok v, h')) :
    Delivered own c.logPath [(c.manifestPath, c.firstManifest v)] h.files h'.files := by
  obtain ⟨g, hprepare, hmanifest⟩ := announceRun_eq_ok_iff.1 hrun
  obtain ⟨h₀, hmade, hrevision⟩ := prepareRun_ok hprepare
  have hdirectories : Within ⟨fun _ => False, fun _ => True⟩ h.files h₀.files :=
    (Script.asks_ensureDirectories_in fun _ _ => trivial).within_of_run hmade
  have htended := tended_of_revision (hgit.of_run hmade) hrevision
  exact (Delivered.aside (fun _ => False.elim) hdirectories).append
    ((Delivered.of_tended htended).append
      (writeFile_delivered own c.logPath c.manifestPath_lasting hmanifest))

theorem beginRun_delivered (hgit : h.GitTouchesOnly own)
    (hbegin : (beginRun runId a).run.run h = (.ok r, h')) :
    Delivered own r.context.logPath [(r.context.manifestPath, r.context.firstManifest r.revision)]
      h.files h'.files := by
  obtain ⟨-, -, h₁, h₂, hannounce, htouch, hfiles⟩ := beginRun_ok hbegin
  have hannounced := announceRun_delivered (h := { h with looks := h.looks + 1 }) hgit hannounce
  have hopen : (logScope r.context).Admits (.touch r.context.logPath) := rfl
  have hopened : Within (logScope r.context) h₁.files h₂.files :=
    (Script.Asks.request hopen).within_of_run htouch
  rw [hfiles]
  exact hannounced.append
    ((Delivered.aside (fun _ => id) hopened).append (report_delivered own r.context _ h₂))

/-- The output directory of a run that has begun has been made. -/
theorem beginRun_directory (hgit : h.GitTouchesOnly own)
    (hbegin : (beginRun runId a).run.run h = (.ok r, h')) :
    ∃ g g' : Host, (Script.ensureDirectories r.context.outDir.ancestors).run g = (.ok (), g')
      ∧ Later g'.files h'.files := by
  obtain ⟨-, -, h₁, h₂, hannounce, htouch, hfiles⟩ := beginRun_ok hbegin
  obtain ⟨g, hprepare, hmanifest⟩ := announceRun_eq_ok_iff.1 hannounce
  obtain ⟨h₀, hmade, hrevision⟩ := prepareRun_ok hprepare
  have hgit₀ : h₀.GitTouchesOnly own :=
    Host.GitTouchesOnly.of_run (h := { h with looks := h.looks + 1 }) hgit hmade
  have htended := tended_of_revision hgit₀ hrevision
  have hwritten : Delivered own r.context.logPath _ g.files h₁.files :=
    writeFile_delivered own r.context.logPath r.context.manifestPath_lasting hmanifest
  have hopen : (logScope r.context).Admits (.touch r.context.logPath) := rfl
  have hopened : Within (logScope r.context) h₁.files h₂.files :=
    (Script.Asks.request hopen).within_of_run htouch
  have hreported : Later h₂.files h'.files := by
    rw [hfiles]
    exact (within_report r.context _ h₂).toLater
  exact ⟨_, h₀, hmade, htended.toLater.trans
    (hwritten.toLater.trans (hopened.toLater.trans hreported))⟩

theorem conclude_delivered (hend : (r.conclude wording (.ok outcome)).run.run h = (.ok (), h')) :
    ∃ last, Delivered own r.context.logPath [(r.context.manifestPath, last)] h.files h'.files := by
  obtain ⟨_, h₁, hfinish, hrun⟩ := Script.run_bind_eq_ok_iff.1 hend
  rw [Script.run_lift_bind] at hrun
  have hreport := Script.run_lift_eq_ok_iff.1 hrun
  have hgrown := report_delivered own r.context
    (.runFinished (r.since.millisecondsUntil (h₁.clock h₁.looks))) { h₁ with looks := h₁.looks + 1 }
  have hfiles : h'.files = _ := congrArg (fun out : Unit × Host => out.2.files) hreport.symm
  rw [run_finishRun] at hfinish
  have hwritten :=
    writeFile_delivered own r.context.logPath (RunContext.manifestPath_lasting _) hfinish
  rw [hfiles]
  exact ⟨_, hwritten.append hgrown⟩

/-! ## §3. Completed runs. -/

/-- A run that has succeeded, with what it went through. -/
structure CompletedRun (wording : Wording) (runId : String) (a : CompileArguments)
    (h h' : Host) where
  active : ActiveRun
  /-- The system when the work began. -/
  begun : Host
  /-- The text that was read from the input. -/
  text : String
  product : Product
  outcome : RunOutcome
  /-- The system when the work was done. -/
  worked : Host
  begins : (beginRun runId a).run.run h = (.ok active, begun)
  reads : begun.files.read a.input = .ok text
  produces : (Product.ofInput active.settings a.modelOnly text).result = .ok product
  works : active.execute.run.run begun = (.ok outcome, worked)
  ends : (active.conclude wording (.ok outcome)).run.run worked = (.ok (), h')

/-- **WHICH RUNS ARE COMPLETED**: those that succeed. -/
theorem nonempty_completedRun_iff : Nonempty (CompletedRun wording runId a h h')
    ↔ (compileRun wording runId a).run.run h = (.ok (), h') := by
  constructor
  · intro hcompleted
    obtain ⟨S⟩ := hcompleted
    rw [run_compileRun S.begins S.works, S.ends]
    rfl
  · intro hrun
    rcases hbegin : (beginRun runId a).run.run h with ⟨e | r, begun⟩
    · rw [run_compileRun_of_error hbegin] at hrun
      cases hrun
    rcases hwork : r.execute.run.run begun with ⟨result, worked⟩
    rw [run_compileRun hbegin hwork] at hrun
    obtain ⟨hresult, rfl⟩ := Prod.ext_iff.1 hrun
    obtain ⟨_, hends, hresult⟩ := bind_eq_ok_iff.1 hresult
    obtain ⟨outcome, rfl, -⟩ := map_eq_ok_iff.1 hresult
    obtain ⟨text, p, h₀, hread, hp, -⟩ := executeRun_ok hwork
    obtain ⟨-, hcontext, -⟩ := beginRun_ok hbegin
    rw [hcontext] at hread hp
    exact ⟨⟨r, begun, text, p, outcome, worked, hbegin, hread, hp, hwork, Prod.ext hends rfl⟩⟩

namespace CompletedRun

variable (S : CompletedRun wording runId a h h')

theorem context_eq : S.active.context = a.context runId (h.clock h.looks) :=
  (beginRun_ok S.begins).2.1

theorem input_eq : S.active.context.input = a.input := by
  rw [S.context_eq]
  rfl

theorem modelOnly_eq : S.active.context.modelOnly = a.modelOnly := by
  rw [S.context_eq]
  rfl

theorem outDir_eq : S.active.context.outDir = a.out := outDir_of_begin S.begins

theorem lasts : ∀ f ∈ S.product.files, f.Lasts := lasts_of_product S.produces

/-- **WHAT THE WORK AND THE END OF A COMPLETED RUN DELIVER.** -/
theorem delivered_since (own : Location → Prop) : ∃ last, Delivered own S.active.context.logPath
    (S.active.context.outputs S.product ++ [(S.active.context.manifestPath, last)])
    S.begun.files h'.files := by
  obtain ⟨last, hlast⟩ := conclude_delivered S.ends
  have hread : S.begun.files.read S.active.context.input = .ok S.text := by
    rw [S.input_eq, S.reads]
  have hproduct : (Product.ofInput S.active.settings S.active.context.modelOnly S.text).result
      = .ok S.product := by
    rw [S.modelOnly_eq, S.produces]
  exact ⟨last, (execute_delivered hread hproduct S.works).append hlast⟩

/-- **WHAT A COMPLETED RUN DELIVERS.** -/
theorem delivered (hgit : h.GitTouchesOnly own) : ∃ last, Delivered own S.active.context.logPath
    (S.active.context.deliveries S.product (S.active.context.firstManifest S.active.revision) last)
    h.files h'.files := by
  obtain ⟨last, hlast⟩ := S.delivered_since own
  exact ⟨last, (beginRun_delivered hgit S.begins).append hlast⟩

end CompletedRun

/-! ## §4. Runs that go through. -/

/-- A file is written to a path that is open. -/
theorem exists_run_writeFile (hq : Lasting q) (hopen : h.files.Open q) (text : String) :
    ∃ h', (writeFile q text).run.run h = (.ok (), h') ∧ Steady h.files h'.files := by
  obtain ⟨h', hrun, hsteady⟩ := Script.exists_run_replaceFile hq hopen text
  exact ⟨h', Script.run_orFail_eq_ok_iff.2 hrun, hsteady⟩

theorem files_report (c : RunContext) (e : Event) :
    ((EventLog.file c.logPath).report e).Asks Script.Filing :=
  .bind (.request trivial) fun _ => .bind (.request trivial) fun _ => .done _

theorem report_steady (c : RunContext) (e : Event) (h : Host) :
    Steady h.files (((EventLog.file c.logPath).report e).run h).2.files :=
  (files_report c e).steady (within_report c e h).toLater

theorem reportAll_steady (c : RunContext) (es : List Event) (h : Host) :
    Steady h.files (((EventLog.file c.logPath).reportAll es).run h).2.files := by
  induction es generalizing h with
  | nil => exact .refl h.files
  | cons e es ih =>
      rw [EventLog.reportAll, Script.run_bind]
      exact (report_steady c e h).trans (ih _)

/-- Files are generated where their paths are open. -/
theorem exists_run_writeGenerated (hfs : ∀ f ∈ fs, f.Lasts)
    (hopen : ∀ f ∈ fs, h.files.Open (c.pathOf f)) :
    ∃ listed h', (writeGenerated c (.file c.logPath) fs).run.run h = (.ok listed, h')
      ∧ Steady h.files h'.files := by
  -- what is open stays open, since writing files and reports makes no directory
  induction fs generalizing h with
  | nil => exact ⟨[], h, rfl, .refl h.files⟩
  | cons f fs ih =>
      obtain ⟨hf, hfs⟩ := List.forall_mem_cons.1 hfs
      obtain ⟨hopenf, hopen⟩ := List.forall_mem_cons.1 hopen
      obtain ⟨h₁, hwrite, hwritten⟩ :=
        exists_run_writeFile (lasting_of_lasts hf) hopenf f.contents
      have hgrown := hwritten.trans (report_steady c (.fileWritten (c.pathOf f)) h₁)
      obtain ⟨listed, h₂, hrest, hsteady⟩ := ih hfs fun g hg => (hopen g hg).steady hgrown
      refine ⟨c.listed (c.pathOf f) :: listed, h₂, ?_, hgrown.trans hsteady⟩
      rw [writeGenerated]
      refine Script.run_bind_eq_ok_iff.2 ⟨(), h₁, hwrite, ?_⟩
      rw [Script.run_lift_bind]
      exact Script.run_bind_eq_ok_iff.2 ⟨listed, h₂, hrest, rfl⟩

/-- **A PRODUCT IS WRITTEN WHERE ITS PATHS ARE OPEN.** -/
theorem exists_run_writeProduct (hp : ∀ f ∈ p.files, f.Lasts)
    (hopen : ∀ w ∈ c.outputs p, h.files.Open w.1) :
    ∃ outcome h', (writeProduct c (.file c.logPath) p).run.run h = (.ok outcome, h')
      ∧ Steady h.files h'.files := by
  obtain ⟨hmodel, hgenerated⟩ := List.forall_mem_cons.1 hopen
  -- the model first; what is generated is still open after it
  obtain ⟨h₁, hwrite, hwritten⟩ := exists_run_writeFile c.modelPath_lasting hmodel p.modelText
  have hgrown := hwritten.trans
    (report_steady c (.modelWritten c.modelPath p.entities.length) h₁)
  obtain ⟨listed, h₂, hrest, hsteady⟩ := exists_run_writeGenerated hp fun f hf =>
    (hgenerated _ (List.mem_map_of_mem hf)).steady hgrown
  let e : Event := .filesWritten (c.listed c.modelPath :: listed).length
  refine ⟨⟨p.entities.length, c.listed c.modelPath :: listed⟩,
    (((EventLog.file c.logPath).report e).run h₂).2, Script.run_bind_eq_ok_iff.2 ⟨(), h₁, hwrite, ?_⟩,
    hgrown.trans (hsteady.trans (report_steady c e h₂))⟩
  rw [writeOutput, Script.run_lift_bind]
  refine Script.run_bind_eq_ok_iff.2 ⟨listed, h₂, hrest, ?_⟩
  rw [Script.run_lift_bind]
  rfl

/-- **THE WORK OF A RUN GOES THROUGH** where the paths of its product are
open. -/
theorem exists_run_execute (hread : h.files.read r.context.input = .ok text)
    (hp : (Product.ofInput r.settings r.context.modelOnly text).result = .ok p)
    (hopen : ∀ w ∈ r.context.outputs p, h.files.Open w.1) :
    ∃ outcome h', r.execute.run.run h = (.ok outcome, h') ∧ Steady h.files h'.files := by
  have hgrown := reportAll_steady r.context
    (Product.ofInput r.settings r.context.modelOnly text).events h
  obtain ⟨outcome, h', hwrite, hsteady⟩ := exists_run_writeProduct (lasts_of_product hp)
    fun w hw => (hopen w hw).steady hgrown
  refine ⟨outcome, h', ?_, hgrown.trans hsteady⟩
  unfold ActiveRun.execute
  rw [executeRun_eq, run_onProduct_of_read hread, hp]
  exact hwrite

/-- The end of a run is marked where the path of its manifest is open. -/
theorem exists_run_conclude (wording : Wording) (hopen : h.files.Open r.context.manifestPath)
    (outcome : RunOutcome) :
    ∃ h', (r.conclude wording (.ok outcome)).run.run h = (.ok (), h')
      ∧ Steady h.files h'.files := by
  obtain ⟨h₁, hwrite, hwritten⟩ := exists_run_writeFile (h := { h with looks := h.looks + 1 })
    (RunContext.manifestPath_lasting _) hopen
    (r.manifest.ended wording (h.clock h.looks) (.ok outcome)).toJson.fileText
  let h₂ : Host := { h₁ with looks := h₁.looks + 1 }
  let e : Event := .runFinished (r.since.millisecondsUntil (h₁.clock h₁.looks))
  refine ⟨((r.log.report e).run h₂).2, ?_, hwritten.trans (report_steady r.context e h₂)⟩
  refine Script.run_bind_eq_ok_iff.2 ⟨(), h₁, ?_, ?_⟩
  · rw [run_finishRun]
    exact hwrite
  · rw [Script.run_lift_bind, Script.run_lift]
    rfl

/-- A run begins where the path of its manifest is open, if its directory and
its log are there. -/
theorem exists_run_beginRun_of_open (runId : String) {s : Settings} (hgit : h.GitTouchesOnly own)
    (hsettings : (loadSettings a.config).run.run h = (.ok s, h))
    (hdirectory : ∀ looks, (Script.ensureDirectories a.out.ancestors).run { h with looks }
      = (.ok (), { h with looks }))
    (hopen : h.files.Open (a.context runId (h.clock h.looks)).manifestPath)
    (hlogged : Logged (a.context runId (h.clock h.looks)) h.files) :
    ∃ r h', (beginRun runId a).run.run h = (.ok r, h') ∧ Steady h.files h'.files := by
  let c := a.context runId (h.clock h.looks)
  let h₀ : Host := { h with looks := h.looks + 1 }
  rcases hrevision : Script.revision.run h₀ with ⟨v, g⟩
  have htended : Steady h.files g.files := (tended_of_revision (h := h₀) hgit hrevision).steady
  obtain ⟨h₁, hwrite, hwritten⟩ := exists_run_writeFile c.manifestPath_lasting
    (hopen.steady htended) (c.firstManifest v)
  have hwritten := htended.trans hwritten
  have hprepare : (prepareRun c.outDir).run.run h₀ = (.ok v, g) :=
    Script.run_bind_eq_ok_iff.2 ⟨(), h₀, Script.run_orFail_eq_ok_iff.2 (hdirectory (h.looks + 1)),
      Script.run_lift_eq_ok_iff.2 hrevision⟩
  have hannounce : (announceRun c).run.run h₀ = (.ok v, h₁) :=
    announceRun_eq_ok_iff.2 ⟨g, hprepare, hwrite⟩
  obtain ⟨k, data, hk, hdata⟩ := hlogged.later hwritten.toLater
  obtain ⟨h₂, htouch⟩ := Script.exists_run_touch hk (FileTree.endsInSlash_eq_false c.log_called)
    (by rw [hdata]; exact nofun)
  -- the log was there, so opening it makes nothing new
  have htouched : Steady h₁.files h₂.files := by
    have hfiling : (Script.touch c.logPath).Asks Script.Filing := .request trivial
    have hopened : (logScope c).Admits (.touch c.logPath) := rfl
    have hsteady := hfiling.steady ((Script.Asks.request hopened).within h₁).toLater
    rwa [htouch] at hsteady
  obtain ⟨r, h', hbegin⟩ := exists_run_beginRun hsettings hannounce htouch
  refine ⟨r, h', hbegin, ?_⟩
  obtain ⟨-, hcontext, h₁', h₂', hannounce', htouch', hfiles⟩ := beginRun_ok hbegin
  rw [hcontext] at hannounce' htouch'
  obtain ⟨-, rfl⟩ := Prod.ext_iff.1 (hannounce.symm.trans hannounce')
  cases htouch.symm.trans htouch'
  rw [hfiles]
  exact hwritten.trans (htouched.trans (report_steady r.context _ h₂))

end EntitySchema
