/-
  EntitySchema.Proofs.Run.Ending
  ────────────────────────────────
  **THE MANIFEST FROM THE BEGINNING OF A RUN TO ITS END.**

  The first manifest of a run stays in its place while the run works, and
  there is room to put the last one there, but for a directory that may have
  come to the place of the manifest in the making:

      beginning    RUNNING
      work         RUNNING, whatever is written
      end          OK or ERROR, or RUNNING if there is such a directory

  Main results: `beginRun_marked`, `Marked.sparing`, `run_conclude`,
  `run_conclude_of_directory`.
-/
import EntitySchema.Proofs.Run.Course

namespace EntitySchema

open EntitySchema.FileTree (EndsIn Later Ready Within endsInSlash)

variable {h h' h₁ : Host} {t t' : FileTree} {c : RunContext} {r : ActiveRun} {wording : Wording}
  {runId : String} {a : CompileArguments} {k l m : Location} {M M' : Manifest}

/-! ## §1. The manifest in its place. -/

/-- A manifest of a run is in its place, and can be replaced. -/
structure Marked (c : RunContext) (M : Manifest) (t : FileTree) (l m : Location) : Prop where
  context : M.context = c
  ready : t.Ready c.manifestPath l m
  text : t.get? l = some (.file M.toJson.fileText.toUTF8)

theorem getLast?_of_manifest (h : t.Leads c.manifestPath l) : l.getLast? = some "manifest.json" := by
  rw [h.getLast?, FileTree.getLast?_names c.manifest_called]

namespace Marked

theorem read (h : Marked c M t l m) : t.read c.manifestPath = .ok M.toJson.fileText :=
  h.ready.leads.read_eq h.text (FileTree.endsInSlash_eq_false c.manifest_called)

/-- It stays while nothing of its name is touched. -/
theorem sparing (h : Marked c M t l m) (hwithin : Within (sparing "manifest.json") t t') :
    Marked c M t' l m := by
  have htext := (file_of_sparing hwithin (getLast?_of_manifest h.ready.leads)).2 h.text
  exact ⟨h.context, h.ready.later hwithin.toLater (by rw [htext]; exact nofun), htext⟩

/-- A report touches neither it nor the manifest in the making. -/
theorem log (h : Marked c M t l m) (hwithin : Within (logScope c) t t') :
    Marked c M t' l m ∧ t'.get? m = t.get? m := by
  have hl : t'.get? l = t.get? l := by
    refine get?_of_within_log hwithin ?_
    rw [getLast?_of_manifest h.ready.leads]
    decide
  have htext := hl.trans h.text
  refine ⟨⟨h.context, h.ready.later hwithin.toLater (by rw [htext]; exact nofun), htext⟩,
    get?_of_within_log hwithin ?_⟩
  obtain ⟨u, hu⟩ := h.ready.endsIn_temporary
  rw [hu]
  exact fun heq =>
    Path.append_ne_append (e := ".ndjson") (by decide) "logs" u (Option.some.inj heq).symm

end Marked

/-! ## §2. Writing the manifest. -/

/-- A manifest that was written is in its place. -/
theorem writeManifest_marked (hc : M.context = c)
    (hrun : (writeManifest M).run.run h = (.ok (), h')) :
    ∃ l m, Marked c M h'.files l m ∧ h'.files.get? m = none := by
  subst hc
  obtain ⟨l, m, hready, htext, hnone⟩ :=
    Script.replaceFile_ready M.context.manifestPath_lasting (Script.run_orFail_eq_ok_iff.1 hrun)
  exact ⟨l, m, ⟨rfl, hready, htext⟩, hnone⟩

/-- A manifest gives way to another one. -/
theorem Marked.exists_run_writeManifest (h₀ : Marked c M h.files l m) (hc : M'.context = c)
    (hm : h.files.get? m ≠ some .directory) :
    ∃ h', (writeManifest M').run.run h = (.ok (), h') ∧ Later h.files h'.files
      ∧ Marked c M' h'.files l m ∧ h'.files.get? m = none := by
  subst hc
  have hready := h₀.ready
  have hlater : Later h.files (h.files.refill l m M'.toJson.fileText.toUTF8) :=
    FileTree.later_refill hready.free hm hready.endsIn_temporary
  -- the new text is in the place of the manifest, and nothing is in the temporary one
  have htext : (h.files.refill l m M'.toJson.fileText.toUTF8).get? l = _ :=
    FileTree.get?_refill hready.free hm l
  rw [if_pos rfl] at htext
  have hnone : (h.files.refill l m M'.toJson.fileText.toUTF8).get? m = _ :=
    FileTree.get?_refill hready.free hm m
  rw [if_neg (M'.context.manifestPath_lasting.ne hready).symm, if_pos rfl] at hnone
  have hmarked := hready.later hlater (by rw [htext]; exact nofun)
  exact ⟨_, Script.run_orFail_eq_ok_iff.2
    (Script.run_replaceFile M'.context.manifestPath_lasting hready hm), hlater,
    ⟨rfl, hmarked, htext⟩, hnone⟩

theorem Marked.run_writeManifest_of_directory (h₀ : Marked c M h.files l m) (hc : M'.context = c)
    (hm : h.files.get? m = some .directory) :
    (writeManifest M').run.run h = (.error (.write (.file .isDirectory)), h) := by
  subst hc
  exact Script.run_orFail_eq_error_iff.2
    ⟨_, Script.run_replaceFile_of_directory M'.context.manifestPath_lasting h₀.ready hm, rfl⟩

/-! ## §3. The beginning and the work. -/

/-- The log lies beside the manifest. -/
theorem Marked.exists_leads_log (h : Marked c M t l m) : ∃ k, t.Leads c.logPath k :=
  h.ready.leads.exists_beside RunContext.manifest_fileName {} (by decide) (by decide)

/-- The log is no temporary file. -/
theorem not_endsIn_of_log (hk : t.Leads c.logPath k) : ¬ EndsIn ".tmp" k := by
  rintro ⟨u, hu⟩
  rw [hk.getLast?, FileTree.getLast?_names c.log_called] at hu
  exact Path.append_ne_append (e := ".ndjson") (by decide) "logs" u (Option.some.inj hu)

/-- The log of a run is a file. -/
def Logged (c : RunContext) (t : FileTree) : Prop :=
  ∃ k data, t.Leads c.logPath k ∧ t.get? k = some (.file data)

theorem Logged.later (h : Logged c t) (hlater : Later t t') : Logged c t' := by
  obtain ⟨k, data, hk, hdata⟩ := h
  obtain ⟨data', hdata'⟩ := hlater.file k data (not_endsIn_of_log hk) hdata
  exact ⟨k, data', hlater.leads hk, hdata'⟩

/-- **A RUN THAT HAS BEGUN** has its manifest and its log in place. -/
theorem beginRun_marked (hbegin : (beginRun runId a).run.run h = (.ok r, h')) :
    (∃ l m, Marked r.context r.manifest h'.files l m) ∧ Logged r.context h'.files := by
  obtain ⟨-, -, h₁, h₂, hannounce, htouch, hfiles⟩ := beginRun_ok hbegin
  obtain ⟨g, -, hmanifest⟩ := announceRun_eq_ok_iff.1 hannounce
  obtain ⟨l, m, hmarked, -⟩ := writeManifest_marked (c := r.context) rfl hmanifest
  have hscope : WorkCovers (sparing "manifest.json") r.context := workCovers_sparing_manifest
  have hopen : (sparing "manifest.json").Admits (.touch r.context.logPath) := hscope.log
  have hopened : Within (sparing "manifest.json") h₁.files h₂.files :=
    (Script.Asks.request hopen).within_of_run htouch
  have hreported : Within (sparing "manifest.json") h₂.files h'.files := by
    rw [hfiles]
    exact (asks_report hscope.log _).within h₂
  have hlogged : Logged r.context h₂.files := Script.touch_ok htouch
  exact ⟨⟨l, m, hmarked.sparing (hopened.trans hreported)⟩, hlogged.later hreported.toLater⟩

/-- The work of a run leaves its manifest and its log in place. -/
theorem within_execute {result : Except RunFault RunOutcome}
    (hwork : r.execute.run.run h = (result, h')) :
    Within (sparing "manifest.json") h.files h'.files :=
  (asks_execute workCovers_sparing_manifest).within_of_run hwork

/-! ## §4. The end. -/

/-- **THE END OF A RUN CANNOT BE MARKED** while a directory is in the place of
the manifest in the making; the manifest stays what it was. -/
theorem run_conclude_of_directory (result : Except RunFault RunOutcome)
    (h₀ : Marked r.context M h.files l m) (hm : h.files.get? m = some .directory) :
    ∃ h', (r.conclude wording result).run.run h = (.error (.write (.file .isDirectory)), h')
      ∧ Marked r.context M h'.files l m ∧ h'.files.get? m = some .directory
      ∧ Later h.files h'.files := by
  -- the last manifest fails either way; a run that failed has reported its fault before
  cases result with
  | ok outcome =>
      let h₁ : Host := { h with looks := h.looks + 1 }
      refine ⟨h₁, ?_, h₀, hm, .refl h.files⟩
      refine Script.run_bind_eq_error_iff.2 (.inl ?_)
      rw [run_finishRun]
      exact h₀.run_writeManifest_of_directory (h := h₁) (ended_context _ _ _ _) hm
  | error e =>
      have hreport := within_report r.context (.runFailed (e.message wording)) h
      obtain ⟨hmarked, hsame⟩ := h₀.log hreport
      have hm₁ := hsame.trans hm
      let h₁ : Host :=
        (((EventLog.file r.context.logPath).report (.runFailed (e.message wording))).run h).2
      let h₂ : Host := { h₁ with looks := h₁.looks + 1 }
      refine ⟨h₂, ?_, hmarked, hm₁, hreport.toLater⟩
      rw [ActiveRun.conclude, Script.run_lift_bind, run_finishRun]
      exact hmarked.run_writeManifest_of_directory (h := h₂) (ended_context _ _ _ _) hm₁

/-- **OTHERWISE THE END IS MARKED.** -/
theorem run_conclude (result : Except RunFault RunOutcome) (h₀ : Marked r.context M h.files l m)
    (hm : h.files.get? m ≠ some .directory) :
    ∃ ended h', (r.conclude wording result).run.run h = (.ok (), h')
      ∧ Marked r.context (r.manifest.ended wording ended result) h'.files l m
      ∧ h'.files.get? m = none ∧ Later h.files h'.files := by
  -- a run that went well reports after its manifest, one that failed before it
  cases result with
  | ok outcome =>
      obtain ⟨h₁, hrun, hlater, hmarked, hnone⟩ :=
        h₀.exists_run_writeManifest (h := { h with looks := h.looks + 1 })
          (ended_context wording r.manifest (h.clock h.looks) (.ok outcome)) hm
      let h₂ : Host := { h₁ with looks := h₁.looks + 1 }
      let e : Event := .runFinished (r.since.millisecondsUntil (h₁.clock h₁.looks))
      have hreport := within_report r.context e h₂
      obtain ⟨hmarked', hsame⟩ := hmarked.log hreport
      refine ⟨h.clock h.looks, ((r.log.report e).run h₂).2, ?_, hmarked', hsame.trans hnone,
        hlater.trans hreport.toLater⟩
      refine Script.run_bind_eq_ok_iff.2 ⟨(), h₁, ?_, ?_⟩
      · rw [run_finishRun, hrun]
      · rw [Script.run_lift_bind, Script.run_lift]
        rfl
  | error e =>
      have hreport := within_report r.context (.runFailed (e.message wording)) h
      obtain ⟨hmarked, hsame⟩ := h₀.log hreport
      let h₁ : Host :=
        (((EventLog.file r.context.logPath).report (.runFailed (e.message wording))).run h).2
      obtain ⟨h₂, hrun, hlater, hmarked', hnone⟩ :=
        hmarked.exists_run_writeManifest (h := { h₁ with looks := h₁.looks + 1 })
          (ended_context wording r.manifest (h₁.clock h₁.looks) (.error e)) (by rwa [hsame])
      refine ⟨h₁.clock h₁.looks, h₂, ?_, hmarked', hnone, hreport.toLater.trans hlater⟩
      rw [ActiveRun.conclude, Script.run_lift_bind, run_finishRun]
      exact hrun

end EntitySchema
