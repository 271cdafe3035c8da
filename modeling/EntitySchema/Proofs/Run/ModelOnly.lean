/-
  EntitySchema.Proofs.Run.ModelOnly
  ────────────────────────────────
  **RUNS WITH AND WITHOUT GENERATED FILES.**

  Two runs from one state, of which one writes the model alone, go the same
  way until the model is written.  All that either sees of itself is its
  manifest and its log, and no manifest is an input:

      beginning    the same fault, or equal but for the manifest
      product      the same fault, or the same entities
      model        the same fault, or the same text
      end          the model stays

  Main results: `ofInput_sameOutcome`, `product_sameOutcome`,
  `compileRun_modes`.
-/
import EntitySchema.Proofs.Files.Likeness
import EntitySchema.Proofs.Model.RoundTrip
import EntitySchema.Proofs.Run.ModelStage
import EntitySchema.Proofs.Run.Outputs

namespace EntitySchema

open EntitySchema.FileTree (Alike Later SameShape Within)
open EntitySchema.Script (Agree)

variable {h h' h₁ h₂ : Host} {c c' : RunContext} {r r' : ActiveRun} {wording : Wording}
  {runId : String} {a : CompileArguments} {m m' : Bool} {p p' : Product} {v v' : Revision}

/-! ## §1. A manifest is no input. -/

/-- The manifest of a run that has yet to end holds no number. -/
theorem plain_manifest (c : RunContext) (v : Revision) {room : Nat} :
    (Manifest.toJson { context := c, revision := v }).Plain (room + 2) := by
  have hrevision : (Manifest.revisionJson v).Plain (room + 1) := by
    -- before the end of a run its manifest has texts and nulls, and the revision as an object
    refine .object (by simp) ?_
    simp only [List.forall_mem_cons]
    refine ⟨?_, ?_, List.forall_mem_nil _⟩
    · rcases v.commit with _ | commit
      · exact .null
      · exact .text commit
    · rcases v.dirty with _ | dirty
      · exact .null
      · exact .bool dirty
  refine .object (by simp) ?_
  simp only [List.forall_mem_cons]
  exact ⟨.text _, .text _, .text _, .bool _, .text _, .text _, .text _, .null, .null,
    .array nofun, .null, hrevision, List.forall_mem_nil _⟩

/-- A document whose entities are null violates its schema there alone. -/
theorem descriptorViolations_of_null {ms : List (String × Json)}
    (hms : ms.lookup "entities" = some .null) :
    descriptorViolations (.object ms) = [⟨["entities"], .null, .wrongType [.array]⟩] := by
  simp [descriptorViolations, Contract.descriptorSet, Contract.described, Schema.violations,
    Schema.violationsAt, Schema.propertyViolations, Schema.checkRequired, Schema.checkType,
    JsonType.has, hms]

/-- **THE MANIFEST OF A RUN THAT HAS YET TO END IS NO INPUT**, and what is
wrong with it does not depend on the run. -/
theorem ofInput_firstManifest (s : Settings) (m : Bool) (c : RunContext) (v : Revision) :
    (Product.ofInput s m (c.firstManifest v)).result
      = .error (.invalidInput 1 ⟨["entities"], .null, .wrongType [.array]⟩) := by
  have hplain : (Manifest.toJson { context := c, revision := v }).Plain Json.nestingLimit :=
    plain_manifest c v
  obtain ⟨ms, horder, hms⟩ := Json.object_same_iff.1 hplain.same_inOrder
  -- the reader may put members in another order, but the entities are null in any order
  have hentities : ms.lookup "entities" = some .null := by
    have hsame : Option.Rel Json.Same (some .null) (ms.lookup "entities") := hms "entities"
    generalize ms.lookup "entities" = v at hsame
    cases hsame with
    | some hv =>
        cases hv
        rfl
  have hread : Json.read? (c.firstManifest v) = some (.object ms) := by
    rw [RunContext.firstManifest, Json.read?_fileText hplain, horder]
  have hcheck : (checkDocument (.object ms)).result
      = .error (.invalidInput 1 ⟨["entities"], .null, .wrongType [.array]⟩) := by
    rw [checkDocument, descriptorViolations_of_null hentities]
    rfl
  refine Reported.andThen_eq_error_iff.2 (.inr ⟨_, readDocument_eq_ok_iff.2 hread, ?_⟩)
  exact Reported.andThen_eq_error_iff.2 (.inl hcheck)

/-! ## §2. Products. -/

theorem Reported.andThen_sameOutcome {α β γ δ : Type} {R : α → β → Prop} {Q : γ → δ → Prop}
    {x : Reported α} {y : Reported β} {f : α → Reported γ} {g : β → Reported δ}
    (hxy : SameOutcome R x.result y.result)
    (hfg : ∀ a b, R a b → SameOutcome Q (f a).result (g b).result) :
    SameOutcome Q (x.andThen f).result (y.andThen g).result := by
  obtain ⟨events, result⟩ := x
  obtain ⟨events', result'⟩ := y
  cases hxy with
  | error e => exact .error e
  | ok hab => exact hfg _ _ hab

/-- What is generated from compiled entities is generated without a fault. -/
theorem exists_generated {o : CompileOptions} {set : DescriptorSet} {es : List Entity}
    (hes : compile o set = .ok es) (l : OutputLayout) (m : Bool) :
    ∃ fs, (if m then Reported.silent (.ok []) else bundleReported l es).result = .ok fs := by
  cases m with
  | true => exact ⟨[], rfl⟩
  | false => exact ⟨_, bundleReported_eq_ok_iff.2 (Source.bundle_of_compile hes l)⟩

/-- **THE MODEL DOES NOT DEPEND ON WHETHER FILES ARE GENERATED**, nor does the
fault of an input that has none. -/
theorem ofInput_sameOutcome (s : Settings) (m m' : Bool) (text : String) :
    SameOutcome (fun p p' : Product => p'.entities = p.entities)
      (Product.ofInput s m text).result (Product.ofInput s m' text).result := by
  refine Reported.andThen_sameOutcome (.of_eq rfl) fun d _ hd => hd ▸ ?_
  refine Reported.andThen_sameOutcome (.of_eq rfl) fun d _ hd => hd ▸ ?_
  refine Reported.andThen_sameOutcome (.of_eq rfl) fun set _ hset => hset ▸ ?_
  refine Reported.andThen_sameOutcome (.self _) fun es es' hes => ?_
  obtain ⟨rfl, hes⟩ := hes
  -- compiled entities always have files, so the mode adds no fault of its own
  have hcompile := compileReported_eq_ok_iff.1 hes
  obtain ⟨fs, hfs⟩ := exists_generated hcompile s.emit m
  obtain ⟨fs', hfs'⟩ := exists_generated hcompile s.emit m'
  have hboth : SameOutcome (fun _ _ => True)
      (if m then Reported.silent (.ok []) else bundleReported s.emit es').result
      (if m' then Reported.silent (.ok []) else bundleReported s.emit es').result := by
    rw [hfs, hfs']
    exact .ok trivial
  exact Reported.andThen_sameOutcome hboth fun _ _ _ => .ok rfl

/-! ## §3. Steps that agree. -/

theorem agree_writeFile (q : Path) (text text' : String) :
    Agree (SameOutcome (· = ·)) (writeFile q text).run (writeFile q text').run :=
  Agree.orFail ((Script.agree_replaceFile q text text').mono fun _ _ h => h.eq) _

theorem agree_writeManifest {M M' : Manifest} (hdir : M'.context.outDir = M.context.outDir) :
    Agree (SameOutcome (· = ·)) (writeManifest M).run (writeManifest M').run := by
  rw [writeManifest, writeManifest, RunContext.manifestPath, RunContext.manifestPath, hdir]
  exact agree_writeFile _ _ _

theorem agree_report (q : Path) (e e' : Event) :
    Agree (fun _ _ => True) ((EventLog.file q).report e) ((EventLog.file q).report e') :=
  Agree.now.bind fun _ _ _ => (Agree.appendBytes q _ _).bind fun _ _ _ => .pure trivial

/-- The end of a run that failed is marked alike. -/
theorem agree_conclude_error (hdir : r'.context.outDir = r.context.outDir) (e : RunFault) :
    Agree (SameOutcome (· = ·)) (r.conclude wording (.error e)).run
      (r'.conclude wording (.error e)).run := by
  have hlog : r'.log = r.log := by
    rw [ActiveRun.log, ActiveRun.log, RunContext.logPath, RunContext.logPath, hdir]
  unfold ActiveRun.conclude
  rw [hlog]
  refine (agree_report _ _ _).lift.run_bind fun _ _ _ => ?_
  exact Agree.now.lift.run_bind fun _ _ _ => agree_writeManifest hdir

/-! ## §4. The beginning. -/

/-- The same arguments for a run that writes the model alone, or not. -/
def CompileArguments.inMode (a : CompileArguments) (modelOnly : Bool) : CompileArguments :=
  { a with modelOnly }

theorem agree_openRun (hdir : c'.outDir = c.outDir) (s : Settings) (v : Revision) :
    Agree (SameOutcome fun r r' => r'.settings = r.settings ∧ r'.context.outDir = r.context.outDir)
      (openRun c s v).run (openRun c' s v).run := by
  have hlog : c'.logPath = c.logPath := by rw [RunContext.logPath, RunContext.logPath, hdir]
  unfold openRun
  rw [hlog]
  refine (agree_writeManifest hdir).run_bind fun _ _ _ => ?_
  refine ((Agree.touch _).orFail _).run_bind fun _ _ _ => ?_
  refine (agree_report _ _ _).lift.run_bind fun _ _ _ => ?_
  exact Agree.now.lift.run_bind fun _ _ _ => .pure (.ok ⟨rfl, hdir⟩)

/-- **BOTH RUNS BEGIN, OR NEITHER DOES.** -/
theorem beginRun_sameOutcome (runId : String) (a : CompileArguments) (m m' : Bool) (h : Host) :
    SameOutcome (fun r r' => r'.settings = r.settings ∧ r'.context.outDir = r.context.outDir)
        ((beginRun runId (a.inMode m)).run.run h).1 ((beginRun runId (a.inMode m')).run.run h).1
      ∧ SameShape ((beginRun runId (a.inMode m)).run.run h).2.files
        ((beginRun runId (a.inMode m')).run.run h).2.files := by
  have hsame : (a.inMode m').config = (a.inMode m).config := rfl
  have hout : (a.inMode m').out = (a.inMode m).out := rfl
  rw [run_beginRun, run_beginRun, hsame, hout]
  rcases ((loadSettings (a.inMode m).config).run.run h).1 with e | s
  · exact ⟨.error e, .refl h.files⟩
  · -- both are prepared by the same script, and only then differ
    simp only [ExceptT.run_bind, Script.run_bind]
    rcases (prepareRun (a.inMode m).out).run.run { h with looks := h.looks + 1 } with ⟨e | v, g⟩
    · exact ⟨.error e, .refl g.files⟩
    · have hdir : ((a.inMode m').context runId (h.clock h.looks)).outDir
          = ((a.inMode m).context runId (h.clock h.looks)).outDir := rfl
      have hopened := agree_openRun hdir s v g g (.refl g.files)
      dsimp only
      -- the runs are named, so that they are not unfolded to be compared
      generalize (openRun ((a.inMode m).context runId (h.clock h.looks)) s v).run.run g = ran
        at hopened ⊢
      generalize (openRun ((a.inMode m').context runId (h.clock h.looks)) s v).run.run g = ran'
        at hopened ⊢
      exact hopened

theorem manifestPath_congr (hdir : c'.outDir = c.outDir) : c'.manifestPath = c.manifestPath := by
  rw [RunContext.manifestPath, RunContext.manifestPath, hdir]

theorem logPath_congr (hdir : c'.outDir = c.outDir) : c'.logPath = c.logPath := by
  rw [RunContext.logPath, RunContext.logPath, hdir]

/-- Runs that have announced themselves differ in the manifest alone. -/
theorem announceRun_alike (hdir : c'.outDir = c.outDir)
    (hrun : (announceRun c).run.run h = (.ok v, h₁))
    (hrun' : (announceRun c').run.run h = (.ok v', h₂)) :
    ∃ l, h₁.files.Leads c.manifestPath l ∧ Alike (· = l) h₁.files h₂.files
      ∧ h₂.clock = h₁.clock ∧ h₂.looks = h₁.looks := by
  obtain ⟨g, hprepare, hmanifest⟩ := announceRun_eq_ok_iff.1 hrun
  obtain ⟨g', hprepare', hmanifest'⟩ := announceRun_eq_ok_iff.1 hrun'
  rw [hdir] at hprepare'
  obtain ⟨-, rfl⟩ := Prod.ext_iff.1 (hprepare.symm.trans hprepare')
  rw [writeManifest] at hmanifest hmanifest'
  rw [manifestPath_congr hdir] at hmanifest'
  exact Script.replaceFile_alike c.manifestPath_lasting
    (Script.run_orFail_eq_ok_iff.1 hmanifest) (Script.run_orFail_eq_ok_iff.1 hmanifest')

/-- The same report at the same time goes to logs that are alike. -/
theorem report_alike {E : Location → Prop} (q : Path) (e : Event)
    (halike : Alike E h₁.files h₂.files) (hclock : h₂.clock = h₁.clock)
    (hlooks : h₂.looks = h₁.looks) : Alike E (((EventLog.file q).report e).run h₁).2.files
      (((EventLog.file q).report e).run h₂).2.files := by
  have hrun : ∀ g : Host, (((EventLog.file q).report e).run g).2.files
      = (Host.update { g with looks := g.looks + 1 }
          (g.files.append q (e.line (g.clock g.looks)).toUTF8)).2.files := fun _ => rfl
  have hline : SameOutcome (Alike E)
      (h₁.files.append q (e.line (h₁.clock h₁.looks)).toUTF8)
      (h₂.files.append q (e.line (h₁.clock h₁.looks)).toUTF8) :=
    halike.append q fun _ _ => rfl
  rw [hrun, hrun, hclock, hlooks]
  exact (Script.update_alike { h₁ with looks := h₁.looks + 1 }
    { h₂ with clock := h₁.clock, looks := h₁.looks + 1 } hline halike).2

/-- **RUNS THAT HAVE BEGUN** from one state have left the same files, but for
the manifest. -/
theorem beginRun_alike (hbegin : (beginRun runId (a.inMode m)).run.run h = (.ok r, h₁))
    (hbegin' : (beginRun runId (a.inMode m')).run.run h = (.ok r', h₂)) :
    ∃ l, h₁.files.Leads r.context.manifestPath l ∧ Alike (· = l) h₁.files h₂.files := by
  obtain ⟨-, -, g₁, g₂, hannounce, htouch, hfiles⟩ := beginRun_ok hbegin
  obtain ⟨-, -, g₁', g₂', hannounce', htouch', hfiles'⟩ := beginRun_ok hbegin'
  have hdir : r'.context.outDir = r.context.outDir :=
    (outDir_of_begin hbegin').trans (outDir_of_begin hbegin).symm
  obtain ⟨l, hl, halike, hclock, hlooks⟩ := announceRun_alike hdir hannounce hannounce'
  rw [logPath_congr hdir] at htouch'
  have hopen : (logScope r.context).Admits (.touch r.context.logPath) := rfl
  have hopened : Within (logScope r.context) g₁.files g₂.files :=
    (Script.Asks.request hopen).within_of_run htouch
  have hreported := within_report r.context (.runStarted runId a.input) g₂
  refine ⟨l, ?_, ?_⟩
  · rw [hfiles]
    exact hreported.toLater.leads (hopened.toLater.leads hl)
  · -- both logs are opened and then hold the same first line
    obtain ⟨t, ht, rfl⟩ := Script.update_eq_ok_iff.1 htouch
    obtain ⟨t', ht', rfl⟩ := Script.update_eq_ok_iff.1 htouch'
    have htouched := halike.touch r.context.logPath
    rw [ht, ht'] at htouched
    cases htouched with
    | ok htouched =>
        rw [hfiles, hfiles', ActiveRun.log, ActiveRun.log, logPath_congr hdir]
        exact report_alike _ _ htouched hclock hlooks

/-- **BOTH RUNS FIND THE SAME INPUT**, unless it is their manifest. -/
theorem read_input (hbegin : (beginRun runId (a.inMode m)).run.run h = (.ok r, h₁))
    (hbegin' : (beginRun runId (a.inMode m')).run.run h = (.ok r', h₂)) :
    h₂.files.read a.input = h₁.files.read a.input
      ∨ h₁.files.read a.input = .ok (r.context.firstManifest r.revision)
        ∧ h₂.files.read a.input = .ok (r'.context.firstManifest r'.revision) := by
  obtain ⟨l, hl, halike⟩ := beginRun_alike hbegin hbegin'
  -- the trees differ in the manifest alone, so the input differs only if it is the manifest
  by_cases hinput : ∃ c, h₁.files.find a.input = .ok (l, .file c)
  · obtain ⟨c, hfind⟩ := hinput
    obtain ⟨⟨k, _, hmarked⟩, -⟩ := beginRun_marked hbegin
    obtain ⟨⟨k', _, hmarked'⟩, -⟩ := beginRun_marked hbegin'
    have hdir : r'.context.outDir = r.context.outDir :=
      (outDir_of_begin hbegin').trans (outDir_of_begin hbegin).symm
    have hleads' := hmarked'.ready.leads
    rw [manifestPath_congr hdir] at hleads'
    cases hmarked.ready.leads.eq hl
    cases hleads'.eq (halike.leads hl)
    have hfound := halike.find a.input
    rw [hfind] at hfound
    generalize hfind' : h₂.files.find a.input = found at hfound
    obtain _ | @⟨_, ⟨l', n'⟩, rfl, hc, hc'⟩ := hfound
    cases hc.symm.trans hmarked.text
    cases hc'.symm.trans hmarked'.text
    exact .inr ⟨FileTree.read_of_find hfind, FileTree.read_of_find hfind'⟩
  · exact .inl (halike.read_eq fun k c hfind hk => hinput ⟨c, hk ▸ hfind⟩)

/-- An input that has a product is the same for both. -/
theorem read_input_of_product {text : String}
    (hbegin : (beginRun runId (a.inMode m)).run.run h = (.ok r, h₁))
    (hbegin' : (beginRun runId (a.inMode m')).run.run h = (.ok r', h₂))
    (hread : h₁.files.read a.input = .ok text) {s : Settings} {modelOnly : Bool}
    (hproduct : (Product.ofInput s modelOnly text).result = .ok p) :
    h₂.files.read a.input = .ok text := by
  rcases read_input hbegin hbegin' with hsame | ⟨hmanifest, -⟩
  · rw [hsame, hread]
  · obtain rfl : text = _ := Except.ok.inj (hread.symm.trans hmanifest)
    rw [ofInput_firstManifest] at hproduct
    cases hproduct

/-! ## §5. The work up to the model. -/

/-- What is reported changes no shape. -/
theorem sameShape_report (q : Path) (e : Event) (h : Host) :
    SameShape h.files (((EventLog.file q).report e).run h).2.files := by
  have hrun : (((EventLog.file q).report e).run h).2.files
      = (Host.update { h with looks := h.looks + 1 }
          (h.files.append q (e.line (h.clock h.looks)).toUTF8)).2.files := rfl
  rw [hrun]
  cases happend : h.files.append q (e.line (h.clock h.looks)).toUTF8 with
  | error e => exact .refl h.files
  | ok t => exact FileTree.sameShape_of_append happend

theorem sameShape_reportAll (q : Path) (es : List Event) (h : Host) :
    SameShape h.files (((EventLog.file q).reportAll es).run h).2.files := by
  induction es generalizing h with
  | nil => exact .refl h.files
  | cons e es ih =>
      rw [EventLog.reportAll, Script.run_bind]
      exact (sameShape_report q e h).trans (ih _)

theorem agree_writeModel (q : Path) (hentities : p'.entities = p.entities) :
    Agree (SameOutcome fun p p' => p'.entities = p.entities)
      (do writeFile q p.modelText; return p : RunScript Product).run
      (do writeFile q p'.modelText; return p' : RunScript Product).run :=
  (agree_writeFile _ _ _).run_bind fun _ _ _ => .pure (.ok hentities)

/-- Runs whose products have the same model write it alike. -/
theorem writeModel_of_products {text text' : String} (hdir : r'.context.outDir = r.context.outDir)
    (hshape : SameShape h₁.files h₂.files) (hread : h₁.files.read r.context.input = .ok text)
    (hread' : h₂.files.read r'.context.input = .ok text')
    (hproduct : SameOutcome (fun p p' : Product => p'.entities = p.entities)
      (Product.ofInput r.settings r.context.modelOnly text).result
      (Product.ofInput r'.settings r'.context.modelOnly text').result) :
    SameOutcome (fun p p' => p'.entities = p.entities)
        (r.writeModel.run.run h₁).1 (r'.writeModel.run.run h₂).1
      ∧ SameShape (r.writeModel.run.run h₁).2.files (r'.writeModel.run.run h₂).2.files := by
  have hmodelPath : r'.context.modelPath = r.context.modelPath := by
    rw [RunContext.modelPath, RunContext.modelPath, hdir]
  have hreported : SameShape
      ((r.log.reportAll (Product.ofInput r.settings r.context.modelOnly text).events).run h₁).2.files
      ((r'.log.reportAll
        (Product.ofInput r'.settings r'.context.modelOnly text').events).run h₂).2.files :=
    ((sameShape_reportAll _ _ h₁).symm.trans hshape).trans (sameShape_reportAll _ _ h₂)
  -- up to the product nothing but reports was written
  unfold ActiveRun.writeModel
  rw [run_onProduct_of_read hread, run_onProduct_of_read hread']
  generalize (Product.ofInput r.settings r.context.modelOnly text).result = x at hproduct ⊢
  generalize (Product.ofInput r'.settings r'.context.modelOnly text').result = x' at hproduct ⊢
  cases hproduct with
  | error e => exact ⟨.error e, hreported⟩
  | ok hentities =>
      rw [hmodelPath]
      have hwritten := agree_writeModel r.context.modelPath hentities _ _ hreported
      dsimp only
      exact hwritten

/-- **BOTH RUNS WRITE THE SAME MODEL**, or neither writes one, for the same
fault. -/
theorem writeModel_sameOutcome
    (hbegin : (beginRun runId (a.inMode m)).run.run h = (.ok r, h₁))
    (hbegin' : (beginRun runId (a.inMode m')).run.run h = (.ok r', h₂)) :
    SameOutcome (fun p p' => p'.entities = p.entities)
        (r.writeModel.run.run h₁).1 (r'.writeModel.run.run h₂).1
      ∧ SameShape (r.writeModel.run.run h₁).2.files (r'.writeModel.run.run h₂).2.files := by
  have hdir : r'.context.outDir = r.context.outDir :=
    (outDir_of_begin hbegin').trans (outDir_of_begin hbegin).symm
  have hinput : r.context.input = a.input := (input_of_begin hbegin :)
  have hinput' : r'.context.input = a.input := (input_of_begin hbegin' :)
  obtain ⟨hsettings, -⟩ := beginRun_ok hbegin
  obtain ⟨hsettings', -⟩ := beginRun_ok hbegin'
  have hsame : r'.settings = r.settings :=
    Except.ok.inj (Prod.mk.inj (hsettings'.symm.trans hsettings)).1
  obtain ⟨l, -, halike⟩ := beginRun_alike hbegin hbegin'
  have hshape := halike.sameShape
  rcases read_input hbegin hbegin' with hboth | ⟨hread, hread'⟩
  · -- with one input, neither can read it, or both have a product of it or the same fault
    have hboth : h₂.files.read r'.context.input = h₁.files.read r.context.input := by
      rw [hinput', hinput, hboth]
    cases hread : h₁.files.read r.context.input with
    | error e =>
        unfold ActiveRun.writeModel
        rw [run_onProduct_of_unread hread, run_onProduct_of_unread (hboth.trans hread)]
        exact ⟨.error _, hshape⟩
    | ok text =>
        refine writeModel_of_products hdir hshape hread (hboth.trans hread) ?_
        rw [hsame]
        exact ofInput_sameOutcome _ _ _ _
  · -- a manifest is no document, in either mode
    rw [← hinput] at hread
    rw [← hinput'] at hread'
    refine writeModel_of_products hdir hshape hread hread' ?_
    rw [ofInput_firstManifest, ofInput_firstManifest]
    exact .error _

/-! ## §6. The run. -/

theorem exists_bind_error (ended : Except RunFault Unit) (e : RunFault) :
    ∃ e', (ended >>= fun _ => (.error e : Except RunFault Unit)) = .error e' := by
  cases ended with
  | error e' => exact ⟨e', rfl⟩
  | ok _ => exact ⟨e, rfl⟩

/-- Runs that begin and write no model stop with the same fault. -/
theorem run_compileRun_of_both_unwritten (wording : Wording) {e : RunFault} {h₃ h₄ : Host}
    (hbegin : (beginRun runId (a.inMode m)).run.run h = (.ok r, h₁))
    (hbegin' : (beginRun runId (a.inMode m')).run.run h = (.ok r', h₂))
    (hmodel : r.writeModel.run.run h₁ = (.error e, h₃))
    (hmodel' : r'.writeModel.run.run h₂ = (.error e, h₄)) (hshape : SameShape h₃.files h₄.files) :
    ∃ e' g g', ((compileRun wording runId (a.inMode m)).run.run h = (.error e', g)
        ∧ SparesModels h g)
      ∧ (compileRun wording runId (a.inMode m')).run.run h = (.error e', g')
        ∧ SparesModels h g' := by
  have hdir : r'.context.outDir = r.context.outDir :=
    (outDir_of_begin hbegin').trans (outDir_of_begin hbegin).symm
  obtain ⟨g, hrun, hwithin⟩ := run_compileRun_of_unwritten wording hbegin hmodel
  obtain ⟨g', hrun', hwithin'⟩ := run_compileRun_of_unwritten wording hbegin' hmodel'
  -- a fault of the ending counts first, and both runs end alike
  obtain ⟨e', he'⟩ := exists_bind_error ((r.conclude wording (.error e)).run.run h₃).1 e
  rw [← (agree_conclude_error hdir e h₃ h₄ hshape).1.eq, he'] at hrun'
  rw [he'] at hrun
  exact ⟨e', g, g', ⟨hrun, hwithin⟩, hrun', hwithin'⟩

/-- **A RUN WITHOUT GENERATED FILES WRITES THE SAME MODEL AS ONE WITH THEM**,
or neither of them replaces it, and both stop with the same fault. -/
theorem compileRun_modes (wording : Wording) (runId : String) (a : CompileArguments) (h : Host) :
    (∃ e, ∀ m, ∃ h', (compileRun wording runId (a.inMode m)).run.run h = (.error e, h')
        ∧ SparesModels h h')
      ∨ ∃ s text d set es, (loadSettings a.config).run.run h = (.ok s, h)
        ∧ Json.read? text = some d ∧ DescriptorSet.record.codec.decode d = .ok set
        ∧ compile s.compile set = .ok es
        ∧ ∀ m, (∃ r hb, (beginRun runId (a.inMode m)).run.run h = (.ok r, hb)
            ∧ hb.files.read a.input = .ok text)
          ∧ ((compileRun wording runId (a.inMode m)).run.run h).2.files.read
              (Path.join a.out "ir.json")
            = .ok (SchemaDocument.record.encode (.current es)).fileText := by
  rcases hbegin : (beginRun runId (a.inMode false)).run.run h with ⟨begun, h₁⟩
  rcases hbegin' : (beginRun runId (a.inMode true)).run.run h with ⟨begun', h₂⟩
  obtain ⟨hsame, -⟩ := beginRun_sameOutcome runId a false true h
  rw [hbegin, hbegin'] at hsame
  obtain e | @⟨r, r', -⟩ := hsame
  · refine .inl ⟨e, Bool.forall_bool.2 ⟨⟨h₁, run_compileRun_of_error hbegin, ?_⟩,
      ⟨h₂, run_compileRun_of_error hbegin', ?_⟩⟩⟩
    · exact beginRun_sparesModels hbegin
    · exact beginRun_sparesModels hbegin'
  obtain ⟨hmodels, hshape⟩ := writeModel_sameOutcome hbegin hbegin'
  rcases hmodel : r.writeModel.run.run h₁ with ⟨written, h₃⟩
  rcases hmodel' : r'.writeModel.run.run h₂ with ⟨written', h₄⟩
  rw [hmodel, hmodel'] at hmodels hshape
  obtain e | @⟨p, p', hentities⟩ := hmodels
  · obtain ⟨e', g, g', hrun, hrun'⟩ :=
      run_compileRun_of_both_unwritten wording hbegin hbegin' hmodel hmodel' hshape
    exact .inl ⟨e', Bool.forall_bool.2 ⟨⟨g, hrun⟩, ⟨g', hrun'⟩⟩⟩
  · have hmodelText : p'.modelText = p.modelText := by
      rw [Product.modelText, Product.modelText, hentities]
    obtain ⟨text, hread, hproduct, -⟩ := ActiveRun.writeModel_ok hmodel
    rw [(beginRun_ok hbegin).2.1] at hread
    obtain ⟨d, set, hdocument, -, hdecode, hcompile, -⟩ := Product.ofInput_eq_ok_iff.1 hproduct
    refine .inr ⟨r.settings, text, d, set, p.entities, (beginRun_ok hbegin).1, hdocument, hdecode,
      hcompile, Bool.forall_bool.2
        ⟨⟨⟨r, h₁, hbegin, hread⟩, read_model_of_written wording hbegin hmodel⟩,
          ⟨⟨r', h₂, hbegin', ?_⟩, ?_⟩⟩⟩
    · exact read_input_of_product hbegin hbegin' hread hproduct
    · have hmodelRead := read_model_of_written wording hbegin' hmodel'
      rw [hmodelText] at hmodelRead
      exact hmodelRead

end EntitySchema
