/-
  EntitySchema.Proofs.Run.Writing
  ────────────────────────────────
  **WHAT A RUN LEAVES ON DISK.**

  Generated files are written one after the other, the log growing between
  them.  Neither the log nor a temporary file is called like a generated
  file, so what a place holds in the end is the contents of the last file
  that was put there:

      post.go   contents of Post
      user.go   contents of User
      post.go   contents of post      the first file is gone

  Main results: `writeGenerated_ok`, `Written.read_iff`, `executeRun_ok`.
-/
import EntitySchema.Run.Execution
import EntitySchema.Proofs.Files.Replacement
import EntitySchema.Proofs.Run.Product

namespace EntitySchema

open EntitySchema.FileTree (Keeps EndsIn endsInSlash)
open EntitySchema.Path (Ending append_ne append_ne_append join join_append)
open EntitySchema.Source (GeneratedFile)

variable {h h' : Host} {t t' t'' : FileTree} {c : RunContext} {l : Location}
  {fs : List GeneratedFile}

/-! ## §1. Names that last. -/

/-- A location that is called like a temporary file or like a log. -/
def Passing (l : Location) : Prop := EndsIn ".tmp" l ∨ EndsIn ".ndjson" l

/-- An ending that no temporary file has, no log, no document and no settings. -/
structure LastingEnding (ending : String) : Prop extends Ending ending where
  notTemporary : ∀ u u' : String, u ++ ending ≠ u' ++ ".tmp" := by
    exact append_ne_append (by decide)
  notLog : ∀ u u' : String, u ++ ending ≠ u' ++ ".ndjson" := by
    exact append_ne_append (by decide)
  notDocument : ∀ u u' : String, u ++ ending ≠ u' ++ ".json" := by
    exact append_ne_append (by decide)
  notSettings : ∀ u : String, u ++ ending ≠ Settings.defaultPath := by
    exact append_ne (by decide)

/-- A generated file whose name lasts. -/
def Source.GeneratedFile.Lasts (f : GeneratedFile) : Prop :=
  ∃ q ending, LastingEnding ending ∧ f.path = q ++ ending

/-- Path of a generated file in the output directory of a run. -/
def RunContext.pathOf (c : RunContext) (f : GeneratedFile) : Path := join c.outDir f.path

theorem not_passing {f : GeneratedFile} (hf : f.Lasts) (hl : t.Leads (c.pathOf f) l) :
    ¬ Passing l := by
  obtain ⟨q, ending, hending, hpath⟩ := hf
  rw [RunContext.pathOf, hpath, join_append hending.toEnding] at hl
  have hends : EndsIn ending l := hl.endsIn hending.toEnding
  rintro (htemporary | hlog)
  · exact hends.not_endsIn hending.notTemporary htemporary
  · exact hends.not_endsIn hending.notLog hlog

/-! ## §2. The log. -/

theorem keeps_append {q : Path} {data : ByteArray} {ending : String} (hending : Ending ending)
    (ht : t.append (q ++ ending) data = .ok t') : Keeps (EndsIn ending) t t' := by
  obtain ⟨last, -, hlast⟩ := FileTree.exists_names_append hending q
  refine (FileTree.keeps_of_append ht hlast (FileTree.ne_dots_append hending _)).mono fun l hl => ?_
  exact ⟨_, hl⟩

/-- A report touches the log at most. -/
theorem keeps_report (c : RunContext) (e : Event) (h : Host) :
    Keeps Passing h.files (((EventLog.file c.logPath).report e).run h).2.files := by
  have hasks : ((EventLog.file c.logPath).report e).Asks
      fun r => r = .now ∨ ∃ data, r = .append c.logPath data :=
    .bind (.request (.inl rfl)) fun now => .bind (.request (.inr ⟨_, rfl⟩)) fun _ => .done _
  have hending : Ending ".ndjson" := {}
  have hlog : c.logPath = join c.outDir "logs" ++ ".ndjson" := join_append hending c.outDir "logs"
  refine hasks.keeps ?_ h
  rintro r (rfl | ⟨data, rfl⟩) h
  · exact .refl h.files
  · refine Script.keeps_update fun t' ht => ?_
    rw [hlog] at ht
    exact (keeps_append hending ht).mono fun l => .inr

theorem keeps_of_report {e : Event} {u : Unit}
    (hrun : (liftM ((EventLog.file c.logPath).report e) : RunScript Unit).run.run h = (.ok u, h')) :
    Keeps Passing h.files h'.files := by
  have hkeeps := keeps_report c e h
  rwa [Script.run_lift_eq_ok_iff.1 hrun] at hkeeps

/-! ## §3. Generated files. -/

/-- A tree after files have been put to their places in the output directory:
at the place of each file stands one of those that were put there. -/
structure Written (c : RunContext) (fs : List GeneratedFile) (t t' : FileTree) : Prop where
  each : ∀ f ∈ fs, endsInSlash (c.pathOf f) = false
    ∧ ∃ l, t'.Leads (c.pathOf f) l
      ∧ ∃ f' ∈ fs, t'.Leads (c.pathOf f') l ∧ t'.get? l = some (.file f'.contents.toUTF8)
  keeps : Keeps (fun l => Passing l ∨ ∃ f ∈ fs, t'.Leads (c.pathOf f) l) t t'

namespace Written

theorem nil (c : RunContext) (t : FileTree) : Written c [] t t where
  each _ hf := absurd hf List.not_mem_nil
  keeps := .refl t

/-- What comes and goes before, at other places, does not matter. -/
theorem after (hkeeps : Keeps Passing t t') (hw : Written c fs t' t'') : Written c fs t t'' :=
  ⟨hw.each, (hkeeps.mono fun _ => .inl).trans hw.keeps⟩

/-- Nor does what comes and goes afterwards. -/
theorem before (hw : Written c fs t t') (hfs : ∀ f ∈ fs, f.Lasts) (hkeeps : Keeps Passing t' t'') :
    Written c fs t t'' where
  each f hf := by
    obtain ⟨hslash, l, hl, f', hf', hl', hget⟩ := hw.each f hf
    exact ⟨hslash, l, hl.keep hkeeps, f', hf', hl'.keep hkeeps,
      hkeeps.file l _ (not_passing (hfs f hf) hl) hget⟩
  keeps := by
    refine (hw.keeps.mono ?_).trans (hkeeps.mono fun l => .inl)
    rintro l (hl | ⟨f, hf, hl⟩)
    · exact .inl hl
    · exact .inr ⟨f, hf, hl.keep hkeeps⟩

/-- One more file before the others. -/
theorem cons {f : GeneratedFile} (hf : f.Lasts)
    (hreplaced : FileTree.Replaced (c.pathOf f) f.contents l t t') (hw : Written c fs t' t'') : Written c (f :: fs) t t'' where
  each g hg := by
    rcases List.mem_cons.1 hg with rfl | hg
    · have hl : t''.Leads (c.pathOf g) l := hreplaced.leads.keep hw.keeps
      refine ⟨hreplaced.noSlash, l, hl, ?_⟩
      by_cases hover : ∃ f' ∈ fs, t''.Leads (c.pathOf f') l
      · -- a later file stands at the place
        obtain ⟨f', hf', hl'⟩ := hover
        obtain ⟨-, m, hm, f'', hf'', hm'', hget⟩ := hw.each f' hf'
        cases hl'.eq hm
        exact ⟨f'', List.mem_cons_of_mem _ hf'', hm'', hget⟩
      · refine ⟨g, List.mem_cons_self, hl, hw.keeps.file l _ ?_ hreplaced.text⟩
        exact not_or.2 ⟨not_passing hf hl, hover⟩
    · obtain ⟨hslash, m, hm, f', hf', hm', hget⟩ := hw.each g hg
      exact ⟨hslash, m, hm, f', List.mem_cons_of_mem _ hf', hm', hget⟩
  keeps := by
    refine (hreplaced.keeps.mono ?_).trans (hw.keeps.mono ?_)
    · rintro m (rfl | hm)
      · exact .inr ⟨f, List.mem_cons_self, hreplaced.leads.keep hw.keeps⟩
      · exact .inl (.inl hm)
    · exact fun m hm => hm.imp_right fun ⟨g, hg, hm⟩ => ⟨g, List.mem_cons_of_mem _ hg, hm⟩

/-- **EVERY FILE HOLDS ITS OWN CONTENTS** iff no two files of different
contents have one place. -/
theorem read_iff (hw : Written c fs t t') :
    (∀ f ∈ fs, t'.read (c.pathOf f) = .ok f.contents)
      ↔ ∀ f ∈ fs, ∀ f' ∈ fs, t'.place (c.pathOf f) = t'.place (c.pathOf f') →
        f.contents = f'.contents := by
  -- a place holds the text of one of the files that go there, so of all iff they agree
  constructor
  · intro hall f hf f' hf' hplace
    obtain ⟨hslash, l, hl, g, -, -, hget⟩ := hw.each f hf
    obtain ⟨hslash', l', hl', -⟩ := hw.each f' hf'
    cases (hl.place_eq_iff hl').1 hplace
    have hread := (hall f hf).symm.trans (hl.read_eq hget hslash)
    have hread' := (hall f' hf').symm.trans (hl'.read_eq hget hslash')
    exact (Except.ok.inj hread).trans (Except.ok.inj hread').symm
  · intro hplaces f hf
    obtain ⟨hslash, l, hl, f', hf', hl', hget⟩ := hw.each f hf
    rw [hplaces f hf f' hf' ((hl.place_eq_iff hl').2 rfl)]
    exact hl.read_eq hget hslash

end Written

theorem writeFile_ok {p : Path} {text : String}
    (hrun : (writeFile p text).run.run h = (.ok (), h')) :
    ∃ l, FileTree.Replaced p text l h.files h'.files :=
  Script.replaceFile_ok (Script.run_orFail_eq_ok_iff.1 hrun)

/-- **GENERATED FILES GO TO THEIR PLACES**, one after the other. -/
theorem writeGenerated_ok (hfs : ∀ f ∈ fs, f.Lasts) {listed : List Path}
    (hrun : (writeGenerated c (.file c.logPath) fs).run.run h = (.ok listed, h')) :
    Written c fs h.files h'.files := by
  -- file by file: a later file may take the place of an earlier one
  induction fs generalizing h listed with
  | nil =>
      obtain ⟨-, rfl⟩ := Script.run_pure_eq_ok_iff.1 hrun
      exact .nil c h'.files
  | cons f fs ih =>
      rw [writeGenerated] at hrun
      obtain ⟨_, h₁, hwrite, hrun⟩ := Script.run_bind_eq_ok_iff.1 hrun
      obtain ⟨_, h₂, hreport, hrun⟩ := Script.run_bind_eq_ok_iff.1 hrun
      obtain ⟨listed, h₃, hrest, hrun⟩ := Script.run_bind_eq_ok_iff.1 hrun
      obtain ⟨-, rfl⟩ := Script.run_pure_eq_ok_iff.1 hrun
      obtain ⟨hf, hfs⟩ := List.forall_mem_cons.1 hfs
      obtain ⟨l, hreplaced⟩ := writeFile_ok hwrite
      exact .cons hf hreplaced (.after (keeps_of_report hreport) (ih hfs hrest))

/-! ## §4. Work on a product. -/

/-- Work that goes on with the product of the input. -/
def onProduct {α : Type} (c : RunContext) (log : EventLog) (s : Settings)
    (work : Product → RunScript α) : RunScript α := do
  let text ← (Script.read c.input).orFail .io
  let product := Product.ofInput s c.modelOnly text
  log.reportAll product.events
  match product.result with
  | .error e => throw e
  | .ok p => work p

theorem executeRun_eq (c : RunContext) (log : EventLog) (s : Settings) :
    executeRun c log s = onProduct c log s (writeProduct c log) := rfl

section OnProduct

variable {α : Type} {log : EventLog} {s : Settings} {work : Product → RunScript α}

/-- Work on an input that cannot be read ends at once. -/
theorem run_onProduct_of_unread {e : FileFault} (hread : h.files.read c.input = .error e) :
    (onProduct c log s work).run.run h = (.error (.io e), h) := by
  refine Script.run_bind_eq_error_iff.2 (.inl (Script.run_orFail_eq_error_iff.2 ⟨e, ?_, rfl⟩))
  exact Prod.ext hread rfl

/-- **WORK ON AN INPUT** reports what the product reports, and goes on if
there is a product. -/
theorem run_onProduct_of_read {text : String} (hread : h.files.read c.input = .ok text) :
    (onProduct c log s work).run.run h
      = match (Product.ofInput s c.modelOnly text).result with
        | .error e =>
            (.error e, ((log.reportAll (Product.ofInput s c.modelOnly text).events).run h).2)
        | .ok p => (work p).run.run
            ((log.reportAll (Product.ofInput s c.modelOnly text).events).run h).2 := by
  have hinput : ((Script.read c.input).orFail RunFault.io).run.run h = (.ok text, h) :=
    Script.run_orFail_eq_ok_iff.2 (Prod.ext hread rfl)
  rw [onProduct, ExceptT.run_bind, Script.run_bind, hinput]
  simp only
  rw [Script.run_lift_bind]
  rcases (Product.ofInput s c.modelOnly text).result with e | p <;> rfl

/-- Work that has succeeded went on with a product. -/
theorem onProduct_ok {b : α} (hrun : (onProduct c log s work).run.run h = (.ok b, h')) :
    ∃ text p h₀, h.files.read c.input = .ok text
      ∧ (Product.ofInput s c.modelOnly text).result = .ok p
      ∧ (work p).run.run h₀ = (.ok b, h') := by
  cases hread : h.files.read c.input with
  | error e =>
      rw [run_onProduct_of_unread hread] at hrun
      cases hrun
  | ok text =>
      rw [run_onProduct_of_read hread] at hrun
      cases hp : (Product.ofInput s c.modelOnly text).result with
      | error e =>
          rw [hp] at hrun
          cases hrun
      | ok p =>
          rw [hp] at hrun
          exact ⟨text, p, _, rfl, hp, hrun⟩

/-- Work that has failed had only reported, or failed on a product. -/
theorem onProduct_error {e : RunFault}
    (hrun : (onProduct c log s work).run.run h = (.error e, h')) :
    ∃ es, h' = ((log.reportAll es).run h).2
      ∨ ∃ p, (work p).run.run ((log.reportAll es).run h).2 = (.error e, h') := by
  cases hread : h.files.read c.input with
  | error e =>
      rw [run_onProduct_of_unread hread] at hrun
      cases hrun
      exact ⟨[], .inl rfl⟩
  | ok text =>
      rw [run_onProduct_of_read hread] at hrun
      refine ⟨(Product.ofInput s c.modelOnly text).events, ?_⟩
      cases hp : (Product.ofInput s c.modelOnly text).result with
      | error e =>
          rw [hp] at hrun
          cases hrun
          exact .inl rfl
      | ok p =>
          rw [hp] at hrun
          exact .inr ⟨p, hrun⟩

end OnProduct

/-! ## §5. The run. -/

theorem writeOutput_ok {p : Product} {outcome : RunOutcome} (hp : ∀ f ∈ p.files, f.Lasts)
    (hrun : (writeOutput c (.file c.logPath) p).run.run h = (.ok outcome, h')) :
    ∃ t, Written c p.files t h'.files := by
  unfold writeOutput at hrun
  obtain ⟨_, h₁, -, hrun⟩ := Script.run_bind_eq_ok_iff.1 hrun
  obtain ⟨listed, h₂, hwrite, hrun⟩ := Script.run_bind_eq_ok_iff.1 hrun
  obtain ⟨_, h₃, hreport, hrun⟩ := Script.run_bind_eq_ok_iff.1 hrun
  obtain ⟨-, rfl⟩ := Script.run_pure_eq_ok_iff.1 hrun
  exact ⟨_, (writeGenerated_ok hp hwrite).before hp (keeps_of_report hreport)⟩

/-- The model goes first, so it is in nobody's way. -/
theorem writeProduct_ok {p : Product} {outcome : RunOutcome} (hp : ∀ f ∈ p.files, f.Lasts)
    (hrun : (writeProduct c (.file c.logPath) p).run.run h = (.ok outcome, h')) :
    ∃ t, Written c p.files t h'.files := by
  obtain ⟨_, h₁, -, hrun⟩ := Script.run_bind_eq_ok_iff.1 hrun
  exact writeOutput_ok hp hrun

/-- **A RUN THAT SUCCEEDS** writes the product of the text that it has read. -/
theorem executeRun_ok {s : Settings} {outcome : RunOutcome}
    (hrun : (executeRun c (.file c.logPath) s).run.run h = (.ok outcome, h')) :
    ∃ text p h₀, h.files.read c.input = .ok text
      ∧ (Product.ofInput s c.modelOnly text).result = .ok p
      ∧ (writeProduct c (.file c.logPath) p).run.run h₀ = (.ok outcome, h') :=
  onProduct_ok hrun

end EntitySchema
