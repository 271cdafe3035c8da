/-
  EntitySchema.Proofs.Run.Regeneration
  ────────────────────────────────
  **REGENERATION.**

  Running again what has succeeded changes nothing but the manifest and the
  log, beside what version control does to its own files when it is asked,
  provided that it succeeds.  On a system that refuses no request which its
  files admit it does, unless the first run has made a directory where a
  temporary file is to stand, or one in the place of the default settings:

      .ir.json.tmp    a directory of the run    the next run fails
      entgen.toml     a directory of the run    the next run fails
      otherwise                                 the same files

  Main result: `regenerates_iff_clear`.
-/
import EntitySchema.Proofs.Run.ModelOnly
import EntitySchema.Proofs.Run.Rerun

namespace EntitySchema

open EntitySchema.FileTree (DirectoryAt)

variable {h h₁ : Host} {wording : Wording} {runId : String} {a : CompileArguments}
  {own : Location → Prop}

/-! ## §1. Running again. -/

theorem exitCode_ofWork_eq_zero_iff {result : Except RunFault Unit} :
    (ProgramResult.ofWork result).exitCode = 0 ↔ result = .ok () := by
  cases result with
  | error e => simp [ProgramResult.ofWork]
  | ok _ => simp [ProgramResult.ofWork]

/-- The program exits with success iff the run is completed. -/
theorem exitCode_compile_eq_zero_iff (wording : Wording) (runId : String) (a : CompileArguments)
    (h : Host) : (((Invocation.compile a).script wording runId).run h).1.exitCode = 0
      ↔ Nonempty (CompletedRun wording runId a h
        (((Invocation.compile a).script wording runId).run h).2) := by
  rw [run_compile_script, exitCode_ofWork_eq_zero_iff, nonempty_completedRun_iff, Prod.ext_iff]
  exact (and_iff_left rfl).symm

namespace CompletedRun

variable {S : CompletedRun wording runId a h h₁}

/-- **WHEN A COMPLETED RUN CAN BE DONE AGAIN.** -/
theorem exitCode_again_iff (hgit : h.GitTouchesOnly own)
    (hinput : S.Spares own S.begun.files a.input)
    (hconfig : ∀ p, a.config = some p → S.Spares own h.files p)
    (hown : a.config = none → ∀ l, h₁.files.Leads Settings.defaultPath l → ¬ own l)
    (runId' : String) :
    (((Invocation.compile a).script wording runId').run h₁).1.exitCode = 0
      ↔ S.Clear ∧ (a.config = none → ¬ DirectoryAt h₁.files Settings.defaultPath) := by
  constructor
  · intro hexit
    obtain ⟨S'⟩ := (exitCode_compile_eq_zero_iff wording runId' a h₁).1 hexit
    have hdefault := default_of_again S'
    have hproduct := product_again hgit hinput (settings_again hgit hconfig hown hdefault) S'
    exact ⟨clear_of_again hgit S' hproduct, hdefault⟩
  · rintro ⟨hclear, hdefault⟩
    obtain ⟨h₂, hrun, -⟩ :=
      exists_again hgit hinput (settings_again hgit hconfig hown hdefault) hclear runId'
    rw [run_compile_script, hrun]
    rfl

/-- **DONE AGAIN IT LEAVES ITS FILES AS THEY ARE**, but for the manifest and
the log. -/
theorem get?_of_again (hgit : h.GitTouchesOnly own) (hinput : S.Spares own S.begun.files a.input)
    (hconfig : ∀ p, a.config = some p → S.Spares own h.files p)
    (hdefaults : a.config = none → ∀ l, h₁.files.Leads Settings.defaultPath l → ¬ own l)
    {runId' : String}
    (hexit : (((Invocation.compile a).script wording runId').run h₁).1.exitCode = 0)
    {l : Location} (hown : ¬ own l)
    (hmanifest : ¬ h₁.files.Leads (Path.join a.out "manifest.json") l)
    (hlog : ¬ h₁.files.Leads (Path.join a.out "logs.ndjson") l) :
    (((Invocation.compile a).script wording runId').run h₁).2.files.get? l = h₁.files.get? l := by
  obtain ⟨hclear, hdefault⟩ := (exitCode_again_iff hgit hinput hconfig hdefaults runId').1 hexit
  have hsettings := settings_again hgit hconfig hdefaults hdefault
  obtain ⟨h₂, hrun, hsteady⟩ := exists_again hgit hinput hsettings hclear runId'
  obtain ⟨S'⟩ := nonempty_completedRun_iff.2 hrun
  rw [run_compile_script, hrun]
  exact get?_again hgit S' (product_again hgit hinput hsettings S') hsteady hown hmanifest hlog

end CompletedRun

/-! ## §2. Regeneration. -/

/-- **REGENERATION.**  Of a run that has succeeded, whose input and settings
are neither among what it writes nor among what version control keeps for its
own, the next run succeeds iff the first one has made no directory in the
place of a temporary file or of the default settings; and then every file but
the manifest, the log and those of version control is what it was.  With and
without generated files a run from one state writes the same model, that of
its input, or stops with the same fault and leaves the model alone. -/
theorem regenerates_iff_clear (wording : Wording) (runId : String) (a : CompileArguments)
    (h : Host) :
    (∀ answer h₁, ((Invocation.compile a).script wording runId).run h = (answer, h₁) →
      (answer.exitCode = 0 ↔ Nonempty (CompletedRun wording runId a h h₁))
      ∧ ∀ own, h.GitTouchesOnly own → ∀ S : CompletedRun wording runId a h h₁,
        S.Spares own S.begun.files a.input → (∀ p, a.config = some p → S.Spares own h.files p) →
        (a.config = none → ∀ l, h₁.files.Leads Settings.defaultPath l → ¬ own l) →
        ∀ runId', let again := ((Invocation.compile a).script wording runId').run h₁
          (again.1.exitCode = 0
            ↔ S.Clear ∧ (a.config = none → ¬ DirectoryAt h₁.files Settings.defaultPath))
          ∧ (again.1.exitCode = 0 → ∀ l, ¬ own l →
            ¬ h₁.files.Leads (Path.join a.out "manifest.json") l →
            ¬ h₁.files.Leads (Path.join a.out "logs.ndjson") l →
            again.2.files.get? l = h₁.files.get? l))
    ∧ let inMode := fun m =>
        ((Invocation.compile { a with modelOnly := m }).script wording runId).run h
      (∃ e, ∀ m, (inMode m).1 = .ofWork (.error e)
          ∧ ∀ own, h.GitTouchesOnly own → ∀ l data, ¬ own l →
            (inMode m).2.files.Leads (Path.join a.out "ir.json") l →
            ((inMode m).2.files.get? l = some (.file data) ↔ h.files.get? l = some (.file data)))
        ∨ ∃ s text d set es, (loadSettings a.config).run.run h = (.ok s, h)
          ∧ Json.read? text = some d ∧ DescriptorSet.record.codec.decode d = .ok set
          ∧ compile s.compile set = .ok es
          ∧ ∀ m, (∃ r hb, (beginRun runId { a with modelOnly := m }).run.run h = (.ok r, hb)
              ∧ hb.files.read a.input = .ok text)
            ∧ (inMode m).2.files.read (Path.join a.out "ir.json")
              = .ok (SchemaDocument.record.encode (.current es)).fileText := by
  constructor
  · rintro answer h₁ hrun
    have hexit := exitCode_compile_eq_zero_iff wording runId a h
    rw [hrun] at hexit
    refine ⟨hexit, fun own hgit S hinput hconfig hdefaults runId' =>
      ⟨?_, fun hagain l hown hmanifest hlog => ?_⟩⟩
    · exact CompletedRun.exitCode_again_iff hgit hinput hconfig hdefaults runId'
    · exact CompletedRun.get?_of_again hgit hinput hconfig hdefaults hagain hown hmanifest hlog
  · intro inMode
    have hmode : ∀ m, inMode m = (.ofWork ((compileRun wording runId (a.inMode m)).run.run h).1,
        ((compileRun wording runId (a.inMode m)).run.run h).2) :=
      fun m => run_compile_script _ _ _ _
    simp only [hmode]
    rcases compileRun_modes wording runId a h with ⟨e, hboth⟩ | hboth
    · refine .inl ⟨e, fun m => ?_⟩
      obtain ⟨h', hrun, hspares⟩ := hboth m
      rw [hrun]
      refine ⟨rfl, fun own hgit l data hown hl => ?_⟩
      have hname : l.getLast? = some "ir.json" := by
        rw [hl.getLast?, FileTree.getLast?_names (Path.called_join {} a.out)]
      exact (hspares own hgit).file_iff (fun p hp hleads => hp h'.files l hleads hname) hown
    · exact .inr hboth

/-- A repository with a document, and with settings that name a directory like
the model in the making. -/
def shadowedHost : Host where
  files := ⟨[(["in.json"], .file ("\x7b\"entities\":[\x7b\"name\":\"Post\","
    ++ "\"options\":\x7b\"generate\":true\x7d\x7d]\x7d").toUTF8),
    (["entgen.toml"], .file "[emit]\nconfig_dir = \".ir.json.tmp\"\n".toUTF8),
    ([".git"], .directory), (gitIndex, .file "stale".toUTF8)], []⟩
  clock _ := ⟨0⟩
  git _ := refreshingGit

/-- Arguments that name the document. -/
def shadowedRun : CompileArguments where
  input := "in.json"

theorem ne_gitIndex {l : Location} {name : String} (hl : l.getLast? = some name)
    (hname : name ≠ "index") : l ≠ gitIndex := by
  rintro rfl
  exact hname (Option.some.inj hl).symm

/-- The run succeeds, has written neither its input nor its settings, and no
run after it succeeds. -/
theorem shadowedRun_fails_again :
    ∃ answer h₁, ((Invocation.compile shadowedRun).script .plain "run").run shadowedHost
        = (answer, h₁)
      ∧ answer.exitCode = 0
      ∧ ∃ S : CompletedRun .plain "run" shadowedRun shadowedHost h₁,
        S.Spares (· = gitIndex) S.begun.files shadowedRun.input
        ∧ S.Spares (· = gitIndex) shadowedHost.files Settings.defaultPath
        ∧ ∀ runId',
          (((Invocation.compile shadowedRun).script .plain runId').run h₁).1.exitCode ≠ 0 := by
  have hends : (match ((Invocation.compile shadowedRun).script .plain "run").run shadowedHost with
      | (answer, h₁) => answer.exitCode = 0
        ∧ ((h₁.files.find "gen/.ir.json.tmp").toOption.map fun found => Host.kindOf found.2)
          = some .directory) := by
    decide +kernel
  rcases hrun : ((Invocation.compile shadowedRun).script .plain "run").run shadowedHost with
    ⟨answer, h₁⟩
  rw [hrun] at hends
  obtain ⟨hexit, hkind⟩ := hends
  obtain ⟨hsucceeds, hagain⟩ :=
    (regenerates_iff_clear .plain "run" shadowedRun shadowedHost).1 answer h₁ hrun
  obtain ⟨S⟩ := hsucceeds.1 hexit
  have hinput : S.Spares (· = gitIndex) S.begun.files shadowedRun.input := by
    intro l n hfind
    have hlast : l.getLast? = some "in.json" :=
      FileTree.getLast?_of_find hfind (by decide +kernel) (by decide)
    have hunwritten : S.Unwritten (· = gitIndex) l :=
      CompletedRun.unwritten_of_name (ne_gitIndex hlast (by decide)) hlast (by decide)
        (Path.append_ne (by decide)) fun _ hlasting u => hlasting.notDocument u "in"
    exact hunwritten
  have hdefaults : ∀ l, h₁.files.Leads Settings.defaultPath l → l ≠ gitIndex := by
    intro l hl
    have hlast := hl.getLast?
    rw [names_default] at hlast
    exact ne_gitIndex hlast (by decide)
  refine ⟨answer, h₁, rfl, hexit, S, hinput, fun l n hfind => ?_, fun runId' hexit' => ?_⟩
  · have hlast := getLast?_of_default hfind
    have hunwritten : S.Unwritten (· = gitIndex) l :=
      CompletedRun.unwritten_of_settings (ne_gitIndex hlast (by decide)) hlast
    exact hunwritten
  · obtain ⟨hiff, -⟩ :=
      hagain _ (gitTouchesOnly_index rfl) S hinput nofun (fun _ => hdefaults) runId'
    obtain ⟨hclear, -⟩ := hiff.1 hexit'
    have htemporary : temporaryPath? (Path.join shadowedRun.out "ir.json")
        = some "gen/.ir.json.tmp" := by
      decide +kernel
    exact hclear _ _ (.inr (.inl rfl)) htemporary (FileTree.directoryAt_of_kind hkind)

end EntitySchema
