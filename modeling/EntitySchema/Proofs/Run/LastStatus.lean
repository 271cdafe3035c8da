/-
  EntitySchema.Proofs.Run.LastStatus
  ────────────────────────────────
  **WHICH STATUS A RUN IS LEFT WITH.**

  Between the first manifest of a run and the last one, two things can be in
  the way on a system that refuses no request which its files admit, and both
  are directories: one in the place of the log, which ends the run before its
  work, and one in the place of the manifest in the making, which the work
  itself may have put there:

      manifest RUNNING ── log ── work ── manifest OK or ERROR
                           │               │
                       a directory     a directory
                           └── the manifest stays RUNNING

  Such a system never runs out of space, and its flushes never fail.  One that
  refuses a request for reasons of its own can keep a run from marking its end
  as well: how a manifest is left there is said of every replacement, by
  `Script.replaceBytes_stops`.

  Main result: `left_running_iff`.
-/
import EntitySchema.Proofs.Run.Ending
import EntitySchema.Proofs.Run.Manifest

namespace EntitySchema

open EntitySchema.FileTree (DirectoryAt directoryAt_iff)

variable {h h₁ : Host} {t : FileTree} {c : RunContext} {r : ActiveRun} {wording : Wording}
  {k l m : Location} {M : Manifest}

/-! ## §1. The manifest on disk. -/

/-- The manifest on disk is one of a run. -/
def ManifestOf (c : RunContext) (t : FileTree) : Prop :=
  ∃ m : Manifest, m.context = c ∧ t.read c.manifestPath = .ok m.toJson.fileText

/-- The manifest on disk is one of a run that has yet to end. -/
def LeftRunning (c : RunContext) (t : FileTree) : Prop :=
  ∃ m : Manifest, m.status = .running ∧ t.read c.manifestPath = .ok m.toJson.fileText

theorem leftRunning_iff (h : Marked c M t l m) : LeftRunning c t ↔ M.status = .running := by
  constructor
  · intro hrunning
    obtain ⟨m, hm, hread⟩ := hrunning
    rw [h.read, Except.ok.injEq] at hread
    rw [Manifest.status_eq_of_fileText hread, hm]
  · intro hrunning
    exact ⟨M, hrunning, h.read⟩

theorem ended_ne_running (wording : Wording) (m : Manifest) (ended : Moment)
    (result : Except RunFault RunOutcome) : (m.ended wording ended result).status ≠ .running := by
  cases result <;> exact nofun

/-! ## §2. What is in the way. -/

/-- What keeps a run from marking its end. -/
def Hindered (c : RunContext) (t : FileTree) : Prop :=
  DirectoryAt t c.logPath ∨ ∃ q, temporaryPath? c.manifestPath = some q ∧ DirectoryAt t q

theorem hindered_iff (h : Marked c M t l m) (hk : t.Leads c.logPath k) :
    Hindered c t ↔ t.get? k = some .directory ∨ t.get? m = some .directory := by
  obtain ⟨q, hq, hm, -⟩ := h.ready.temporary
  rw [Hindered, directoryAt_iff hk, hq]
  simp only [Option.some.injEq, exists_eq_left', directoryAt_iff hm]

/-! ## §3. The end of a run. -/

/-- What a tree shows of the end of a run, its manifest being known. -/
theorem leftRunning_iff_hindered (h : Marked c M t l m) (hk : t.Leads c.logPath k)
    (hM : M.status = .running ↔ t.get? k = some .directory ∨ t.get? m = some .directory) :
    ManifestOf c t ∧ (LeftRunning c t ↔ Hindered c t) := by
  refine ⟨⟨M, h.context, h.read⟩, ?_⟩
  rw [leftRunning_iff h, hM, hindered_iff h hk]

/-- A manifest that says RUNNING stays until the end of a run, and the end is
marked in it unless a directory is in the way. -/
theorem leftRunning_iff_of_conclude (hrunning : M.status = .running)
    (result : Except RunFault RunOutcome) (hmarked : Marked r.context M h.files l m)
    (hlogged : Logged r.context h.files) :
    let t := ((r.conclude wording result).run.run h).2.files
    ManifestOf r.context t ∧ (LeftRunning r.context t ↔ Hindered r.context t) := by
  -- a directory in the temporary place is what keeps the last manifest from being written
  by_cases hm : h.files.get? m = some .directory
  · obtain ⟨h', hrun, hmarked', hm', hlater⟩ := run_conclude_of_directory result hmarked hm
    obtain ⟨k, data, hk, -⟩ := hlogged.later hlater
    rw [hrun]
    exact leftRunning_iff_hindered hmarked' hk (iff_of_true hrunning (.inr hm'))
  · obtain ⟨ended, h', hrun, hmarked', hnone, hlater⟩ := run_conclude result hmarked hm
    obtain ⟨k, data, hk, hdata⟩ := hlogged.later hlater
    rw [hrun]
    refine leftRunning_iff_hindered hmarked' hk (iff_of_false (ended_ne_running _ _ _ _) ?_)
    rw [hdata, hnone]
    rintro (hfile | hnone)
    · cases hfile
    · cases hnone

/-- **WHICH RUNS ARE LEFT RUNNING.**  A run that has written its first manifest
leaves a manifest of its own; and it leaves one that says RUNNING iff in the
end a directory stands in the place of the log, or in that of the manifest in
the making. -/
theorem left_running_iff (wording : Wording) (runId : String) (a : CompileArguments) (h : Host)
    {s : Settings} {v : Revision} {h₁ : Host}
    (hsettings : (loadSettings a.config).run.run h = (.ok s, h))
    (hannounce : (announceRun (a.context runId (h.clock h.looks))).run.run
      { h with looks := h.looks + 1 } = (.ok v, h₁)) :
    let c := a.context runId (h.clock h.looks)
    let t := (((Invocation.compile a).script wording runId).run h).2.files
    ManifestOf c t ∧ (LeftRunning c t ↔ Hindered c t) := by
  intro c t
  have hend : t = ((compileRun wording runId a).run.run h).2.files := by
    simp only [t, run_compile_script]
  rw [hend]
  obtain ⟨g, -, hmanifest⟩ := announceRun_eq_ok_iff.1 hannounce
  obtain ⟨l, m, hmarked, -⟩ := writeManifest_marked (c := c) rfl hmanifest
  obtain ⟨k, hk⟩ := hmarked.exists_leads_log
  by_cases hlog : h₁.files.get? k = some .directory
  · -- the run ends before its work
    have htouch := Script.run_touch_of_directory hk hlog
    rw [run_compileRun_of_error (run_beginRun_of_error hsettings hannounce htouch)]
    exact leftRunning_iff_hindered hmarked hk (iff_of_true rfl (.inl hlog))
  · obtain ⟨h₂, htouch⟩ :=
      Script.exists_run_touch hk (FileTree.endsInSlash_eq_false c.log_called) hlog
    obtain ⟨r, h₃, hbegin⟩ := exists_run_beginRun hsettings hannounce htouch
    obtain ⟨-, hcontext, -⟩ := beginRun_ok hbegin
    obtain ⟨⟨l, m, hmarked⟩, hlogged⟩ := beginRun_marked hbegin
    rcases hwork : r.execute.run.run h₃ with ⟨result, h₄⟩
    have hwithin := within_execute hwork
    rw [run_compileRun hbegin hwork, ← show r.context = c from hcontext]
    exact leftRunning_iff_of_conclude rfl result (hmarked.sparing hwithin)
      (hlogged.later hwithin.toLater)

/-- A system where a directory stands in the place of the log. -/
def hinderedHost : Host where
  files := ⟨[(["gen"], .directory), (["gen", "logs.ndjson"], .directory)], []⟩
  clock _ := ⟨0⟩

/-- Arguments that name an input, which no run gets to. -/
def hinderedRun : CompileArguments where
  input := "in.json"

/-- The run is over, and its manifest says RUNNING. -/
theorem hinderedRun_left_running :
    ∃ s v h₁, (loadSettings hinderedRun.config).run.run hinderedHost = (.ok s, hinderedHost)
      ∧ (announceRun (hinderedRun.context "run" ⟨0⟩)).run.run
        { hinderedHost with looks := 1 } = (.ok v, h₁)
      ∧ ManifestOf (hinderedRun.context "run" ⟨0⟩)
        (((Invocation.compile hinderedRun).script .plain "run").run hinderedHost).2.files
      ∧ LeftRunning (hinderedRun.context "run" ⟨0⟩)
        (((Invocation.compile hinderedRun).script .plain "run").run hinderedHost).2.files := by
  have hannounced : ((announceRun (hinderedRun.context "run" ⟨0⟩)).run.run
      { hinderedHost with looks := 1 }).1.toOption = some {} := by
    decide +kernel
  have hkind : (((((Invocation.compile hinderedRun).script .plain "run").run
      hinderedHost).2.files.find "gen/logs.ndjson").toOption.map fun found =>
        Host.kindOf found.2) = some .directory := by
    decide +kernel
  have hsettings : (loadSettings none).run.run hinderedHost = (.ok {}, hinderedHost) := rfl
  have hannounce : (announceRun (hinderedRun.context "run" ⟨0⟩)).run.run
      { hinderedHost with looks := 1 } = (.ok {}, _) :=
    Prod.ext (toOption_eq_some_iff.1 hannounced) rfl
  obtain ⟨hmanifest, hrunning⟩ :=
    left_running_iff .plain "run" hinderedRun hinderedHost hsettings hannounce
  exact ⟨_, _, _, hsettings, hannounce, hmanifest,
    hrunning.2 (.inl (FileTree.directoryAt_of_kind hkind))⟩

end EntitySchema
