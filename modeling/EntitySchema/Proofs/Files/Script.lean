/-
  EntitySchema.Proofs.Files.Script
  ────────────────────────────────
  **WHAT A SCRIPT CAN CHANGE.**

  A script changes files by its requests alone.  So what every single
  request keeps, the whole run keeps, however it branches on the answers:

      request   keeps what is not touched     one step
      script    keeps what is not touched     by induction

  A script that may fail ends well iff each of its parts does.

  Main results: `Script.Asks.keeps`, `Script.run_bind_eq_ok_iff`,
  `Script.run_bind_eq_error_iff`.
-/
import EntitySchema.Files.Script
import EntitySchema.Proofs.Files.Tree

namespace EntitySchema

open EntitySchema.FileTree (Keeps)

variable {α β ε φ : Type} {h h' : Host} {touched : Location → Prop} {P Q : Request → Prop}

namespace Script

/-! ## §1. The requests of a script. -/

/-- All requests that a script may make are of one kind. -/
inductive Asks (P : Request → Prop) : Script α → Prop
  | done (a : α) : Asks P (.done a)
  | ask {r : Request} {next : r.Answer → Script α} (asked : P r)
      (rest : ∀ answer, Asks P (next answer)) : Asks P (.ask r next)

namespace Asks

theorem request {r : Request} (hr : P r) : (Script.request r).Asks P := .ask hr .done

theorem bind {s : Script α} {f : α → Script β} (hs : s.Asks P) (hf : ∀ a, (f a).Asks P) :
    (s >>= f).Asks P := by
  induction hs with
  | done a => exact hf a
  | ask hr _ ih => exact .ask hr ih

/-- **WHAT EVERY REQUEST KEEPS, A SCRIPT KEEPS.** -/
theorem keeps {s : Script α} (hs : s.Asks P)
    (hP : ∀ r, P r → ∀ h : Host, Keeps touched h.files (h.answer r).2.files) (h : Host) :
    Keeps touched h.files (s.run h).2.files := by
  induction hs generalizing h with
  | done a => exact .refl h.files
  | ask hr _ ih => exact (hP _ hr h).trans (ih _ _)

end Asks

/-! ## §2. What a request keeps. -/

/-- A failed operation keeps everything. -/
theorem keeps_update {x : Except FileFault FileTree}
    (hx : ∀ t', x = .ok t' → Keeps touched h.files t') :
    Keeps touched h.files (h.update x).2.files := by
  cases x with
  | error e => exact .refl h.files
  | ok t' => exact hx t' rfl

theorem update_eq_ok {x : Except FileFault FileTree} (hx : h.update x = (.ok (), h')) :
    x = .ok h'.files := by
  cases x with
  | error e => cases hx
  | ok t' =>
      cases hx
      rfl

theorem update_eq_ok_iff {x : Except FileFault FileTree} :
    h.update x = (.ok (), h') ↔ ∃ t, x = .ok t ∧ h' = { h with files := t } := by
  cases x with
  | error e => simp [Host.update]
  | ok t => simp [Host.update, eq_comm]

theorem update_eq_error {x : Except FileFault FileTree} {e : FileFault}
    (hx : h.update x = (.error e, h')) : h' = h := by
  cases x with
  | error e =>
      cases hx
      rfl
  | ok t => cases hx

/-- A request that changes no file: it looks, flushes, or makes a directory. -/
def Harmless : Request → Prop
  | .read _ | .find _ | .now | .makeDirectory _ | .sync _ => True
  | .create _ | .touch _ | .append _ _ | .move _ _ | .git _ => False

theorem keeps_of_harmless {r : Request} (hr : Harmless r) (h : Host) :
    Keeps touched h.files (h.answer r).2.files := by
  cases r with
  | makeDirectory p => exact keeps_update fun t' ht => FileTree.keeps_of_makeDirectory ht
  | read p => exact .refl h.files
  | find p => exact .refl h.files
  | now => exact .refl h.files
  | sync p => exact .refl h.files
  | create p => exact hr.elim
  | touch p => exact hr.elim
  | append p data => exact hr.elim
  | move source target => exact hr.elim
  | git words => exact hr.elim

/-- A script of harmless requests keeps every file. -/
theorem Asks.harmless {s : Script α} (hs : s.Asks Harmless) (h : Host) :
    Keeps touched h.files (s.run h).2.files :=
  hs.keeps (fun _ hr => keeps_of_harmless hr) h

/-! ## §3. Scripts that may fail. -/

/-- **A SCRIPT AFTER ANOTHER ONE ENDS WELL** iff the first does, and the
second from there. -/
theorem run_bind_eq_ok_iff {x : ExceptT ε Script α} {f : α → ExceptT ε Script β} {b : β} :
    (x >>= f).run.run h = (.ok b, h')
      ↔ ∃ a h₁, x.run.run h = (.ok a, h₁) ∧ (f a).run.run h₁ = (.ok b, h') := by
  rw [ExceptT.run_bind, run_bind]
  rcases x.run.run h with ⟨result, h₁⟩
  -- an error ends the script, a value is handed on
  cases result with
  | error e =>
      constructor
      · intro hrun
        cases hrun
      · intro hrun
        obtain ⟨a, h₂, hx, -⟩ := hrun
        cases hx
  | ok a =>
      constructor
      · intro hrun
        exact ⟨a, h₁, rfl, hrun⟩
      · intro hrun
        obtain ⟨a', h₂, hx, hf⟩ := hrun
        cases hx
        exact hf

/-- It fails iff either of them fails. -/
theorem run_bind_eq_error_iff {x : ExceptT ε Script α} {f : α → ExceptT ε Script β} {e : ε} :
    (x >>= f).run.run h = (.error e, h') ↔ x.run.run h = (.error e, h')
      ∨ ∃ a h₁, x.run.run h = (.ok a, h₁) ∧ (f a).run.run h₁ = (.error e, h') := by
  rw [ExceptT.run_bind, run_bind]
  rcases x.run.run h with ⟨result, h₁⟩
  cases result with
  | error e' =>
      constructor
      · intro hrun
        cases hrun
        exact .inl rfl
      · rintro (hrun | ⟨a, h₂, hx, -⟩)
        · cases hrun
          rfl
        · cases hx
  | ok a =>
      constructor
      · intro hrun
        exact .inr ⟨a, h₁, rfl, hrun⟩
      · rintro (hrun | ⟨a', h₂, hx, hf⟩)
        · cases hrun
        · cases hx
          exact hf

theorem run_bind_congr {x : ExceptT ε Script α} {f g : α → ExceptT ε Script β}
    (hfg : ∀ a h, (f a).run.run h = (g a).run.run h) (h : Host) :
    (x >>= f).run.run h = (x >>= g).run.run h := by
  rw [ExceptT.run_bind, ExceptT.run_bind, run_bind, run_bind]
  rcases x.run.run h with ⟨result, h₁⟩
  cases result with
  | error e => rfl
  | ok a => exact hfg a h₁

/-- A script that does nothing may be left out before another one. -/
theorem run_idle_bind {x : ExceptT ε Script Unit} (hx : ∀ h, x.run.run h = (.ok (), h))
    (f : Unit → ExceptT ε Script β) (h : Host) : (x >>= f).run.run h = (f ()).run.run h := by
  rw [ExceptT.run_bind, run_bind, hx]

/-- So may it behind one. -/
theorem run_bind_idle {s : ExceptT ε Script Unit} (hs : ∀ h, s.run.run h = (.ok (), h))
    (x : ExceptT ε Script Unit) (h : Host) : (x >>= fun _ => s).run.run h = x.run.run h := by
  rw [ExceptT.run_bind, run_bind]
  rcases x.run.run h with ⟨result, h₁⟩
  cases result with
  | error e => rfl
  | ok a => exact hs h₁

theorem run_pure_eq_ok_iff {a b : α} :
    (pure a : ExceptT ε Script α).run.run h = (.ok b, h') ↔ b = a ∧ h' = h := by
  constructor
  · intro hrun
    cases hrun
    exact ⟨rfl, rfl⟩
  · rintro ⟨rfl, rfl⟩
    rfl

/-- A script that cannot fail, among those that may. -/
theorem run_lift (s : Script α) (h : Host) :
    (liftM s : ExceptT ε Script α).run.run h = (.ok (s.run h).1, (s.run h).2) := by
  have hlift : (liftM s : ExceptT ε Script α).run = s >>= fun a => pure (.ok a) := rfl
  rw [hlift, run_bind, run_pure]

theorem run_lift_eq_ok_iff {s : Script α} {a : α} :
    (liftM s : ExceptT ε Script α).run.run h = (.ok a, h') ↔ s.run h = (a, h') := by
  rw [run_lift, Prod.ext_iff, Prod.ext_iff, Except.ok.injEq]

theorem run_lift_bind (s : Script α) (f : α → ExceptT ε Script β) (h : Host) :
    ((liftM s : ExceptT ε Script α) >>= f).run.run h = (f (s.run h).1).run.run (s.run h).2 := by
  rw [ExceptT.run_bind, run_bind, run_lift]

theorem run_orFail (s : Script (Except ε α)) (cause : ε → φ) (h : Host) :
    (s.orFail cause).run.run h = ((s.run h).1.mapError cause, (s.run h).2) := by
  have hfail : (s.orFail cause).run = s >>= fun result => pure (result.mapError cause) := rfl
  rw [hfail, run_bind, run_pure]

theorem run_orFail_eq_ok_iff {s : Script (Except ε α)} {cause : ε → φ} {a : α} :
    (s.orFail cause).run.run h = (.ok a, h') ↔ s.run h = (.ok a, h') := by
  rw [run_orFail, Prod.ext_iff, Prod.ext_iff, mapError_eq_ok_iff]

theorem run_orFail_eq_error_iff {s : Script (Except ε α)} {cause : ε → φ} {e : φ} :
    (s.orFail cause).run.run h = (.error e, h') ↔ ∃ e', s.run h = (.error e', h') ∧ cause e' = e := by
  rw [run_orFail, Prod.ext_iff, mapError_eq_error_iff]
  simp only [Prod.ext_iff]
  constructor
  · rintro ⟨⟨e', he, hcause⟩, hhost⟩
    exact ⟨e', ⟨he, hhost⟩, hcause⟩
  · rintro ⟨e', ⟨he, hhost⟩, hcause⟩
    exact ⟨⟨e', he, hcause⟩, hhost⟩

end Script
end EntitySchema
