/-
  EntitySchema.Proofs.SameOutcome
  ────────────────────────────────
  **TWO RUNS WITH THE SAME OUTCOME.**

  Two runs have the same outcome if both end with the same fault, or both
  succeed with results that are related.  What is done next in either run
  keeps that, as long as it does so on related results:

      x ~ y,  k a ~ k' b for a, b related   →   x >>= k ~ y >>= k'

  With equality for the relation the outcomes are equal (`eq`), so a claim
  about all of a program's outcomes, faults included, is proved step by
  step.
-/
import EntitySchema.Proofs.Sequence

namespace EntitySchema

variable {ε α β γ δ : Type}

/-- Both runs end with the same fault, or with related results. -/
inductive SameOutcome (R : α → β → Prop) : Except ε α → Except ε β → Prop where
  | error (e : ε) : SameOutcome R (.error e) (.error e)
  | ok {a : α} {b : β} (related : R a b) : SameOutcome R (.ok a) (.ok b)

namespace SameOutcome

variable {R : α → β → Prop} {S : γ → δ → Prop} {x : Except ε α} {y : Except ε β}

theorem bind {k : α → Except ε γ} {k' : β → Except ε δ} (h : SameOutcome R x y)
    (hk : ∀ a b, R a b → SameOutcome S (k a) (k' b)) : SameOutcome S (x >>= k) (y >>= k') := by
  cases h with
  | error e => exact .error e
  | ok hab => exact hk _ _ hab

theorem map {f : α → γ} {g : β → δ} (h : SameOutcome R x y) (hfg : ∀ a b, R a b → S (f a) (g b)) :
    SameOutcome S (x.map f) (y.map g) := by
  cases h with
  | error e => exact .error e
  | ok hab => exact .ok (hfg _ _ hab)

theorem imp {R' : α → β → Prop} (h : SameOutcome R x y) (hR : ∀ a b, R a b → R' a b) :
    SameOutcome R' x y := by
  cases h with
  | error e => exact .error e
  | ok hab => exact .ok (hR _ _ hab)

theorem refl {R : α → α → Prop} (h : ∀ a, R a a) (x : Except ε α) : SameOutcome R x x := by
  cases x with
  | error e => exact .error e
  | ok a => exact .ok (h a)

theorem of_eq {x y : Except ε α} (h : x = y) : SameOutcome (· = ·) x y := by
  subst h
  cases x with
  | error e => exact .error e
  | ok a => exact .ok rfl

/-- What a run ends with is what it ends with. -/
theorem self (x : Except ε α) : SameOutcome (fun a b => b = a ∧ x = .ok a) x x := by
  cases x with
  | error e => exact .error e
  | ok a => exact .ok ⟨rfl, rfl⟩

/-- Where one run succeeds, the other one succeeds with a related result. -/
theorem exists_of_ok (h : SameOutcome R x y) {a : α} (hx : x = .ok a) : ∃ b, y = .ok b ∧ R a b := by
  cases h with
  | error e => cases hx
  | ok hab =>
      cases hx
      exact ⟨_, rfl, hab⟩

theorem eq {x y : Except ε α} (h : SameOutcome (· = ·) x y) : x = y := by
  cases h with
  | error e => rfl
  | ok hab => rw [hab]

/-- Two runs through related lists, from related states, stay related as
long as every step keeps them so. -/
theorem foldlM {f : γ → α → Except ε γ} {g : δ → β → Except ε δ}
    (hstep : ∀ c d a b, S c d → R a b → SameOutcome S (f c a) (g d b)) {l : List α} {r : List β}
    (h : List.Forall₂ R l r) {c : γ} {d : δ} (hcd : S c d) :
    SameOutcome S (l.foldlM f c) (r.foldlM g d) := by
  induction h generalizing c d with
  | nil => exact .ok hcd
  | cons hab _ ih =>
      rw [List.foldlM_cons, List.foldlM_cons]
      exact (hstep c d _ _ hcd hab).bind fun c' d' hcd' => ih hcd'

end SameOutcome

/-- Work on two lists whose items have equal outcomes. -/
theorem mapM_congr_of_forall₂ {f : α → Except ε γ} {g : β → Except ε γ} {l : List α} {r : List β}
    (h : List.Forall₂ (fun a b => f a = g b) l r) : l.mapM f = r.mapM g := by
  induction h with
  | nil => rfl
  | cons hab _ ih => rw [List.mapM_cons, List.mapM_cons, hab, ih]

end EntitySchema
