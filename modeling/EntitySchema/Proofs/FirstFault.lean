/-
  EntitySchema.Proofs.FirstFault
  ────────────────────────────────
  **THE FIRST FAULT OF A LIST.**

  A list is checked item by item, each one in the light of the items before
  it, and the first fault ends the work:

      l = before ++ a :: after    nothing at fault in `before`, `a` at fault

  `P before a x` says that the item `a`, standing after the items `before`,
  is at fault with `x`.  Where the items do not depend on each other,
  `before` is not looked at.

      not_firstFault_iff   without a first fault there is no fault
      mapM_eq_error_iff    work through a list ends with the first fault
-/
import EntitySchema.Proofs.Sequence

namespace EntitySchema

variable {α β ε ε' : Type}

/-! ## §1. Faults of a list. -/

/-- No item of the list is at fault. -/
def Faultless (P : List α → α → ε → Prop) (l : List α) : Prop :=
  ∀ before a after, l = before ++ a :: after → ∀ x, ¬ P before a x

/-- The first item at fault is at fault with `x`. -/
def FirstFault (P : List α → α → ε → Prop) (l : List α) (x : ε) : Prop :=
  ∃ before a after, l = before ++ a :: after ∧ Faultless P before ∧ P before a x

theorem faultless_nil (P : List α → α → ε → Prop) : Faultless P [] := by
  intro before a after h
  simp at h

theorem not_firstFault_nil (P : List α → α → ε → Prop) (x : ε) : ¬ FirstFault P [] x := by
  intro h
  obtain ⟨before, a, after, h, -, -⟩ := h
  simp at h

/-- For the items after the first one, that one stands before all others. -/
theorem faultless_cons_iff {P : List α → α → ε → Prop} {a : α} {l : List α} :
    Faultless P (a :: l)
      ↔ (∀ x, ¬ P [] a x) ∧ Faultless (fun before => P (a :: before)) l := by
  constructor
  · intro h
    refine ⟨h [] a l rfl, fun before b after hl => ?_⟩
    exact h (a :: before) b after (by rw [hl, List.cons_append])
  · intro h before b after hl
    cases before with
    | nil =>
        obtain ⟨rfl, -⟩ := List.cons.inj hl
        exact h.1
    | cons c before =>
        obtain ⟨rfl, hrest⟩ := List.cons.inj hl
        exact h.2 before b after hrest

theorem firstFault_cons_iff {P : List α → α → ε → Prop} {a : α} {l : List α} {x : ε} :
    FirstFault P (a :: l) x
      ↔ P [] a x ∨ (∀ y, ¬ P [] a y) ∧ FirstFault (fun before => P (a :: before)) l x := by
  -- the fault is at the head, or the head has none and the fault is behind it
  constructor
  · intro h
    obtain ⟨before, b, after, hl, hfree, hb⟩ := h
    cases before with
    | nil =>
        obtain ⟨rfl, -⟩ := List.cons.inj hl
        exact .inl hb
    | cons c before =>
        obtain ⟨rfl, hrest⟩ := List.cons.inj hl
        obtain ⟨ha, hfree⟩ := faultless_cons_iff.1 hfree
        exact .inr ⟨ha, before, b, after, hrest, hfree, hb⟩
  · intro h
    rcases h with ha | ⟨ha, before, b, after, rfl, hfree, hb⟩
    · exact ⟨[], a, l, rfl, faultless_nil P, ha⟩
    · exact ⟨a :: before, b, after, rfl, faultless_cons_iff.2 ⟨ha, hfree⟩, hb⟩

theorem firstFault_congr {P Q : List α → α → ε → Prop} {l : List α} {x : ε}
    (h : ∀ before a x, P before a x ↔ Q before a x) : FirstFault P l x ↔ FirstFault Q l x := by
  obtain rfl : P = Q := by
    funext before a x
    exact propext (h before a x)
  rfl

/-- **Without a first fault there is no fault.** -/
theorem not_firstFault_iff {P : List α → α → ε → Prop} {l : List α} :
    (∀ x, ¬ FirstFault P l x) ↔ Faultless P l := by
  induction l generalizing P with
  | nil => exact iff_of_true (not_firstFault_nil P) (faultless_nil P)
  | cons a l ih =>
      simp only [firstFault_cons_iff, faultless_cons_iff, ← ih, not_or, not_and]
      constructor
      · intro h
        exact ⟨fun x => (h x).1, fun x => (h x).2 fun y => (h y).1⟩
      · intro h x
        exact ⟨h.1 x, fun _ => h.2 x⟩

/-- Items that do not depend on those before them. -/
theorem faultless_iff_forall_mem {P : α → ε → Prop} {l : List α} :
    Faultless (fun _ => P) l ↔ ∀ a ∈ l, ∀ x, ¬ P a x := by
  induction l with
  | nil => simp [faultless_nil]
  | cons a l ih => rw [faultless_cons_iff, ih, List.forall_mem_cons]

/-! ## §2. Faults of related lists. -/

/-- Faults that say what they are about. -/
theorem firstFault_map_iff {P : List α → α → ε → Prop} {g : ε → ε'} {l : List α} {y : ε'} :
    FirstFault (fun before a y => ∃ x, P before a x ∧ g x = y) l y
      ↔ ∃ x, FirstFault P l x ∧ g x = y := by
  -- item by item: an item has a fault iff it has the image of one
  induction l generalizing P with
  | nil => simp [not_firstFault_nil]
  | cons a l ih =>
      have hfree : (∀ y, ¬ ∃ x, P [] a x ∧ g x = y) ↔ ∀ x, ¬ P [] a x := by
        constructor
        · intro h x hx
          exact h (g x) ⟨x, hx, rfl⟩
        · intro h y hy
          obtain ⟨x, hx, -⟩ := hy
          exact h x hx
      simp only [firstFault_cons_iff, hfree, ih]
      constructor
      · intro h
        rcases h with ⟨x, hx, rfl⟩ | ⟨ha, x, hx, rfl⟩
        · exact ⟨x, .inl hx, rfl⟩
        · exact ⟨x, .inr ⟨ha, hx⟩, rfl⟩
      · intro h
        obtain ⟨x, hx | ⟨ha, hx⟩, rfl⟩ := h
        · exact .inl ⟨x, hx, rfl⟩
        · exact .inr ⟨ha, x, hx, rfl⟩

/-- Lists whose items have the same faults have the same first fault. -/
theorem firstFault_iff_of_forall₂ {R : α → β → Prop} {P : α → ε → Prop} {Q : β → ε → Prop}
    {l : List α} {r : List β} (h : List.Forall₂ R l r)
    (hPQ : ∀ a b, R a b → ∀ x, P a x ↔ Q b x) {x : ε} :
    FirstFault (fun _ => P) l x ↔ FirstFault (fun _ => Q) r x := by
  induction h with
  | nil => exact iff_of_false (not_firstFault_nil _ x) (not_firstFault_nil _ x)
  | cons hab _ ih => simp only [firstFault_cons_iff, hPQ _ _ hab, ih]

/-- **Work through a list ends with the first fault.** -/
theorem mapM_eq_error_iff {f : α → Except ε β} {l : List α} {x : ε} :
    l.mapM f = .error x ↔ FirstFault (fun _ a x => f a = .error x) l x := by
  induction l with
  | nil =>
      rw [List.mapM_nil]
      exact iff_of_false pure_ne_error (not_firstFault_nil _ x)
  | cons a l ih =>
      rw [List.mapM_cons, firstFault_cons_iff, ← exists_eq_ok_iff, ← ih]
      simp only [bind_eq_error_iff, pure_ne_error, and_false, exists_false, or_false,
        exists_and_right]

/-- **A search for faults finds the first one.** -/
theorem findSome?_eq_some_iff {f : α → Option ε} {l : List α} {x : ε} :
    l.findSome? f = some x ↔ FirstFault (fun _ a x => f a = some x) l x := by
  have hfree : ∀ before, Faultless (fun _ a x => f a = some x) before
      ↔ ∀ a ∈ before, f a = none := by
    intro before
    rw [faultless_iff_forall_mem]
    simp only [Option.eq_none_iff_forall_ne_some, ne_eq]
  rw [List.findSome?_eq_some_iff]
  constructor
  · rintro ⟨before, a, after, hl, ha, hbefore⟩
    exact ⟨before, a, after, hl, (hfree before).2 hbefore, ha⟩
  · rintro ⟨before, a, after, hl, hbefore, ha⟩
    exact ⟨before, a, after, hl, ha, (hfree before).1 hbefore⟩

/-- The first item that a test rejects. -/
theorem map_find?_eq_some_iff {p : α → Bool} {g : α → ε} {l : List α} {x : ε} :
    (l.find? p).map g = some x ↔ FirstFault (fun _ a x => p a = true ∧ g a = x) l x := by
  have hfind : (l.find? p).map g = l.findSome? fun a => if p a then some (g a) else none := by
    induction l with
    | nil => rfl
    | cons a l ih =>
        rw [List.find?_cons, List.findSome?_cons, ← ih]
        cases p a <;> rfl
  rw [hfind, findSome?_eq_some_iff]
  refine firstFault_congr fun _ a x => ?_
  simp only [Option.ite_none_right_eq_some, Option.some_inj]

end EntitySchema
