/-
  EntitySchema.Proofs.Pairing.Symmetry
  ────────────────────────────────
  **WHEN PAIRING IS MUTUAL.**

  The partner of a reference need not have that reference as its own
  partner.  It has unless both are silent and a third reference names it:

      r ──▶ q ──▶ x        r alone with q, but x calls q

  Main result (`Partner.comes_back_iff`): where every reference has a
  partner, the way leads back iff no other reference names the partner.
-/
import EntitySchema.Proofs.Pairing.Partner

namespace EntitySchema.Reference

variable {o : CompileOptions} {s : DescriptorSet} {r q x y : Reference o s}

/-! ## §1. Hints decide. -/

/-- A reference that names another one has that one as its partner. -/
theorem Partner.eq_of_names (hs : s.Admissible o) (h : r.Partner q) (hf : r.Faces x)
    (hn : r.Names x) : q = x := by
  cases h with
  | itself hr hnames => exact hs.eq_of_names hf hr hn hnames
  | named hq hnames _ => exact hs.eq_of_names hf hq hn hnames
  | called _ hr _ _ => exact absurd hn hr.not_names
  | alone _ hr _ _ => exact absurd hn hr.not_names

/-- A silent reference that another one names has that one as its partner. -/
theorem Partner.eq_of_called (h : r.Partner q) (hr : r.Silent) (hf : r.Faces x)
    (hn : x.Names r) : q = x := by
  cases h with
  | itself _ hnames => exact absurd hnames hr.not_names
  | named _ hnames _ => exact absurd hnames hr.not_names
  | called _ _ _ honly => exact (honly x hf hn).symm
  | alone _ _ _ honly => exact (honly x hf).symm

/-- **A reference has one partner at most.** -/
theorem Partner.unique (hs : s.Admissible o) (hq : r.Partner q) (hx : r.Partner x) : q = x := by
  by_cases hr : r.Silent
  · cases hq with
    | itself _ hnames => exact absurd hnames hr.not_names
    | named _ hnames _ => exact absurd hnames hr.not_names
    | called hf _ hnames _ => exact (hx.eq_of_called hr hf hnames).symm
    | alone _ _ _ honly => exact (honly x hx.faces).symm
  · exact hq.eq_of_names hs hx.faces (hx.names hr)

/-- A partner that is not silent names the reference. -/
theorem Partner.names_of_not_silent (h : r.Partner q) (hq : ¬ q.Silent) : q.Names r := by
  cases h with
  | itself _ hnames => exact hnames
  | named _ _ hsilent => exact absurd hsilent hq
  | called _ _ hnames _ => exact hnames
  | alone _ _ hsilent _ => exact absurd hsilent hq

theorem Partner.not_silent_or_eq (h : r.Partner q) (hr : ¬ r.Silent) : q.Silent ∨ r = q := by
  cases h with
  | itself _ _ => exact .inr rfl
  | named _ _ hsilent => exact .inl hsilent
  | called _ hsilent _ _ => exact absurd hsilent hr
  | alone _ hsilent _ _ => exact absurd hsilent hr

/-! ## §2. The way back. -/

/-- **THE WAY LEADS BACK** from the partner of a reference iff no other
reference names that partner. -/
theorem Partner.comes_back_iff (hs : s.Admissible o) (hpart : ∀ x : Reference o s, ∃ z, x.Partner z)
    (hr : r.Partner q) (hq : q.Partner y) :
    y = r ↔ ∀ x, x.Faces q → x.Names q → x = r := by
  by_cases hsilent : q.Silent
  · constructor
    · intro hyr x hf hn
      rw [← hyr]
      exact (hq.eq_of_called hsilent hf.symm hn).symm
    · intro honly
      cases hq with
      | itself _ hnames => exact absurd hnames hsilent.not_names
      | named _ hnames _ => exact absurd hnames hsilent.not_names
      | called hf _ hnames _ => exact honly y hf.symm hnames
      | alone _ _ _ halone => exact (halone r hr.faces.symm).symm
  · -- the hint of `q` leads back, and a reference that names `q` can only be `q`
    have hnames : q.Names r := hr.names_of_not_silent hsilent
    have hback : y = r := hq.eq_of_names hs hr.faces.symm hnames
    refine iff_of_true hback fun x hf hn => ?_
    obtain ⟨z, hz⟩ := hpart x
    obtain rfl : z = q := hz.eq_of_names hs hf hn
    have hx : ¬ x.Silent := fun h => h.not_names hn
    obtain rfl : x = z := (hz.not_silent_or_eq hx).resolve_left hsilent
    exact (hs.eq_of_names hf hr.faces.symm hn hnames).symm

end EntitySchema.Reference
