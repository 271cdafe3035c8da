/-
  EntitySchema.Proofs.Compilation.BackReference
  ────────────────────────────────
  **BACK REFERENCES COMPLEMENT THEIR COUNTERPARTS.**

  An edge that points back does so under the name of its counterpart.  That
  one carries the relation, leads back to the very field, and has the
  converse cardinality; nothing else points back at it:

      E.d  referencing b   ⇄   T.b  owning

  Main result: `back_reference_complements`.
-/
import EntitySchema.Proofs.Compilation.Edges
import EntitySchema.Proofs.Pairing.Symmetry

namespace EntitySchema

/-! ## §1. The other end of a cardinality. -/

/-- A cardinality seen from the other end. -/
def Cardinality.converse : Cardinality → Cardinality
  | .oneToOne => .oneToOne
  | .oneToMany => .manyToOne
  | .manyToOne => .oneToMany
  | .manyToMany => .manyToMany

theorem Cardinality.between_swap (a b : Bool) : between b a = (between a b).converse := by
  cases a <;> cases b <;> rfl

/-! ## §2. References that name another one. -/

variable {o : CompileOptions} {s : DescriptorSet} {es : List Entity}

namespace Reference

variable {r q x y : Reference o s}

/-- The partner of a reference that names another one is silent. -/
theorem Partner.silent_of_ne (h : r.Partner q) (hr : ¬ r.Silent) (hne : r ≠ q) : q.Silent :=
  (h.not_silent_or_eq hr).resolve_right hne

/-- No two references name the same other one. -/
theorem Partner.eq_of_names_same (hr : r.Partner q) (hq : q.Partner y) (hn : r.Names q)
    (hsilent : q.Silent) (hf : x.Faces q) (hx : x.Names q) : x = r := by
  have hyr : y = r := hq.eq_of_called hsilent hr.faces.symm hn
  have hyx : y = x := hq.eq_of_called hsilent hf.symm hx
  exact hyx.symm.trans hyr

end Reference

/-! ## §3. Edges that point back. -/

/-- An edge that points at the same counterpart under the same name is the
same edge. -/
theorem Compiled.eq_of_referencing (h : Compiled o s es) {E E' : Entity} (hE : E ∈ es)
    (hE' : E' ∈ es) {d d' : Edge} (hd : d ∈ E.edges) (hd' : d' ∈ E'.edges) {n : String}
    (hn : d.direction = .referencing n) (hn' : d'.direction = .referencing n)
    (ht : d'.target = d.target) : d' = d := by
  have hs := h.admissible
  obtain ⟨r, q, ho, hr, hj⟩ := h.exists_reference hE hd
  obtain ⟨x, z, ho', hx, hj'⟩ := h.exists_reference hE' hd'
  obtain ⟨hint, hne⟩ := (hj.direction_eq_referencing_iff hs hr).1 hn
  obtain ⟨hint', -⟩ := (hj'.direction_eq_referencing_iff hs hx).1 hn'
  have hrn : ¬ r.Silent := by simp [Reference.Silent, hint]
  have hxn : ¬ x.Silent := by simp [Reference.Silent, hint']
  -- both name `n` on the same target, so both have the same partner
  obtain rfl : z = q := by
    refine hs.reference_eq ?_ ?_
    · rw [← hj'.target, ht, hj.target]
    · have hz : some z.field.name = some n := (hx.names hxn).symm.trans hint'
      have hq : some q.field.name = some n := (hr.names hrn).symm.trans hint
      exact Option.some.inj (hz.trans hq.symm)
  obtain ⟨y, hq⟩ := h.exists_partner z
  obtain rfl : x = r := hr.eq_of_names_same hq (hr.names hrn) (hr.silent_of_ne hrn hne)
    hx.faces (hx.names hxn)
  exact h.edge_eq hE' hE hd' hd ho' ho hj' hj

/-- **BACK REFERENCES COMPLEMENT THEIR COUNTERPARTS.** -/
theorem back_reference_complements (h : compile o s = .ok es) {E : Entity} (hE : E ∈ es)
    {d : Edge} (hd : d ∈ E.edges) {n : String} (hn : d.direction = .referencing n) :
    n = d.counterpart
      ∧ (∃ T b, es.filter (·.name = d.target) = [T]
        ∧ T.edges.filter (·.declaredName = d.counterpart) = [b] ∧ b.direction = .owning
        ∧ b.counterpart = d.declaredName ∧ b.target = E.name
        ∧ b.cardinality = d.cardinality.converse)
      ∧ (es.flatMap (·.edges)).filter
          (fun x => x.direction = .referencing n ∧ x.target = d.target) = [d] := by
  have hc := compiled_of_compile h
  have hs := hc.admissible
  obtain ⟨r, q, y, ho, hr, hj, hq, T, b, hT, hb, hjb, ht⟩ := hc.exists_counterpart hE hd
  obtain ⟨hint, hne⟩ := (hj.direction_eq_referencing_iff hs hr).1 hn
  have hrn : ¬ r.Silent := by simp [Reference.Silent, hint]
  -- the counterpart has no hint of its own, so it goes by the one that calls it
  have hsilent : q.Silent := hr.silent_of_ne hrn hne
  obtain rfl : y = r := hq.eq_of_called hsilent hr.faces.symm (hr.names hrn)
  refine ⟨?_, ⟨T, b, hT, hb, ?_, ?_, ht, ?_⟩, ?_⟩
  · rw [hj.counterpart]
    exact Option.some.inj (hint.symm.trans (hr.names hrn))
  · exact (hjb.direction_eq_owning_iff hs hq).2 (.inl hsilent)
  · rw [hjb.counterpart, hj.declaredName]
  · rw [hjb.cardinality, hj.cardinality]
    exact Cardinality.between_swap _ _
  · refine (filter_eq_singleton_iff hc.edges_nodup).2 ⟨?_, ?_, ?_⟩
    · exact List.mem_flatMap.2 ⟨E, hE, hd⟩
    · simp [hn]
    · intro x hx hxn
      obtain ⟨E', hE', hx⟩ := List.mem_flatMap.1 hx
      obtain ⟨hxn, ht⟩ := of_decide_eq_true hxn
      exact hc.eq_of_referencing hE hE' hd hx hn hxn ht

/-- Of two parallel pairs, the author of a post points back at the written
posts, and nothing else does. -/
theorem reviewedPosts_author :
    ∃ es, compile {} reviewedPosts = .ok es
      ∧ ∃ E ∈ es, ∃ d ∈ E.edges, d.declaredName = "author" ∧ d.direction = .referencing "written"
        ∧ d.counterpart = "written"
        ∧ (es.flatMap (·.edges)).filter
          (fun x => x.direction = .referencing "written" ∧ x.target = d.target) = [d] := by
  obtain ⟨es, h⟩ : ∃ es, compile {} reviewedPosts = .ok es := ⟨_, rfl⟩
  have hc := compiled_of_compile h
  let author : Reference {} reviewedPosts :=
    ⟨reviewedPost, reviewedPost.fields.head (by decide), by decide, by decide⟩
  obtain ⟨E, hE, -, d, hd, q, hp, hj⟩ := hc.exists_edge author
  have htarget : author.field.target? = some "User" := rfl
  have hne : author ≠ q := by
    intro heq
    have howner : author.owner.name = "User" :=
      heq ▸ Option.some.inj (hp.faces.1.symm.trans htarget)
    exact absurd howner (by show "Post" ≠ "User"; decide)
  have hn : d.direction = .referencing "written" :=
    (hj.direction_eq_referencing_iff hc.admissible hp).2 ⟨rfl, hne⟩
  obtain ⟨hcounterpart, -, hfilter⟩ := back_reference_complements h hE hd hn
  exact ⟨es, h, E, hE, d, hd, hj.declaredName, hn, hcounterpart.symm, hfilter⟩

end EntitySchema
