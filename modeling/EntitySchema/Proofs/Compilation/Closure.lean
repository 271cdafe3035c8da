/-
  EntitySchema.Proofs.Compilation.Closure
  ────────────────────────────────
  **COMPILED ENTITIES REFER TO EACH OTHER ONLY.**

  Names of compiled entities are distinct.  An edge belongs to its entity,
  its target is one of the entities, and its counterpart is one edge there,
  which leads back to the entity.  So none of them dangles, and all sources
  can be generated whatever the layout:

      compile o s = ok es  →  bundle l es = ok files

  Main result: `compiled_references_closed`.
-/
import EntitySchema.Proofs.Compilation.Edges
import EntitySchema.Source.Bundle

namespace EntitySchema

variable {o : CompileOptions} {s : DescriptorSet} {es : List Entity}

/-- A list without dangling edges can be generated. -/
theorem Source.exists_bundle (l : OutputLayout)
    (h : ∀ E ∈ es, ∀ d ∈ E.edges, d.target ∈ es.map (·.name)) :
    ∃ files, bundle l es = .ok files := by
  have hnone : es.findSome? (danglingEdge? (es.map (·.name))) = none := by
    rw [List.findSome?_eq_none_iff]
    intro E hE
    rw [danglingEdge?, Option.map_eq_none_iff, List.find?_eq_none]
    intro d hd
    simpa using h E hE d hd
  unfold bundle
  rw [hnone]
  exact ⟨_, rfl⟩

/-- **COMPILED ENTITIES REFER TO EACH OTHER ONLY**, and can be generated. -/
theorem compiled_references_closed (h : compile o s = .ok es) :
    (es.map (·.name)).Nodup
      ∧ (∀ E ∈ es, ∀ d ∈ E.edges, d.owner = E.name
        ∧ ∃ T b, es.filter (·.name = d.target) = [T]
          ∧ T.edges.filter (·.declaredName = d.counterpart) = [b] ∧ b.target = E.name)
      ∧ ∀ l : OutputLayout, ∃ files, Source.bundle l es = .ok files := by
  have hc := compiled_of_compile h
  refine ⟨hc.names_distinct, ?_, ?_⟩
  · intro E hE d hd
    obtain ⟨r, q, y, ho, -, hj, -, T, b, hT, hb, -, ht⟩ := hc.exists_counterpart hE hd
    exact ⟨hj.owner.trans ho, T, b, hT, hb, ht⟩
  · intro l
    refine Source.exists_bundle l ?_
    intro E hE d hd
    obtain ⟨r, q, -, -, hj⟩ := hc.exists_reference hE hd
    obtain ⟨T, hT, hname, -⟩ := hc.exists_edge q
    exact List.mem_map.2 ⟨T, hT, hname.trans hj.target.symm⟩

theorem reviewedPosts_closed :
    ∃ es, compile {} reviewedPosts = .ok es ∧ (es.map (·.name)).Nodup
      ∧ (∀ E ∈ es, ∀ d ∈ E.edges, ∃ T, es.filter (·.name = d.target) = [T])
      ∧ ∃ files, Source.bundle {} es = .ok files := by
  obtain ⟨es, h⟩ : ∃ es, compile {} reviewedPosts = .ok es := ⟨_, rfl⟩
  obtain ⟨hd, hclosed, hfiles⟩ := compiled_references_closed h
  refine ⟨es, h, hd, ?_, hfiles {}⟩
  intro E hE d hd
  obtain ⟨-, T, b, hT, -, -⟩ := hclosed E hE d hd
  exact ⟨T, hT⟩

end EntitySchema
