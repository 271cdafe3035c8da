/-
  EntitySchema.Proofs.Catalog.Union
  ────────────────────────────────
  **THE CATALOG OF TWO SETS.**

  Of two sets, one declared after the other, the catalog holds the entries
  of both, and it is built iff both have catalogs and no name is selected
  twice:

      c   User  Post
      c'              Tag        ──▶    User  Post  Tag

  So a lookup goes to the first catalog, and to the second one if the first
  has no such name.

  Main results: `build_append_eq_ok_iff`, `get?_union`.
-/
import EntitySchema.Proofs.Catalog.Contents

namespace EntitySchema

variable {o : CompileOptions} {s t : DescriptorSet}

/-! ## §1. Two sets. -/

/-- The messages of two sets, one set after the other. -/
instance : Append DescriptorSet where
  append s t := ⟨s.entities ++ t.entities⟩

theorem DescriptorSet.selected_append (s t : DescriptorSet) :
    (s ++ t).selected = s.selected ++ t.selected :=
  List.filter_append _ _

/-- No name is selected in both sets. -/
def DescriptorSet.Apart (s t : DescriptorSet) : Prop :=
  ∀ n ∈ s.selected.map (·.name), n ∉ t.selected.map (·.name)

instance (s t : DescriptorSet) : Decidable (s.Apart t) :=
  inferInstanceAs (Decidable (∀ n ∈ s.selected.map (·.name), n ∉ t.selected.map (·.name)))

/-! ## §2. Two catalogs. -/

namespace Catalog

variable {c c' : Catalog}

/-- The entries of two catalogs. -/
def union (c c' : Catalog) : Catalog := c.pushAll c'.entries

theorem entries_union (c c' : Catalog) : (c.union c').entries = c.entries ++ c'.entries :=
  entries_pushAll c c'.entries

/-- Entries pushed in two goes. -/
theorem union_pushAll_empty (es es' : List CatalogEntry) :
    (empty.pushAll es).union (empty.pushAll es') = empty.pushAll (es ++ es') := by
  have hes' : (empty.pushAll es').entries = es' := entries_pushAll empty es'
  rw [union, hes']
  exact List.foldl_append.symm

/-- **The catalog of two sets** holds the entries of both. -/
theorem build_append_eq_ok_iff {u : Catalog} :
    build o (s ++ t) = .ok u
      ↔ s.Apart t ∧ ∃ c c', build o s = .ok c ∧ build o t = .ok c' ∧ u = c.union c' := by
  rw [build_eq_ok_iff, DescriptorSet.selected_append, List.map_append, List.nodup_append']
  constructor
  · intro h
    obtain ⟨⟨hs, ht, hapart⟩, es, hes, rfl⟩ := h
    obtain ⟨r, r', hr, hr', rfl⟩ := forall₂_append_left_iff.1 hes
    refine ⟨fun n hn hn' => hapart hn hn', empty.pushAll r, empty.pushAll r', ?_, ?_, ?_⟩
    · exact build_eq_ok_iff.2 ⟨hs, r, hr, rfl⟩
    · exact build_eq_ok_iff.2 ⟨ht, r', hr', rfl⟩
    · exact (union_pushAll_empty r r').symm
  · intro h
    obtain ⟨hapart, c, c', hc, hc', rfl⟩ := h
    obtain ⟨hs, r, hr, rfl⟩ := build_eq_ok_iff.1 hc
    obtain ⟨ht, r', hr', rfl⟩ := build_eq_ok_iff.1 hc'
    refine ⟨⟨hs, ht, fun n hn => hapart n hn⟩, r ++ r', ?_, union_pushAll_empty r r'⟩
    exact forall₂_append_left_iff.2 ⟨r, r', hr, hr', rfl⟩

/-! ## §3. Lookups. -/

theorem Indexed.get?_eq_none_iff (hc : c.Indexed) {n : String} :
    c.get? n = none ↔ n ∉ c.entries.map (·.name) := by
  rw [hc.get?_eq, List.find?_eq_none]
  simp only [decide_eq_true_eq, List.mem_map, not_exists, not_and]

/-- **A lookup in two catalogs** goes to the first one first. -/
theorem get?_union (hc : c.Indexed) (hc' : c'.Indexed) (hu : (c.union c').Indexed) (n : String) :
    (c.union c').get? n = (c.get? n).or (c'.get? n) := by
  rw [hu.get?_eq, hc.get?_eq, hc'.get?_eq, entries_union, List.find?_append]

/-- The second catalog has no name of the first one. -/
theorem get?_eq_none_of_apart (hc : c.Lists o s) (hc' : c'.Lists o t) (hapart : s.Apart t)
    {e : CatalogEntry} (he : e ∈ c'.entries) : c.get? e.name = none := by
  rw [hc.indexed.get?_eq_none_iff, hc.names_eq]
  intro hmem
  have hmem' : e.name ∈ t.selected.map (·.name) := hc'.names_eq ▸ List.mem_map_of_mem he
  exact hapart _ hmem hmem'

end Catalog
end EntitySchema
