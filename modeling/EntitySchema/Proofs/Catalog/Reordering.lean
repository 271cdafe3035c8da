/-
  EntitySchema.Proofs.Catalog.Reordering
  ────────────────────────────────
  **A CATALOG DOES NOT DEPEND ON ORDER.**

  What a catalog holds is found by name, so the order of declarations shows
  in the order of its contents only:

      messages in another order    the same entry under every name
      fields in another order      each entry with its attributes and its
                                   references in another order

  Main results: `exists_build_of_perm`, `exists_build_of_reordered`.
-/
import Mathlib.Data.List.Perm.Basic
import EntitySchema.Proofs.Catalog.Contents

namespace EntitySchema

variable {o : CompileOptions}

/-! ## §1. Entries. -/

/-- The same message with its fields in another order. -/
structure MessageDescriptor.Reordered (m m' : MessageDescriptor) : Prop where
  name : m'.name = m.name
  generate : m'.generate = m.generate
  fields : m.fields.Perm m'.fields

/-- The same entry with its contents in another order. -/
structure CatalogEntry.Reordered (e e' : CatalogEntry) : Prop where
  name : e'.name = e.name
  attributes : e.attributes.Perm e'.attributes
  references : e.references.Perm e'.references

theorem CatalogEntry.Reordered.referencesTo {e e' : CatalogEntry} (h : e.Reordered e')
    (n : String) : (e.referencesTo n).Perm (e'.referencesTo n) :=
  h.references.filter _

theorem CatalogEntry.Reordered.orderable {e e' : CatalogEntry} (h : e.Reordered e') :
    e.orderable.Perm e'.orderable :=
  h.attributes.filter _

theorem exists_ofMessage_of_reordered {m m' : MessageDescriptor} (hm : m.Reordered m')
    {e : CatalogEntry} (h : CatalogEntry.ofMessage o m = .ok e) :
    ∃ e', CatalogEntry.ofMessage o m' = .ok e' ∧ e.Reordered e' := by
  obtain ⟨ps, hps, h⟩ := bind_eq_ok_iff.1 h
  obtain ⟨hd, hall⟩ := placeAll_eq_ok_iff.1 hps
  cases pure_eq_ok_iff.1 h
  -- each field is placed for itself, wherever it stands
  obtain ⟨ps', hall', hperm⟩ := List.perm_comp_forall₂ hm.fields.symm hall
  rw [← hm.name] at hall'
  have hd' : (m'.fields.map (·.name)).Nodup := (hm.fields.map _).nodup_iff.1 hd
  refine ⟨_, bind_eq_ok_iff.2 ⟨ps', placeAll_eq_ok_iff.2 ⟨hd', hall'⟩, rfl⟩, ?_⟩
  exact ⟨hm.name, hperm.symm.filterMap _, hperm.symm.filterMap _⟩

/-! ## §2. Catalogs. -/

namespace Catalog

variable {s t : DescriptorSet} {c c' : Catalog}

/-- Catalogs with the same entries find the same. -/
theorem Lists.get?_congr (h : c.Lists o s) (h' : c'.Lists o t)
    (hmem : ∀ e, e ∈ c'.entries ↔ e ∈ c.entries) (n : String) : c'.get? n = c.get? n := by
  refine Option.ext fun e => ?_
  rw [h.get?_eq_some_iff, h'.get?_eq_some_iff, hmem]

/-- **Messages in another order**: the catalog finds the same entries. -/
theorem exists_build_of_perm (hp : s.selected.Perm t.selected) (h : build o s = .ok c) :
    ∃ c', build o t = .ok c' ∧ ∀ n, c'.get? n = c.get? n := by
  have hd := (build_eq_ok_iff.1 h).1
  obtain ⟨es', hes', hperm⟩ := List.perm_comp_forall₂ hp.symm (entries_of_build h)
  have h' : build o t = .ok (empty.pushAll es') :=
    build_eq_ok_iff.2 ⟨(hp.map _).nodup_iff.1 hd, es', hes', rfl⟩
  refine ⟨_, h', (lists_of_build h).get?_congr (lists_of_build h') fun e => ?_⟩
  rw [entries_pushAll]
  exact hperm.mem_iff

/-- **Fields in another order**: the catalog has the same entries, their
contents in another order. -/
theorem exists_build_of_reordered
    (hr : List.Forall₂ MessageDescriptor.Reordered s.selected t.selected)
    (h : build o s = .ok c) :
    ∃ c', build o t = .ok c' ∧ List.Forall₂ CatalogEntry.Reordered c.entries c'.entries := by
  have hd := (build_eq_ok_iff.1 h).1
  obtain ⟨es', hes', hreordered⟩ := exists_forall₂_of_related (entries_of_build h) hr
    fun m e m' he hm => exists_ofMessage_of_reordered hm he
  have hnames : s.selected.map (·.name) = t.selected.map (·.name) :=
    map_eq_map_of_forall₂ hr fun m m' hm => hm.name.symm
  refine ⟨_, build_eq_ok_iff.2 ⟨hnames ▸ hd, es', hes', rfl⟩, ?_⟩
  rw [entries_pushAll]
  exact hreordered

/-- What one catalog finds, the other one finds in another order. -/
theorem Lists.exists_get?_of_reordered (h : c.Lists o s) (h' : c'.Lists o t)
    (hr : List.Forall₂ CatalogEntry.Reordered c.entries c'.entries) {n : String}
    {e : CatalogEntry} (he : c.get? n = some e) :
    ∃ e', c'.get? n = some e' ∧ e.Reordered e' := by
  obtain ⟨hmem, rfl⟩ := h.get?_eq_some_iff.1 he
  obtain ⟨e', hmem', hreordered⟩ := exists_right_of_mem hr e hmem
  exact ⟨e', h'.get?_eq_some_iff.2 ⟨hmem', hreordered.name⟩, hreordered⟩

end Catalog
end EntitySchema
