/-
  EntitySchema.Proofs.Catalog.Visibility
  ────────────────────────────────
  **WHAT THE CATALOG DOES NOT SEE.**

  A set may be edited where nothing is generated from it:

      a message that did not opt in   deleted, inserted or replaced
      an ignored field                replaced by an ignored one of its name

  The catalogs of both sets are alike: entries with the same name,
  attributes and references in the same places, only the messages that the
  entries carry differ.  And if one set has no catalog, then neither has
  the other, for the same reason.

  Main results: `selected_of_edited`, `build_of_alike`.
-/
import EntitySchema.Proofs.Catalog.Likeness

namespace EntitySchema

variable {o : CompileOptions}

/-! ## §1. Edits. -/

/-- The same field, or an ignored one in the place of another of the same
name. -/
inductive FieldDescriptor.Alike : FieldDescriptor → FieldDescriptor → Prop where
  | same (f : FieldDescriptor) : Alike f f
  | ignored {f f' : FieldDescriptor} (name : f'.name = f.name) (ignored : f.isIgnored = true)
      (ignored' : f'.isIgnored = true) : Alike f f'

/-- The same message, its ignored fields apart. -/
structure MessageDescriptor.Alike (m m' : MessageDescriptor) : Prop where
  name : m'.name = m.name
  generate : m'.generate = m.generate
  fields : List.Forall₂ FieldDescriptor.Alike m.fields m'.fields

/-- Messages before and after an edit that concerns nothing generated. -/
inductive Edited : List MessageDescriptor → List MessageDescriptor → Prop where
  | nil : Edited [] []
  | keep {m m' : MessageDescriptor} {ms ms' : List MessageDescriptor} (alike : m.Alike m')
      (rest : Edited ms ms') : Edited (m :: ms) (m' :: ms')
  | delete {m : MessageDescriptor} {ms ms' : List MessageDescriptor} (off : m.generate = false)
      (rest : Edited ms ms') : Edited (m :: ms) ms'
  | insert {m' : MessageDescriptor} {ms ms' : List MessageDescriptor} (off : m'.generate = false)
      (rest : Edited ms ms') : Edited ms (m' :: ms')

/-- **What is selected stays alike.** -/
theorem selected_of_edited {ms ms' : List MessageDescriptor} (h : Edited ms ms') :
    List.Forall₂ MessageDescriptor.Alike (DescriptorSet.mk ms).selected
      (DescriptorSet.mk ms').selected := by
  unfold DescriptorSet.selected
  -- messages that are not selected come and go without a trace
  induction h with
  | nil => exact .nil
  | keep alike _ ih =>
      rw [List.filter_cons, List.filter_cons, alike.generate]
      split
      · exact .cons alike ih
      · exact ih
  | delete off _ ih =>
      rw [List.filter_cons, off]
      exact ih
  | insert off _ ih =>
      rw [List.filter_cons, off]
      exact ih

/-! ## §2. Fields. -/

/-- Of an ignored field only the name is looked at. -/
theorem place_eq_of_alike {f f' : FieldDescriptor} (h : f.Alike f') (entity : String)
    (seen : List String) : place o entity seen f' = place o entity seen f := by
  cases h with
  | same => rfl
  | ignored hname hf hf' => simp only [place, hname, hf, hf', if_true]

theorem FieldDescriptor.Alike.name_eq {f f' : FieldDescriptor} (h : f.Alike f') :
    f'.name = f.name := by
  cases h with
  | same => rfl
  | ignored hname _ _ => exact hname

/-- What is placed is the same, and so are the references. -/
theorem keepsPlaces_alike (o : CompileOptions) : KeepsPlaces o o FieldDescriptor.Alike (· = ·) where
  name _ _ h := h.name_eq
  place entity seen f f' h := by
    rw [place_eq_of_alike h]
    exact .refl (.refl fun _ => rfl) _

/-! ## §3. Catalogs. -/

/-- The same entry, made from a message that may differ in ignored fields. -/
structure CatalogEntry.Alike (e e' : CatalogEntry) : Prop where
  name : e'.name = e.name
  attributes : e'.attributes = e.attributes
  references : e'.references = e.references

/-- Catalogs with entries that are alike in the same places. -/
structure Catalog.Alike (c c' : Catalog) : Prop where
  positions : c'.positions = c.positions
  entries : List.Forall₂ CatalogEntry.Alike c.entries c'.entries

namespace Catalog

/-- **CATALOGS STAY ALIKE**, and where there is none there is the same fault. -/
theorem build_of_alike {s t : DescriptorSet}
    (h : List.Forall₂ MessageDescriptor.Alike s.selected t.selected) :
    SameOutcome Alike (build o s) (build o t) := by
  have hfieldwise := h.imp fun m m' hm =>
    (⟨hm.name, hm.generate, hm.fields⟩ : m.Fieldwise FieldDescriptor.Alike m')
  refine ((keepsPlaces_alike o).build_like hfieldwise).imp fun c c' hc => ?_
  refine ⟨hc.positions, hc.entries.imp fun e e' he => ?_⟩
  exact ⟨he.name, he.attributes, (List.forall₂_eq_eq_eq ▸ he.references).symm⟩

end Catalog
end EntitySchema
