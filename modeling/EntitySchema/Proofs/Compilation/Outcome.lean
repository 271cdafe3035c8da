/-
  EntitySchema.Proofs.Compilation.Outcome
  ────────────────────────────────
  **WHAT A COMPILATION ENDS WITH.**

  Two scans of the selected messages in declaration order.  The first one
  looks for offences, the second one, if there are none, for references
  without a counterpart; each ends with the first fault it meets:

      an offence                        that offence
      else an unresolved reference      its pairing fault
      else                              the compiled entities

  So no reference is blamed as long as any message offends, wherever that
  message stands.

  Main result: `compile_outcome`.
-/
import EntitySchema.Proofs.Catalog.Offences
import EntitySchema.Proofs.Compilation.Edges

namespace EntitySchema

variable {o : CompileOptions} {s : DescriptorSet}

/-! ## §1. The two scans. -/

/-- The first offence among the selected messages of a set. -/
def DescriptorSet.FirstOffence (o : CompileOptions) (s : DescriptorSet) (x : CompileFault) : Prop :=
  FirstFault (fun before m => m.Offends o before) s.selected x

/-- No selected message of a set offends. -/
def DescriptorSet.Inoffensive (o : CompileOptions) (s : DescriptorSet) : Prop :=
  Faultless (fun before m => m.Offends o before) s.selected

namespace Catalog

/-- A field of a message has an edge. -/
def Resolves (c : Catalog) (m : MessageDescriptor) (f : FieldDescriptor) : Prop :=
  ∃ e d, c.get? m.name = some e ∧ c.resolve e .declared f = .ok d

/-- A field of a message has no counterpart. -/
def Unresolved (c : Catalog) (m : MessageDescriptor) (f : FieldDescriptor) (p : PairingFault) :
    Prop :=
  ∃ e, c.get? m.name = some e ∧ c.resolve e .declared f = .error p

/-- The first reference of a set, message by message, without a
counterpart. -/
def FirstUnresolved (o : CompileOptions) (s : DescriptorSet) (c : Catalog) (p : PairingFault) :
    Prop :=
  FirstFault (fun _ m => FirstFault (fun _ f => c.Unresolved m f) (m.openReferences o))
    s.selected p

/-! ## §2. Entities. -/

theorem entity_eq_error_iff {c : Catalog} {e : CatalogEntry} {x : CompileFault} :
    c.entity e = .error x
      ↔ ∃ p, FirstFault (fun _ f p => c.resolve e .declared f = .error p) e.references p
        ∧ .pairing p = x := by
  unfold entity
  simp only [bind_eq_error_iff, pure_ne_error, and_false, exists_false, or_false,
    mapError_eq_error_iff, resolveAll, mapM_eq_error_iff]

/-- A message finds its own entry under its name. -/
theorem Lists.forall₂_get? {c : Catalog} (h : c.Lists o s) :
    List.Forall₂ (fun m e => e.Describes o m ∧ c.get? m.name = some e) s.selected c.entries := by
  have hmem : List.Forall₂ (fun m e => e ∈ c.entries ∧ e.Describes o m) s.selected c.entries :=
    ((List.forall₂_and_left _ _).2 ⟨fun _ he => he, h.entries.flip⟩).flip
  refine hmem.imp ?_
  intro m e he
  exact ⟨he.2, h.get?_eq_some_iff.2 ⟨he.1, he.2.name_eq⟩⟩

/-- The first unresolved reference ends the work on the entries. -/
theorem Lists.mapM_entity_eq_error_iff {c : Catalog} (h : c.Lists o s) {x : CompileFault} :
    c.entries.mapM c.entity = .error x ↔ ∃ p, c.FirstUnresolved o s p ∧ .pairing p = x := by
  have hentry : ∀ m e, e.Describes o m ∧ c.get? m.name = some e → ∀ p,
      FirstFault (fun _ f => c.Unresolved m f) (m.openReferences o) p
        ↔ FirstFault (fun _ f p => c.resolve e .declared f = .error p) e.references p := by
    intro m e he p
    obtain ⟨hd, hget⟩ := he
    have hfault : ∀ f p, c.Unresolved m f p ↔ c.resolve e .declared f = .error p := by
      intro f p
      simp only [Unresolved, hget, Option.some.injEq, exists_eq_left']
    rw [hd.references]
    exact firstFault_congr fun _ f p => hfault f p
  simp only [mapM_eq_error_iff, entity_eq_error_iff]
  rw [firstFault_map_iff]
  simp only [FirstUnresolved, firstFault_iff_of_forall₂ h.forall₂_get? hentry]

theorem Lists.resolves_iff {c : Catalog} (h : c.Lists o s) {m : MessageDescriptor}
    (hm : m ∈ s.selected) {f : FieldDescriptor} :
    c.Resolves m f ↔ ∀ p, ¬ c.Unresolved m f p := by
  obtain ⟨e, -, -, hget⟩ := exists_right_of_mem h.forall₂_get? m hm
  simp only [Resolves, Unresolved, hget, Option.some.injEq, exists_and_left, exists_eq_left',
    exists_eq_ok_iff, ne_eq]

/-- Without a first unresolved reference all of them are resolved. -/
theorem Lists.not_firstUnresolved_iff {c : Catalog} (h : c.Lists o s) :
    (∀ p, ¬ c.FirstUnresolved o s p)
      ↔ ∀ m ∈ s.selected, ∀ f ∈ m.openReferences o, c.Resolves m f := by
  unfold FirstUnresolved
  simp only [not_firstFault_iff, faultless_iff_forall_mem]
  constructor
  · intro hfree m hm f hf
    exact (h.resolves_iff hm).2 (hfree m hm f hf)
  · intro hall m hm f hf
    exact (h.resolves_iff hm).1 (hall m hm f hf)

end Catalog

/-! ## §3. Compilations. -/

theorem compile_eq_error_iff {x : CompileFault} :
    compile o s = .error x ↔ s.FirstOffence o x
      ∨ ∃ c p, Catalog.build o s = .ok c ∧ c.FirstUnresolved o s p ∧ .pairing p = x := by
  unfold compile
  rw [bind_eq_error_iff, Catalog.build_eq_error_iff]
  refine or_congr_right ⟨fun h => ?_, fun h => ?_⟩
  · obtain ⟨c, hc, h⟩ := h
    obtain ⟨p, hp, hx⟩ := (Catalog.lists_of_build hc).mapM_entity_eq_error_iff.1 h
    exact ⟨c, p, hc, hp, hx⟩
  · obtain ⟨c, p, hc, hp, hx⟩ := h
    exact ⟨c, hc, (Catalog.lists_of_build hc).mapM_entity_eq_error_iff.2 ⟨p, hp, hx⟩⟩

theorem exists_build_eq_ok_iff : (∃ c, Catalog.build o s = .ok c) ↔ s.Inoffensive o := by
  simp only [exists_eq_ok_iff, ne_eq, Catalog.build_eq_error_iff, not_firstFault_iff]
  rfl

/-- **WHAT A COMPILATION ENDS WITH**: the first offence, or else the first
unresolved reference, or else the entities. -/
theorem compile_outcome (o : CompileOptions) (s : DescriptorSet) :
    (∀ x, compile o s = .error x ↔ s.FirstOffence o x
        ∨ ∃ c p, Catalog.build o s = .ok c ∧ c.FirstUnresolved o s p ∧ .pairing p = x)
      ∧ ((∃ c, Catalog.build o s = .ok c) ↔ s.Inoffensive o)
      ∧ ((∃ es, compile o s = .ok es) ↔ ∃ c, Catalog.build o s = .ok c
        ∧ ∀ m ∈ s.selected, ∀ f ∈ m.openReferences o, c.Resolves m f) := by
  refine ⟨fun x => compile_eq_error_iff, exists_build_eq_ok_iff, ?_⟩
  constructor
  · intro h
    obtain ⟨es, h⟩ := h
    obtain ⟨c, hc, -⟩ := compile_eq_ok_iff.1 h
    refine ⟨c, hc, (Catalog.lists_of_build hc).not_firstUnresolved_iff.1 fun p hp => ?_⟩
    have herror := compile_eq_error_iff.2 (.inr ⟨c, p, hc, hp, rfl⟩)
    rw [h] at herror
    cases herror
  · intro h
    obtain ⟨c, hc, hall⟩ := h
    have hfree := (Catalog.lists_of_build hc).not_firstUnresolved_iff.2 hall
    -- an error would be an offence or an unresolved reference: there is neither
    refine exists_eq_ok_iff.2 fun x hx => ?_
    rcases compile_eq_error_iff.1 hx with hoffence | ⟨c', p, hc', hp, -⟩
    · exact not_firstFault_iff.2 (exists_build_eq_ok_iff.1 ⟨c, hc⟩) x hoffence
    · obtain rfl : c' = c := Except.ok.inj (hc'.symm.trans hc)
      exact hfree p hp

/-- The field without storage is blamed, though a reference before it leads
nowhere. -/
example : compile {} ⟨[
      { name := "Post", generate := true, fields := [.ofMessage "author" "Nobody"] },
      { name := "Tag", generate := true, fields := [{ name := "labels", kind := .group }] }]⟩
    = .error (.classification ⟨"Tag", "labels", .group, false⟩) := rfl

end EntitySchema
