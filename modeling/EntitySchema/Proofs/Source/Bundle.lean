/-
  EntitySchema.Proofs.Source.Bundle
  ────────────────────────────────
  **THE FILES OF COMPILED ENTITIES.**

  Entities that a compilation gives can always be generated, and the files
  are called after the small spellings of the declared names:

      message Post   →   post.go, and post.graphql if it offers mutations

  Main results: `bundle_of_compile`, `mem_files_iff`.
-/
import EntitySchema.Proofs.Compilation.Closure

namespace EntitySchema

open Identifier (snake)

variable {o : CompileOptions} {s : DescriptorSet} {es : List Entity}

/-- The names of compiled entities are those of the selected messages. -/
theorem Compiled.forall_name_iff (hc : Compiled o s es) {P : String → Prop} :
    (∀ E ∈ es, P E.name) ↔ ∀ m ∈ s.selected, P m.name := by
  have hnames := hc.names_eq
  calc (∀ E ∈ es, P E.name)
    _ ↔ ∀ n ∈ es.map (·.name), P n := by rw [List.forall_mem_map]
    _ ↔ ∀ m ∈ s.selected, P m.name := by rw [hnames, List.forall_mem_map]

theorem Compiled.forall_name_iff₂ (hc : Compiled o s es) {P : String → String → Prop} :
    (∀ E ∈ es, ∀ E' ∈ es, P E.name E'.name)
      ↔ ∀ m ∈ s.selected, ∀ m' ∈ s.selected, P m.name m'.name := by
  rw [hc.forall_name_iff (P := fun n => ∀ E' ∈ es, P n E'.name)]
  exact forall₂_congr fun m _ => hc.forall_name_iff (P := P m.name)

/-- An entity whose files are called after its name. -/
structure Entity.Filed (E : Entity) : Prop where
  schemaFileName : E.schemaFileName = snake E.name ++ ".go"
  graphqlSchemaFileName : E.graphqlSchemaFileName = snake E.name ++ ".graphql"

theorem Entity.Filed.schemaFile_path {E : Entity} (hE : E.Filed) (l : OutputLayout) :
    (Source.schemaFile l E).path = Path.join l.schemaDir (snake E.name ++ ".go") := by
  rw [← hE.schemaFileName, Source.schemaFile]

theorem Entity.Filed.mutationFile_path {E : Entity} (hE : E.Filed) (l : OutputLayout) :
    (Source.mutationFile l E).path = Path.join l.graphqlDir (snake E.name ++ ".graphql") := by
  rw [← hE.graphqlSchemaFileName, Source.mutationFile]

theorem filed_of_compile (h : compile o s = .ok es) : ∀ E ∈ es, E.Filed := by
  intro E hE
  obtain ⟨c, -, hes⟩ := compile_eq_ok_iff.1 h
  obtain ⟨e, -, he⟩ := exists_left_of_mem hes E hE
  obtain ⟨ds, -, rfl⟩ := Catalog.entity_eq_ok_iff.1 he
  exact ⟨rfl, rfl⟩

namespace Source

/-- Files of entities none of whose edges dangles. -/
def files (l : OutputLayout) (es : List Entity) : List GeneratedFile :=
  es.map (schemaFile l) ++ (es.filter (·.hasMutations)).map (mutationFile l) ++ [configFile l es]

theorem mem_files_iff {l : OutputLayout} {f : GeneratedFile} :
    f ∈ files l es ↔ (∃ E ∈ es, schemaFile l E = f)
      ∨ (∃ E ∈ es, E.hasMutations = true ∧ mutationFile l E = f) ∨ f = configFile l es := by
  simp [files, and_assoc]

theorem eq_files_of_bundle {l : OutputLayout} {fs : List GeneratedFile}
    (h : bundle l es = .ok fs) : fs = files l es := by
  unfold bundle at h
  split at h
  · cases h
  · exact (Except.ok.inj h).symm

/-- Whatever the layout, compiled entities can be generated. -/
theorem bundle_of_compile (h : compile o s = .ok es) (l : OutputLayout) :
    bundle l es = .ok (files l es) := by
  have hc := compiled_of_compile h
  have htargets : ∀ E ∈ es, ∀ d ∈ E.edges, d.target ∈ es.map (·.name) := by
    intro E hE d hd
    obtain ⟨r, q, -, -, hj⟩ := hc.exists_reference hE hd
    obtain ⟨T, hT, hname, -⟩ := hc.exists_edge q
    exact List.mem_map.2 ⟨T, hT, hname.trans hj.target.symm⟩
  obtain ⟨fs, hfs⟩ := exists_bundle l htargets
  rw [hfs, eq_files_of_bundle hfs]

end Source
end EntitySchema
