/-
  EntitySchema.Proofs.Source.FileSet
  ────────────────────────────────
  **THE FILES AND THE CONFIGURATION AGREE.**

  Any list of entities can be generated, edited or filtered as it may be, if
  its edges stay inside it.  The configuration is written apart from the
  files that it lists; both go by the annotation that offers mutations:

      Post  (mutations)   ent/schema/post.go   graphql/post.graphql
      Tag                 ent/schema/tag.go
                          config/gqlgen.yml    ent.graphql, post.graphql

  An edge that leads out of the list is a fault, and the first one is
  reported.

  Main result: `file_set_and_config_agree`.
-/
import EntitySchema.Proofs.Compilation.Mutations
import EntitySchema.Proofs.FirstFault
import EntitySchema.Proofs.Source.Bundle
import EntitySchema.Proofs.Source.ServerConfig

namespace EntitySchema

variable {es : List Entity} {E : Entity} {l : OutputLayout}

theorem Entity.hasMutations_iff :
    E.hasMutations = true ↔ ∃ create update, .mutations create update ∈ E.annotations := by
  rw [Entity.hasMutations, List.any_eq_true]
  constructor
  · rintro ⟨a, ha, hmutations⟩
    cases a with
    | mutations create update => exact ⟨create, update, ha⟩
    | queryField => cases hmutations
    | relayConnection => cases hmutations
  · rintro ⟨create, update, ha⟩
    exact ⟨_, ha, rfl⟩

namespace Source

/-! ## §1. Edges that lead out of a list. -/

/-- An edge of an entity has no target among the entities. -/
def Dangles (es : List Entity) (E : Entity) (d : Edge) (x : DanglingEdge) : Prop :=
  (∀ T ∈ es, T.name ≠ d.target) ∧ x = ⟨E.name, d.name, d.target⟩

theorem danglingEdge?_eq_some_iff {x : DanglingEdge} :
    danglingEdge? (es.map (·.name)) E = some x
      ↔ FirstFault (fun _ d => Dangles es E d) E.edges x := by
  rw [danglingEdge?, map_find?_eq_some_iff]
  refine firstFault_congr fun _ d x => ?_
  have htest : (!(es.map (·.name)).contains d.target) = true ↔ ∀ T ∈ es, T.name ≠ d.target := by
    simp
  exact and_congr htest ⟨Eq.symm, Eq.symm⟩

/-- The first edge that leads out of the list is reported. -/
theorem bundle_eq_error_iff {x : DanglingEdge} :
    bundle l es = .error x
      ↔ FirstFault (fun _ E => FirstFault (fun _ d => Dangles es E d) E.edges) es x := by
  have hsearch : bundle l es = .error x
      ↔ es.findSome? (danglingEdge? (es.map (·.name))) = some x := by
    unfold bundle
    cases es.findSome? (danglingEdge? (es.map (·.name))) with
    | none => simp
    | some y => simp
  rw [hsearch, findSome?_eq_some_iff]
  exact firstFault_congr fun _ E x => danglingEdge?_eq_some_iff

/-- A list can be generated iff no edge leads out of it. -/
theorem exists_bundle_iff :
    (∃ fs, bundle l es = .ok fs) ↔ ∀ E ∈ es, ∀ d ∈ E.edges, ∃ T ∈ es, T.name = d.target := by
  have hdangles : ∀ E d, (∀ x, ¬ Dangles es E d x) ↔ ∃ T ∈ es, T.name = d.target := by
    intro E d
    simp [Dangles]
  calc (∃ fs, bundle l es = .ok fs)
    _ ↔ ∀ x, ¬ FirstFault (fun _ E => FirstFault (fun _ d => Dangles es E d) E.edges) es x := by
        rw [exists_eq_ok_iff]
        exact forall_congr' fun x => not_congr bundle_eq_error_iff
    _ ↔ ∀ E ∈ es, ∀ x, ¬ FirstFault (fun _ d => Dangles es E d) E.edges x := by
        rw [not_firstFault_iff, faultless_iff_forall_mem]
    _ ↔ ∀ E ∈ es, ∀ d ∈ E.edges, ∃ T ∈ es, T.name = d.target := by
        simp only [not_firstFault_iff, faultless_iff_forall_mem, hdangles]

theorem exists_bundle_eq_error_iff :
    (∃ x, bundle l es = .error x) ↔ ∃ E ∈ es, ∃ d ∈ E.edges, ∀ T ∈ es, T.name ≠ d.target := by
  have hfails : (∃ x, bundle l es = .error x) ↔ ¬ ∃ fs, bundle l es = .ok fs := by
    cases bundle l es <;> simp
  rw [hfails, exists_bundle_iff]
  simp only [not_forall, not_exists, not_and, exists_prop, ne_eq]

end Source

/-! ## §2. The files and the configuration. -/

open Source (bundle Dangles ConfigLists)

/-- **THE FILES AND THE CONFIGURATION AGREE.**  Generation fails iff an edge
leads out of the list, and reports the first one.  Otherwise there is one
schema source per entity, one API schema per entity with mutations, and the
configuration, which lists the packages of all entities and the very API
schemas that are generated.  Compiled entities can be generated, and one has an
API schema iff it has an attribute besides the identity. -/
theorem file_set_and_config_agree (l : OutputLayout) (es : List Entity) :
    ((∃ x, bundle l es = .error x) ↔ ∃ E ∈ es, ∃ d ∈ E.edges, ∀ T ∈ es, T.name ≠ d.target)
      ∧ (∀ x, bundle l es = .error x
        ↔ FirstFault (fun _ E => FirstFault (fun _ d => Dangles es E d) E.edges) es x)
      ∧ (∀ fs, bundle l es = .ok fs →
        ∃ sources schemas config, fs = sources ++ schemas ++ [config]
          ∧ List.Forall₂
            (fun E f => f = ⟨Path.join l.schemaDir E.schemaFileName, Source.ormSchema E⟩) es sources
          ∧ List.Forall₂
            (fun E f =>
              f = ⟨Path.join l.graphqlDir E.graphqlSchemaFileName, Source.mutationSchema E⟩)
            (es.filter (·.hasMutations)) schemas
          ∧ config.path = Path.join l.configDir "gqlgen.yml"
          ∧ ConfigLists config.contents
            (l.entPackage :: es.map fun E =>
              l.entPackage ++ "/" ++ String.ofList (Text.lower E.name.toList))
            ("ent.graphql" :: (es.filter (·.hasMutations)).map (·.graphqlSchemaFileName)))
      ∧ (∀ E ∈ es, E.hasMutations = true
        ↔ ∃ create update, .mutations create update ∈ E.annotations)
      ∧ ∀ o s, compile o s = .ok es → (∃ fs, bundle l es = .ok fs)
        ∧ ∀ E ∈ es, E.hasMutations = true ↔ ∃ a ∈ E.attributes, a.isIdentity = false := by
  refine ⟨Source.exists_bundle_eq_error_iff, fun x => Source.bundle_eq_error_iff, fun fs h => ?_,
    fun E _ => Entity.hasMutations_iff, fun o s h => ⟨⟨_, Source.bundle_of_compile h l⟩, ?_⟩⟩
  · refine ⟨_, _, _, Source.eq_files_of_bundle h, ?_, ?_, rfl,
      Source.configLists_serverConfig es l.entPackage⟩
    · rw [List.forall₂_map_right_iff, List.forall₂_same]
      exact fun E _ => rfl
    · rw [List.forall₂_map_right_iff, List.forall₂_same]
      exact fun E _ => rfl
  · intro E hE
    obtain ⟨m, -, hm⟩ := exists_left_of_mem (offered_of_compile h) E hE
    exact hm.attributes

/-- Posts with titles and a tag, the tag without anything to set. -/
def taggedPosts : DescriptorSet :=
  ⟨[{ name := "Post", generate := true,
      fields := [{ name := "title", kind := .string }, .ofMessage "tag" "Tag"] },
    { name := "Tag", generate := true, fields := [.ofMessage "post" "Post"] }]⟩

/-- Entities of posts and tags. -/
def taggedEntities : List Entity := (compile {} taggedPosts).toOption.getD []

/-- Both entities are generated, with one API schema; without the tag, the edge
to it leads out of the list. -/
theorem taggedPosts_files :
    (∃ fs, bundle {} taggedEntities = .ok fs
      ∧ fs.map (·.path)
        = ["ent/schema/post.go", "ent/schema/tag.go", "graphql/post.graphql", "config/gqlgen.yml"]
      ∧ ∃ config ∈ fs, Text.itemsUnder "schema:" "  - " (Text.lines config.contents)
        = ["ent.graphql", "post.graphql"])
    ∧ ∃ x, bundle {} (taggedEntities.filter (·.name ≠ "Tag")) = .error x := by
  have h : compile {} taggedPosts = .ok taggedEntities := rfl
  constructor
  · obtain ⟨-, -, hfiles, -, hcompiled⟩ := file_set_and_config_agree {} taggedEntities
    obtain ⟨fs, hfs⟩ := (hcompiled {} taggedPosts h).1
    obtain ⟨sources, schemas, config, rfl, hsources, hschemas, hpath, hlists⟩ := hfiles fs hfs
    have hsources := map_eq_map_of_forall₂ hsources fun E f hf => (congrArg (·.path) hf).symm
    have hschemas := map_eq_map_of_forall₂ hschemas fun E f hf => (congrArg (·.path) hf).symm
    refine ⟨_, hfs, ?_, config, by simp, ?_⟩
    · rw [List.map_append, List.map_append, ← hsources, ← hschemas, List.map_singleton, hpath]
      decide +kernel
    · rw [(hlists.read (by decide +kernel)).2]
      decide +kernel
  · exact (file_set_and_config_agree {} _).1.2 (by decide +kernel)

end EntitySchema
