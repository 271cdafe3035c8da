/-
  EntitySchema.Proofs.Source.Collision
  ────────────────────────────────
  **WHEN TWO FILES HAVE ONE PATH.**

  Files are called after small spellings, while names are compared as they
  are declared; so two entities may be given one file:

      Post   ent/schema/post.go        post   ent/schema/post.go

  Files of different kinds have different endings and never meet.  Within a
  kind, names without slashes meet iff they have one small spelling; what
  slashes and leading dots come to depends on the directory, so the general
  law speaks of the components of the joined paths.

  Main results: `nodup_files_iff`, `nodup_files_iff_of_noSlash`.
-/
import EntitySchema.Proofs.Identifier.Spelling
import EntitySchema.Proofs.Source.Bundle

namespace EntitySchema

open Identifier (snake slash_notMem_snake)
open EntitySchema.Path (Component Ending append_ne_append exists_components_append
  getLast?_pieces_join join join_append pieces_of_notMem)

variable {o : CompileOptions} {s : DescriptorSet} {es : List Entity} {l : OutputLayout}

namespace Source

/-! ## §1. Two files of one kind. -/

/-- Two names give one file of a directory. -/
def SharesFile (d : Path) (ending n n' : String) : Prop :=
  (join d (snake n ++ ending)).components = (join d (snake n' ++ ending)).components

/-- A file without slashes in its name has its name at the end of its
path. -/
theorem getLast?_components_join {ending t : String} (h : Ending ending) (ht : '/' ∉ t.toList)
    (d : Path) : (join d (t ++ ending)).components.getLast? = some (.normal (t ++ ending)) := by
  obtain ⟨last, hlast, hcomponents⟩ := exists_components_append h (join d t)
  rw [getLast?_pieces_join, pieces_of_notMem ht, List.getLast?_singleton, Option.some_inj] at hlast
  rw [join_append h, hcomponents, ← hlast, String.ofList_toList]

theorem sharesFile_iff {ending n n' : String} (h : Ending ending) (hn : '/' ∉ n.toList)
    (hn' : '/' ∉ n'.toList) (d : Path) : SharesFile d ending n n' ↔ snake n = snake n' := by
  constructor
  · intro hshare
    have hlast := congrArg List.getLast? hshare
    rw [getLast?_components_join h (slash_notMem_snake hn),
      getLast?_components_join h (slash_notMem_snake hn')] at hlast
    exact (String.append_left_inj ending).1 (Component.normal.inj (Option.some.inj hlast))
  · intro heq
    rw [SharesFile, heq]

/-! ## §2. Files of different kinds. -/

theorem components_ne {e e' : String} (h : Ending e) (h' : Ending e')
    (hne : ∀ t t' : String, t ++ e ≠ t' ++ e') (d d' t t' : String) :
    (join d (t ++ e)).components ≠ (join d' (t' ++ e')).components := by
  obtain ⟨u, -, hu⟩ := exists_components_append h (join d t)
  obtain ⟨u', -, hu'⟩ := exists_components_append h' (join d' t')
  rw [join_append h, join_append h']
  intro heq
  rw [heq, hu'] at hu
  exact hne _ _ (Component.normal.inj (Option.some.inj hu)).symm

/-! ## §3. All files. -/

theorem nodup_append_append_singleton {α : Type} {a b : List α} {c : α}
    (hab : ∀ x ∈ a, ∀ y ∈ b, x ≠ y) (hac : ∀ x ∈ a, x ≠ c) (hbc : ∀ y ∈ b, y ≠ c) :
    (a ++ b ++ [c]).Nodup ↔ a.Nodup ∧ b.Nodup := by
  simp only [List.nodup_append, List.mem_append, List.mem_singleton, List.nodup_singleton]
  grind

/-- The files of entities have different paths iff those of each kind do. -/
theorem nodup_paths_iff (hes : ∀ E ∈ es, E.Filed) :
    ((files l es).map (·.path.components)).Nodup
      ↔ (es.map fun E => (schemaFile l E).path.components).Nodup
        ∧ ((es.filter (·.hasMutations)).map fun E => (mutationFile l E).path.components).Nodup := by
  have hconfig : (configFile l es).path = join l.configDir ("gqlgen" ++ ".yml") := rfl
  simp only [files, List.map_append, List.map_map, List.map_singleton, Function.comp_def]
  -- files of different kinds end differently, so they never have one path
  refine nodup_append_append_singleton ?_ ?_ ?_
  · intro x hx y hy
    obtain ⟨E, hE, rfl⟩ := List.mem_map.1 hx
    obtain ⟨E', hE', rfl⟩ := List.mem_map.1 hy
    rw [(hes E hE).schemaFile_path, (hes E' (List.mem_of_mem_filter hE')).mutationFile_path]
    exact components_ne {} {} (append_ne_append (by decide)) _ _ _ _
  · intro x hx
    obtain ⟨E, hE, rfl⟩ := List.mem_map.1 hx
    rw [(hes E hE).schemaFile_path, hconfig]
    exact components_ne {} {} (append_ne_append (by decide)) _ _ _ _
  · intro x hx
    obtain ⟨E, hE, rfl⟩ := List.mem_map.1 hx
    rw [(hes E (List.mem_of_mem_filter hE)).mutationFile_path, hconfig]
    exact components_ne {} {} (append_ne_append (by decide)) _ _ _ _

theorem nodup_schemaFiles_iff (hd : (es.map (·.name)).Nodup) (hes : ∀ E ∈ es, E.Filed) :
    (es.map fun E => (schemaFile l E).path.components).Nodup
      ↔ ∀ E ∈ es, ∀ E' ∈ es, SharesFile l.schemaDir ".go" E.name E'.name → E.name = E'.name := by
  rw [List.nodup_map_iff_inj_on (hd.of_map _)]
  refine forall₄_congr fun E hE E' hE' => ?_
  rw [(hes E hE).schemaFile_path, (hes E' hE').schemaFile_path, ← SharesFile]
  exact imp_congr_right fun _ => ⟨congrArg _, List.inj_on_of_nodup_map hd hE hE'⟩

theorem nodup_mutationFiles_iff (hd : (es.map (·.name)).Nodup) (hes : ∀ E ∈ es, E.Filed) :
    ((es.filter (·.hasMutations)).map fun E => (mutationFile l E).path.components).Nodup
      ↔ ∀ E ∈ es, ∀ E' ∈ es, E.hasMutations = true → E'.hasMutations = true →
        SharesFile l.graphqlDir ".graphql" E.name E'.name → E.name = E'.name := by
  rw [List.nodup_map_iff_inj_on ((hd.of_map _).filter _)]
  simp only [List.mem_filter, and_imp]
  constructor
  · intro h E hE E' hE' hm hm' hshare
    refine congrArg _ (h E hE hm E' hE' hm' ?_)
    rwa [(hes E hE).mutationFile_path, (hes E' hE').mutationFile_path]
  · intro h E hE hm E' hE' hm' heq
    rw [(hes E hE).mutationFile_path, (hes E' hE').mutationFile_path] at heq
    exact List.inj_on_of_nodup_map hd hE hE' (h E hE E' hE' hm hm' heq)

/-- **WHEN TWO FILES HAVE ONE PATH**: two schema sources or two API schemas of
one directory that two names share. -/
theorem nodup_files_iff (h : compile o s = .ok es) (l : OutputLayout) :
    ((files l es).map (·.path.components)).Nodup
      ↔ (∀ E ∈ es, ∀ E' ∈ es, SharesFile l.schemaDir ".go" E.name E'.name → E.name = E'.name)
        ∧ ∀ E ∈ es, ∀ E' ∈ es, E.hasMutations = true → E'.hasMutations = true →
          SharesFile l.graphqlDir ".graphql" E.name E'.name → E.name = E'.name := by
  have hd := (compiled_of_compile h).names_distinct
  have hes := filed_of_compile h
  rw [nodup_paths_iff hes, nodup_schemaFiles_iff hd hes, nodup_mutationFiles_iff hd hes]

/-- Names without slashes share a file iff they have one small spelling,
whatever the layout. -/
theorem nodup_files_iff_of_noSlash (h : compile o s = .ok es) (l : OutputLayout)
    (hslash : ∀ m ∈ s.selected, '/' ∉ m.name.toList) :
    ((files l es).map (·.path.components)).Nodup
      ↔ ∀ m ∈ s.selected, ∀ m' ∈ s.selected, snake m.name = snake m'.name → m.name = m'.name := by
  have hc := compiled_of_compile h
  have hslash := (hc.forall_name_iff (P := fun n => '/' ∉ n.toList)).2 hslash
  -- a name without a slash is one component, so sharing a file is sharing a spelling
  have hshares : ∀ (d : Path) {ending : String}, Ending ending → ∀ E ∈ es, ∀ E' ∈ es,
      (SharesFile d ending E.name E'.name ↔ snake E.name = snake E'.name) :=
    fun d _ hending E hE E' hE' => sharesFile_iff hending (hslash E hE) (hslash E' hE') d
  rw [nodup_files_iff h, ← hc.forall_name_iff₂ (P := fun n n' => snake n = snake n' → n = n')]
  constructor
  · intro hpaths E hE E' hE' heq
    exact hpaths.1 E hE E' hE' ((hshares _ {} E hE E' hE').2 heq)
  · intro hnames
    refine ⟨fun E hE E' hE' hshare => ?_, fun E hE E' hE' _ _ hshare => ?_⟩
    · exact hnames E hE E' hE' ((hshares _ {} E hE E' hE').1 hshare)
    · exact hnames E hE E' hE' ((hshares _ {} E hE E' hE').1 hshare)

end Source
end EntitySchema
