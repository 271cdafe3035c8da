/-
  EntitySchema.Proofs.Source.Containment
  ────────────────────────────────
  **WHICH FILES LIE BELOW THE OUTPUT DIRECTORY.**

  Directories of a layout that lead below the output directory do not keep
  the files there: a file is called after its entity, and no name is
  refused.  A name with a slash at its start replaces the directory, and one
  with two dots before a slash leads up:

      Post      ent/schema/post.go
      /Post     /post.go
      ../Post   ent/schema/../post.go

  Neither mark is lost on the way from the name to the file, nor does one
  come in.  So the files lie below iff the names of all selected messages
  lead there.

  Main result: `emitted_below_iff`.
-/
import EntitySchema.Proofs.Identifier.Spelling
import EntitySchema.Proofs.Source.Bundle

namespace EntitySchema

open Identifier (snake leadsAway_snake_iff)
open EntitySchema.Path (LeadsAway Ending below_append_iff below_join_iff join)

variable {o : CompileOptions} {s : DescriptorSet} {es : List Entity} {l : OutputLayout}

/-- All directories of a layout lead below the output directory. -/
structure OutputLayout.Below (l : OutputLayout) : Prop where
  schemaDir : Path.Below l.schemaDir
  graphqlDir : Path.Below l.graphqlDir
  configDir : Path.Below l.configDir

namespace Source

/-- A file called after a name lies below iff the name leads there. -/
theorem below_join_snake_iff {d : Path} (hd : d.Below) {ending : String} (h : Ending ending)
    (name : String) : (join d (snake name ++ ending)).Below ↔ ¬ LeadsAway name.toList := by
  rw [below_join_iff hd, below_append_iff h, leadsAway_snake_iff]

theorem below_schemaFile_iff (hl : l.Below) {E : Entity} (hE : E.Filed) :
    (schemaFile l E).path.Below ↔ ¬ LeadsAway E.name.toList := by
  rw [hE.schemaFile_path]
  exact below_join_snake_iff hl.schemaDir {} E.name

theorem below_mutationFile_iff (hl : l.Below) {E : Entity} (hE : E.Filed) :
    (mutationFile l E).path.Below ↔ ¬ LeadsAway E.name.toList := by
  rw [hE.mutationFile_path]
  exact below_join_snake_iff hl.graphqlDir {} E.name

theorem below_configFile (hl : l.Below) : (configFile l es).path.Below :=
  (below_join_iff hl.configDir).2 (by decide)

theorem forall_files_below_iff (hl : l.Below) (hes : ∀ E ∈ es, E.Filed) :
    (∀ f ∈ files l es, f.path.Below) ↔ ∀ E ∈ es, ¬ LeadsAway E.name.toList := by
  constructor
  · intro h E hE
    exact (below_schemaFile_iff hl (hes E hE)).1 (h _ (mem_files_iff.2 (.inl ⟨E, hE, rfl⟩)))
  · intro h f hf
    rcases mem_files_iff.1 hf with ⟨E, hE, rfl⟩ | ⟨E, hE, -, rfl⟩ | rfl
    · exact (below_schemaFile_iff hl (hes E hE)).2 (h E hE)
    · exact (below_mutationFile_iff hl (hes E hE)).2 (h E hE)
    · exact below_configFile hl

end Source

/-- **WHICH FILES LIE BELOW THE OUTPUT DIRECTORY**: all of them iff no selected
message has a name that leads away.  If one has, the files of its entity do
not lie below, and all others do.  A file that does never leaves a directory
it is put into; one at the root replaces the directory. -/
theorem emitted_below_iff (h : compile o s = .ok es) (hl : l.Below) :
    ∃ files, Source.bundle l es = .ok files
      ∧ ((∀ f ∈ files, f.path.Below) ↔ ∀ m ∈ s.selected, ¬ LeadsAway m.name.toList)
      ∧ (∀ E ∈ es, Source.schemaFile l E ∈ files
        ∧ ((Source.schemaFile l E).path.Below ↔ ¬ LeadsAway E.name.toList)
        ∧ ((Source.mutationFile l E).path.Below ↔ ¬ LeadsAway E.name.toList))
      ∧ (∀ f ∈ files, f.path.Below → ∀ out : Path, ∃ rest,
        (join out f.path).components = out.components ++ rest ∧ ∀ c ∈ rest, c.Onward)
      ∧ ∀ f ∈ files, f.path.isAbsolute = true → ∀ out : Path, join out f.path = f.path := by
  have hfiled := filed_of_compile h
  refine ⟨_, Source.bundle_of_compile h l, ?_, fun E hE => ⟨?_, ?_, ?_⟩, ?_, ?_⟩
  · rw [Source.forall_files_below_iff hl hfiled]
    exact (compiled_of_compile h).forall_name_iff (P := fun n => ¬ LeadsAway n.toList)
  · exact Source.mem_files_iff.2 (.inl ⟨E, hE, rfl⟩)
  · exact Source.below_schemaFile_iff hl (hfiled E hE)
  · exact Source.below_mutationFile_iff hl (hfiled E hE)
  · exact fun f _ hf out => hf.join_onward out
  · exact fun f _ hf out => Path.join_of_isAbsolute hf

/-- Messages whose names lead away, each in its way, beside one that does
not. -/
def escapingPosts : DescriptorSet := ⟨[.named "/Post", .named "../User", .named "a/..b"]⟩

theorem escapingPosts_escape :
    ∃ es files, compile {} escapingPosts = .ok es ∧ Source.bundle {} es = .ok files
      ∧ ¬ (∀ f ∈ files, f.path.Below)
      ∧ files.map (·.path)
        = ["/post.go", "ent/schema/../user.go", "ent/schema/a/..b.go", "config/gqlgen.yml"]
      ∧ ∀ f ∈ files, f.path = "/post.go" → join "gen" f.path = "/post.go" := by
  obtain ⟨es, h⟩ : ∃ es, compile {} escapingPosts = .ok es := ⟨_, rfl⟩
  have hl : OutputLayout.Below {} := ⟨by decide, by decide, by decide⟩
  obtain ⟨files, hfiles, hbelow, -, -, habsolute⟩ := emitted_below_iff h hl
  have hpaths : ((compile {} escapingPosts).toOption.map fun es =>
      (Source.files {} es).map (·.path))
      = some ["/post.go", "ent/schema/../user.go", "ent/schema/a/..b.go", "config/gqlgen.yml"] := by
    decide +kernel
  rw [h] at hpaths
  refine ⟨es, files, h, hfiles, ?_, ?_, ?_⟩
  · rw [hbelow]
    decide
  · rw [Source.eq_files_of_bundle hfiles]
    exact Option.some.inj hpaths
  · intro f hf hpath
    rw [habsolute f hf (by rw [hpath]; rfl), hpath]

end EntitySchema
