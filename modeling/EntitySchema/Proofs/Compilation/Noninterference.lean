/-
  EntitySchema.Proofs.Compilation.Noninterference
  ────────────────────────────────
  **WHAT IS NOT GENERATED DOES NOT INTERFERE.**

  Messages that did not opt in may come, go and change, and ignored fields
  may change in all but their names: the set compiles to the very same
  entities, or fails with the very same fault.

      catalogs alike  →  pairs, edges, entities equal

  An entry carries its message, so the catalogs of the two sets are alike
  and not equal; from the edges on nothing of the message is left but its
  name.

  Main result: `compile_eq_of_edited`.
-/
import EntitySchema.Proofs.Catalog.Visibility
import EntitySchema.Proofs.Compilation.Likeness

namespace EntitySchema

variable {o : CompileOptions}

/-! ## §1. Entities. -/

/-- What is made of the entries does not depend on the messages that they
carry. -/
theorem Catalog.Alike.entities {c c' : Catalog} (h : c.Alike c') :
    c.entries.mapM c.entity = c'.entries.mapM c'.entity := by
  have hlike : c.Like FieldDescriptor.Interchangeable c' := by
    refine ⟨h.positions, h.entries.imp fun e e' he => ⟨he.name, he.attributes, ?_⟩⟩
    rw [he.references]
    exact List.forall₂_same.2 fun f _ => .refl f
  exact hlike.entities_eq.symm

/-! ## §2. Compilations. -/

/-- **WHAT IS NOT GENERATED DOES NOT INTERFERE**: an edit that concerns
nothing generated leaves the outcome as it was. -/
theorem compile_eq_of_edited {s t : DescriptorSet} (h : Edited s.entities t.entities) :
    compile o t = compile o s := by
  have hbuild : SameOutcome Catalog.Alike (Catalog.build o s) (Catalog.build o t) :=
    Catalog.build_of_alike (selected_of_edited h)
  have houtcome : SameOutcome (· = ·) (compile o s) (compile o t) :=
    hbuild.bind fun c c' hc => .of_eq hc.entities
  exact houtcome.eq.symm

/-- Users and their posts. -/
def postingUser : MessageDescriptor where
  name := "User"
  generate := true
  fields := [(FieldDescriptor.ofMessage "posts" "Post").asRepeated]

/-- Posts with an ignored field between the others, and drafts of them that
did not opt in. -/
def draftedPosts : DescriptorSet :=
  ⟨[{ name := "Post", generate := true,
      fields := [{ name := "title", kind := .string },
        { name := "old", kind := .group, options := { ignore := true } },
        .ofMessage "author" "User"] },
    { name := "Draft", fields := [.ofMessage "author" "User"] }, postingUser]⟩

/-- The same posts without drafts: the ignored field refers to users now, and
another message of their name did not opt in. -/
def redraftedPosts : DescriptorSet :=
  ⟨[{ postingUser with generate := false },
    { name := "Post", generate := true,
      fields := [{ name := "title", kind := .string },
        { FieldDescriptor.ofMessage "old" "User" with options := { ignore := true } },
        .ofMessage "author" "User"] },
    postingUser]⟩

/-- Tags that nothing can store. -/
def unstorableTag : MessageDescriptor where
  name := "Tag"
  generate := true
  fields := [{ name := "labels", kind := .group }]

/-- The edit leaves the entities of the posts as they were, and the fault of
a tag behind them too. -/
theorem redraftedPosts_compiled :
    (∃ es, compile {} draftedPosts = .ok es ∧ compile {} redraftedPosts = .ok es)
      ∧ ∃ x, compile {} ⟨draftedPosts.entities ++ [unstorableTag]⟩ = .error x
        ∧ compile {} ⟨redraftedPosts.entities ++ [unstorableTag]⟩ = .error x := by
  have huser : postingUser.Alike postingUser :=
    ⟨rfl, rfl, List.forall₂_same.2 fun f _ => .same f⟩
  have htag : unstorableTag.Alike unstorableTag :=
    ⟨rfl, rfl, List.forall₂_same.2 fun f _ => .same f⟩
  have hedited : ∀ {ms : List MessageDescriptor}, Edited ms ms →
      Edited (draftedPosts.entities ++ ms) (redraftedPosts.entities ++ ms) := by
    intro ms hms
    refine .insert rfl (.keep ⟨rfl, rfl, ?_⟩ (.delete rfl (.keep huser hms)))
    exact .cons (.same _) (.cons (.ignored rfl rfl rfl) (.cons (.same _) .nil))
  obtain ⟨es, h⟩ : ∃ es, compile {} draftedPosts = .ok es := ⟨_, rfl⟩
  obtain ⟨x, hx⟩ : ∃ x, compile {} ⟨draftedPosts.entities ++ [unstorableTag]⟩ = .error x :=
    ⟨_, rfl⟩
  refine ⟨⟨es, h, ?_⟩, x, hx, ?_⟩
  · exact (compile_eq_of_edited (hedited .nil)).trans h
  · exact (compile_eq_of_edited (hedited (.keep htag .nil))).trans hx

end EntitySchema
