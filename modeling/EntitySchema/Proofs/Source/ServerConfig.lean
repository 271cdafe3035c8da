/-
  EntitySchema.Proofs.Source.ServerConfig
  ────────────────────────────────
  **WHAT THE SERVER CONFIGURATION LISTS.**

  The configuration has two lists, each below a heading of its own, and the
  bindings of scalars between them:

      autobind:             the package, and one package per entity
        - app/ent
        - app/ent/post
      models: …
      schema:               the schema of the ORM, and one per entity with
        - ent.graphql       mutations
        - post.graphql

  Lines other than headings are indented, so no heading is found but the one
  that is meant, and the lists are read back as they were written.

  Main result: `configLists_serverConfig`.
-/
import EntitySchema.Proofs.Text.Lines
import EntitySchema.Source.ServerConfig

namespace EntitySchema.Source

variable {es : List Entity} {entPackage : String}

/-! ## §1. Bindings of scalars. -/

/-- Lines that bind scalars to models. -/
def bindingLines (es : List Entity) (entPackage : String) : List String :=
  modelLines "ID" "github.com/99designs/gqlgen/graphql.UUID"
    ++ modelLines "Node" (entPackage ++ ".Noder")
    ++ (boundScalars es).flatMap (fun m => modelLines m.1 m.2)

/-- Only three scalars have models of their own. -/
theorem mem_of_mem_boundScalars {m : String × String} (h : m ∈ boundScalars es) :
    m ∈ ["Uint32", "Uint64", "Float"].map fun s =>
      (s, "github.com/99designs/gqlgen/graphql." ++ s) := by
  obtain ⟨s, -, hs⟩ := List.mem_filterMap.1 h
  obtain ⟨model, hmodel, rfl⟩ := Option.map_eq_some_iff.1 hs
  unfold scalarModel? at hmodel
  split at hmodel <;> cases hmodel <;> decide

theorem mem_bindingLines {line : String} (h : line ∈ bindingLines es entPackage) :
    ∃ scalar model, line ∈ modelLines scalar model
      ∧ '\n' ∉ scalar.toList ∧ ('\n' ∈ model.toList → '\n' ∈ entPackage.toList) := by
  rw [bindingLines, List.mem_append, List.mem_append, List.mem_flatMap] at h
  rcases h with (h | h) | ⟨m, hm, h⟩
  · exact ⟨_, _, h, by decide, fun hbreak => absurd hbreak (by decide)⟩
  · exact ⟨_, _, h, by decide, by simp⟩
  · have hbreaks : ∀ m ∈ ["Uint32", "Uint64", "Float"].map fun s =>
        (s, "github.com/99designs/gqlgen/graphql." ++ s),
        '\n' ∉ m.1.toList ∧ '\n' ∉ m.2.toList := by decide
    obtain ⟨hscalar, hmodel⟩ := hbreaks m (mem_of_mem_boundScalars hm)
    exact ⟨_, _, h, hscalar, fun hbreak => absurd hbreak hmodel⟩

/-- A line that is no heading. -/
def Indented (line : String) : Prop := line.toList.head? = some ' '

instance (line : String) : Decidable (Indented line) :=
  inferInstanceAs (Decidable (line.toList.head? = some ' '))

theorem indented_item (i : String) : Indented ("  - " ++ i) := by simp [Indented]

theorem indented_bindingLines : ∀ line ∈ bindingLines es entPackage, Indented line := by
  intro line hline
  obtain ⟨scalar, model, h, -, -⟩ := mem_bindingLines hline
  simp only [modelLines, List.mem_cons, List.not_mem_nil, or_false] at h
  rcases h with rfl | rfl | rfl <;> simp [Indented]

theorem notMem_bindingLines (h : '\n' ∉ entPackage.toList) :
    ∀ line ∈ bindingLines es entPackage, '\n' ∉ line.toList := by
  intro line hline
  obtain ⟨scalar, model, hmem, hscalar, hmodel⟩ := mem_bindingLines hline
  simp only [modelLines, List.mem_cons, List.not_mem_nil, or_false] at hmem
  rcases hmem with rfl | rfl | rfl <;> simp [hscalar, mt hmodel h]

/-! ## §2. Lists. -/

/-- A configuration with two lists, as they are written and as they are read
back. -/
structure ConfigLists (text : String) (packages schemas : List String) : Prop where
  written : ∃ front bindings : List String,
    text = Text.unlines (front ++ "autobind:" :: (packages.map ("  - " ++ ·)
      ++ "models:" :: (bindings ++ "schema:" :: schemas.map ("  - " ++ ·))))
      ∧ ∀ line ∈ front ++ bindings, line ≠ "autobind:" ∧ line ≠ "schema:"
  read : (∀ i ∈ packages ++ schemas, '\n' ∉ i.toList) →
    Text.itemsUnder "autobind:" "  - " (Text.lines text) = packages
      ∧ Text.itemsUnder "schema:" "  - " (Text.lines text) = schemas

/-- Lines in front of the first list. -/
def front : List String := ["resolver:", "  layout: follow-schema", "  dir: ."]

theorem serverConfig_eq (es : List Entity) (entPackage : String) :
    serverConfig es entPackage = Text.unlines (
      front ++ "autobind:" :: ((boundPackages es entPackage).map ("  - " ++ ·)
        ++ "models:" :: (bindingLines es entPackage
          ++ "schema:" :: (schemaFiles es).map ("  - " ++ ·)))) := by
  simp [serverConfig, front, bindingLines]

/-- A heading stands nowhere among indented lines. -/
theorem ne_of_indented {line heading : String} (h : Indented line) (hheading : ¬ Indented heading) :
    line ≠ heading := by
  rintro rfl
  exact hheading h

theorem notMem_items {heading : String} (hheading : ¬ Indented heading) (is : List String) :
    heading ∉ is.map ("  - " ++ ·) := by
  intro hmem
  obtain ⟨i, -, hi⟩ := List.mem_map.1 hmem
  exact ne_of_indented (indented_item i) hheading hi

theorem newline_notMem_items {is : List String} (h : ∀ i ∈ is, '\n' ∉ i.toList) :
    ∀ line ∈ is.map ("  - " ++ ·), '\n' ∉ line.toList := by
  simpa [List.forall_mem_map] using h

theorem bindingLines_ne {line heading : String} (hheading : ¬ Indented heading)
    (h : line ∈ bindingLines es entPackage) : line ≠ heading :=
  ne_of_indented (indented_bindingLines line h) hheading

/-- Lines of the configuration, the end of the text being an empty one. -/
theorem lines_serverConfig
    (h : ∀ i ∈ boundPackages es entPackage ++ schemaFiles es, '\n' ∉ i.toList) :
    Text.lines (serverConfig es entPackage)
      = front ++ "autobind:" :: ((boundPackages es entPackage).map ("  - " ++ ·)
        ++ "models:" :: (bindingLines es entPackage
          ++ "schema:" :: ((schemaFiles es).map ("  - " ++ ·) ++ [""]))) := by
  have hfront : ∀ line ∈ front, '\n' ∉ line.toList := by decide
  have hbindings : ∀ line ∈ bindingLines es entPackage, '\n' ∉ line.toList :=
    notMem_bindingLines (h entPackage (by simp [boundPackages]))
  rw [List.forall_mem_append] at h
  rw [serverConfig_eq, Text.lines_unlines]
  · simp
  · simp only [List.forall_mem_append, List.forall_mem_cons]
    exact ⟨hfront, by decide, newline_notMem_items h.1, by decide, hbindings, by decide,
      newline_notMem_items h.2⟩

/-- **WHAT THE SERVER CONFIGURATION LISTS.** -/
theorem configLists_serverConfig (es : List Entity) (entPackage : String) :
    ConfigLists (serverConfig es entPackage) (boundPackages es entPackage) (schemaFiles es) where
  written := by
    have hfront : ∀ line ∈ front, line ≠ "autobind:" ∧ line ≠ "schema:" := by decide
    refine ⟨front, bindingLines es entPackage, serverConfig_eq es entPackage, ?_⟩
    rw [List.forall_mem_append]
    exact ⟨hfront, fun line h => ⟨bindingLines_ne (by decide) h, bindingLines_ne (by decide) h⟩⟩
  read h := by
    rw [lines_serverConfig h]
    constructor
    · exact Text.itemsUnder_append _ (by decide) rfl
    -- the second heading stands behind the first list and the bindings
    · have hbefore : "schema:" ∉ front ++ "autobind:" ::
          ((boundPackages es entPackage).map ("  - " ++ ·)
            ++ "models:" :: bindingLines es entPackage) := by
        have hpackages : "schema:" ∉ (boundPackages es entPackage).map ("  - " ++ ·) :=
          notMem_items (by decide) _
        have hbindings : "schema:" ∉ bindingLines es entPackage :=
          fun hmem => bindingLines_ne (by decide) hmem rfl
        simp only [List.mem_append, List.mem_cons, not_or]
        exact ⟨by decide, by decide, hpackages, by decide, hbindings⟩
      have hread := Text.itemsUnder_append (schemaFiles es) hbefore
        (show Text.items "  - " [""] = [] from rfl)
      simpa only [List.append_assoc, List.cons_append] using hread

end EntitySchema.Source
