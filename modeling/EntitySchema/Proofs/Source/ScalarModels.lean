/-
  EntitySchema.Proofs.Source.ScalarModels
  ────────────────────────────────
  **MODELS FOLLOW THE FIELDS.**

  Between its two lists the server configuration binds scalars to models:
  identities and nodes always, and the numbers that the API does not know by
  itself if a field is shown as one of them.

      models:
        ID: …
        Node: …
        Float: …          some field of a selected message is a Float
      schema:

  Numbers come in the order of their bytes, and each of them once, however
  many fields there are.

  Main result: `scalar_models_of_compile`.
-/
import EntitySchema.Proofs.Compilation.Scalars
import EntitySchema.Proofs.Source.Bundle
import EntitySchema.Proofs.Source.ServerConfig
import EntitySchema.Proofs.Text.Bytes

namespace EntitySchema

open Source

variable {o : CompileOptions} {s : DescriptorSet} {es : List Entity}

namespace Source

/-! ## §1. Bindings of numbers. -/

/-- Model of a scalar in the server's own library. -/
def libraryModel (S : String) : String := "github.com/99designs/gqlgen/graphql." ++ S

theorem scalarModel?_eq (S : String) :
    scalarModel? S = if S ∈ numberScalars then some (libraryModel S) else none := by
  unfold scalarModel?
  split
  · rfl
  · rfl
  · rfl
  next hunsigned hlong hfloat =>
    have hother : S ∉ numberScalars := by
      simp only [numberScalars, List.mem_cons, List.not_mem_nil, or_false, not_or]
      exact ⟨hfloat, hunsigned, hlong⟩
    rw [if_neg hother]

/-- Numbers that entities use, in the order of their bytes. -/
def numbersOf (es : List Entity) : List String :=
  numberScalars.filter (· ∈ (usedScalars es).names)

/-- Increasing names among increasing names are the same either way. -/
theorem filter_names_eq (names : NameSet) :
    names.names.filter (· ∈ numberScalars) = numberScalars.filter (· ∈ names.names) := by
  have hnumbers : numberScalars.Pairwise (· < ·) := by decide
  let left : NameSet := ⟨names.names.filter (· ∈ numberScalars), names.increasing.filter _⟩
  let right : NameSet := ⟨numberScalars.filter (· ∈ names.names), hnumbers.filter _⟩
  have hsame : left = right := by
    refine NameSet.ext_mem fun S => ?_
    simp only [left, right, List.mem_filter, decide_eq_true_eq]
    exact and_comm
  exact congrArg (·.names) hsame

theorem boundScalars_eq (es : List Entity) :
    boundScalars es = (numbersOf es).map fun S => (S, libraryModel S) := by
  have hbound : ∀ names : List String,
      names.filterMap (fun S => (scalarModel? S).map (S, ·))
        = (names.filter (· ∈ numberScalars)).map fun S => (S, libraryModel S) := by
    intro names
    -- a name has a model of its own iff it is one of the number scalars
    induction names with
    | nil => rfl
    | cons S names ih =>
        by_cases hS : S ∈ numberScalars
        · rw [List.filterMap_cons, scalarModel?_eq, if_pos hS, List.filter_cons_of_pos (by simpa),
            List.map_cons, ← ih]
          rfl
        · rw [List.filterMap_cons, scalarModel?_eq, if_neg hS, List.filter_cons_of_neg (by simpa),
            ← ih]
          rfl
  rw [boundScalars, hbound, filter_names_eq, numbersOf]

/-! ## §2. The models of a configuration. -/

/-- Scalars and models of a configuration that binds some numbers. -/
def modelsOf (entPackage : String) (numbers : List String) : List (String × String) :=
  ("ID", libraryModel "UUID") :: ("Node", entPackage ++ ".Noder")
    :: numbers.map fun S => (S, libraryModel S)

/-- A configuration with models, as they are written and as they are read
back. -/
structure ConfigModels (text : String) (packages schemas : List String)
    (models : List (String × String)) : Prop where
  written : text = Text.unlines (front ++ "autobind:" :: (packages.map ("  - " ++ ·)
    ++ "models:" :: (models.flatMap (fun m => modelLines m.1 m.2)
      ++ "schema:" :: schemas.map ("  - " ++ ·))))
  read : (∀ i ∈ packages, '\n' ∉ i.toList) →
    Text.linesBetween "models:" "schema:" (Text.lines text)
      = models.flatMap fun m => modelLines m.1 m.2

theorem bindingLines_eq (es : List Entity) (entPackage : String) :
    bindingLines es entPackage
      = (modelsOf entPackage (numbersOf es)).flatMap fun m => modelLines m.1 m.2 := by
  rw [bindingLines, boundScalars_eq, modelsOf, List.flatMap_cons, List.flatMap_cons,
    List.append_assoc]
  rfl

theorem configModels_serverConfig (es : List Entity) (entPackage : String) :
    ConfigModels (serverConfig es entPackage) (boundPackages es entPackage) (schemaFiles es)
      (modelsOf entPackage (numbersOf es)) where
  written := by rw [serverConfig_eq, bindingLines_eq]
  read h := by
    have hfront : ∀ line ∈ front, '\n' ∉ line.toList := by decide
    have hbindings : ∀ line ∈ bindingLines es entPackage, '\n' ∉ line.toList :=
      notMem_bindingLines (h entPackage List.mem_cons_self)
    -- no heading but the one that is meant, and none among the models
    have hbefore : "models:" ∉ front ++ "autobind:" ::
        (boundPackages es entPackage).map ("  - " ++ ·) := by
      rw [List.mem_append, List.mem_cons, not_or, not_or]
      exact ⟨by decide, by decide, notMem_items (by decide) _⟩
    have hbetween : "schema:" ∉ bindingLines es entPackage :=
      fun hmem => bindingLines_ne (by decide) hmem rfl
    have hbreak : ∀ line ∈ front ++ "autobind:" ::
        ((boundPackages es entPackage).map ("  - " ++ ·) ++ "models:" ::
          (bindingLines es entPackage ++ ["schema:"])), '\n' ∉ line.toList := by
      simp only [List.forall_mem_append, List.forall_mem_cons]
      exact ⟨hfront, by decide, newline_notMem_items h, by decide, hbindings, by decide,
        List.forall_mem_nil _⟩
    have hlines : Text.lines (serverConfig es entPackage)
        = (front ++ "autobind:" :: (boundPackages es entPackage).map ("  - " ++ ·)) ++ "models:" ::
          (bindingLines es entPackage ++ "schema:" ::
            Text.lines (Text.unlines ((schemaFiles es).map ("  - " ++ ·)))) := by
      have hread := Text.lines_unlines_append hbreak
        (Text.unlines ((schemaFiles es).map ("  - " ++ ·)))
      rw [← Text.unlines_append] at hread
      rw [serverConfig_eq]
      simpa only [List.append_assoc, List.cons_append, List.nil_append] using hread
    rw [hlines, ← bindingLines_eq]
    exact Text.linesBetween_append hbefore hbetween

end Source

/-- **MODELS FOLLOW THE FIELDS.** -/
theorem scalar_models_of_compile (h : compile o s = .ok es) (l : OutputLayout) :
    ∃ fs config numbers, bundle l es = .ok fs ∧ config ∈ fs
      ∧ config.path = Path.join l.configDir "gqlgen.yml"
      ∧ ConfigModels config.contents (boundPackages es l.entPackage) (schemaFiles es)
        (modelsOf l.entPackage numbers)
      ∧ numbers.Pairwise (fun S T => Text.utf8 S < Text.utf8 T)
      ∧ ∀ S, S ∈ numbers ↔ S ∈ ["Float", "Uint32", "Uint64"] ∧ s.Shows o S := by
  have hascending : numberScalars.Pairwise fun S T => Text.utf8 S < Text.utf8 T := by decide
  refine ⟨_, configFile l es, numbersOf es, bundle_of_compile h l, mem_files_iff.2 (.inr (.inr rfl)),
    rfl, configModels_serverConfig es l.entPackage, hascending.filter _, fun S => ?_⟩
  rw [numbersOf, List.mem_filter, decide_eq_true_iff]
  exact and_congr_right fun hS => mem_usedScalars_iff h hS

/-- Posts with numbers: an identity and an ignored field that do not count, a
repeated number that is none of those, and an enumeration shown as one. -/
def countedPosts : DescriptorSet :=
  ⟨[{ name := "Post", generate := true,
      fields := [{ name := "id", kind := .float },
        { name := "scores", kind := .double, repeated := true },
        { name := "votes", kind := .uint32, repeated := true },
        { name := "old", kind := .fixed32, options := { ignore := true } },
        { name := "state", kind := .enum, enumValues := ["DRAFT"],
          options := { graphqlType := "Uint64" } }] }]⟩

/-- The configuration of those posts binds two of the three numbers. -/
theorem countedPosts_models :
    ∃ es fs config numbers, compile {} countedPosts = .ok es ∧ bundle {} es = .ok fs
      ∧ config ∈ fs
      ∧ Text.linesBetween "models:" "schema:" (Text.lines config.contents)
        = (modelsOf "app/ent" numbers).flatMap (fun m => modelLines m.1 m.2)
      ∧ "Float" ∈ numbers ∧ "Uint32" ∉ numbers ∧ "Uint64" ∈ numbers := by
  obtain ⟨es, h⟩ : ∃ es, compile {} countedPosts = .ok es := ⟨_, rfl⟩
  obtain ⟨fs, config, numbers, hfs, hconfig, -, hmodels, -, hnumbers⟩ :=
    scalar_models_of_compile h {}
  have hpackages : ∀ i ∈ boundPackages es "app/ent", '\n' ∉ i.toList := by
    cases h
    decide +kernel
  refine ⟨es, fs, config, numbers, h, hfs, hconfig, hmodels.read hpackages, ?_⟩
  rw [hnumbers, hnumbers, hnumbers]
  decide +kernel

end EntitySchema
