/-
  EntitySchema.Proofs.Source.MutationNames
  ────────────────────────────────
  **WHEN MUTATIONS OF DIFFERENT ENTITIES CLASH.**

  The API schemas of all entities extend one type, so their mutations share
  a name space, and so do their input types.  A mutation is called by a verb
  and a noun, which is the name of the entity or its plural:

      Post     createPost, createPosts, …      input UpdatePostsInput
      Posts    createPosts, createPostses, …   input UpdatePostsesInput

  Verbs have one length, so mutations are distinct iff the nouns are.  Only
  names are compared when entities are entered, though; a plural may be the
  name of another entity, or the plural of another one.

  Main result: `mutation_names_distinct_iff`.
-/
import EntitySchema.Proofs.Compilation.Mutations
import EntitySchema.Proofs.Identifier.Plural
import EntitySchema.Proofs.Source.Bundle
import EntitySchema.Proofs.Text.Lines

namespace EntitySchema

open Identifier (SharesPlural plural mem_plural nodup_map_plural_iff nodup_nouns_iff)

variable {o : CompileOptions} {s : DescriptorSet} {es : List Entity} {l : OutputLayout} {E : Entity}

namespace Source

/-! ## §1. Verbs and nouns. -/

/-- What can be done with an entity. -/
def verbs : List String := ["create", "update", "delete"]

/-- Verbs with nouns behind them. -/
def phrases (nouns : List String) : List String :=
  verbs.flatMap fun v => nouns.map (v ++ ·)

/-- A noun can be told from a phrase, all verbs being equally long. -/
theorem verb_append_inj {v v' n n' : String} (hv : v ∈ verbs) (hv' : v' ∈ verbs)
    (h : v ++ n = v' ++ n') : v = v' ∧ n = n' := by
  have hlength : ∀ v ∈ verbs, v.toList.length = 6 := by decide
  have hlist := congrArg String.toList h
  rw [String.toList_append, String.toList_append] at hlist
  obtain ⟨hverb, hnoun⟩ := List.append_inj hlist ((hlength v hv).trans (hlength v' hv').symm)
  exact ⟨String.toList_inj.1 hverb, String.toList_inj.1 hnoun⟩

theorem mem_phrases_iff {nouns : List String} {x : String} :
    x ∈ phrases nouns ↔ ∃ v ∈ verbs, ∃ n ∈ nouns, v ++ n = x := by
  simp only [phrases, List.mem_flatMap, List.mem_map]

theorem nodup_phrases_iff {nouns : List String} : (phrases nouns).Nodup ↔ nouns.Nodup := by
  have hcreate : "create" ∈ verbs := by decide
  rw [phrases, List.nodup_flatMap]
  constructor
  · intro h
    exact (h.1 "create" hcreate).of_map _
  · intro hnouns
    constructor
    -- one verb keeps nouns apart, and two verbs have nothing in common
    · intro v hv
      exact hnouns.map fun n n' h => (verb_append_inj hv hv h).2
    · have hverbs : verbs.Nodup := by decide
      refine List.Pairwise.imp_of_mem ?_ hverbs
      intro v v' hv hv' hne x hx hx'
      obtain ⟨n, -, rfl⟩ := List.mem_map.1 hx
      obtain ⟨n', -, h⟩ := List.mem_map.1 hx'
      exact hne (verb_append_inj hv' hv h).1.symm

theorem disjoint_phrases_iff {nouns nouns' : List String} :
    List.Disjoint (phrases nouns) (phrases nouns') ↔ List.Disjoint nouns nouns' := by
  have hcreate : "create" ∈ verbs := by decide
  constructor
  · intro h n hn hn'
    exact h (mem_phrases_iff.2 ⟨_, hcreate, n, hn, rfl⟩)
      (mem_phrases_iff.2 ⟨_, hcreate, n, hn', rfl⟩)
  · intro h x hx hx'
    obtain ⟨v, hv, n, hn, rfl⟩ := mem_phrases_iff.1 hx
    obtain ⟨v', hv', n', hn', heq⟩ := mem_phrases_iff.1 hx'
    rw [(verb_append_inj hv' hv heq).2] at hn'
    exact h hn hn'

/-- Phrases with the nouns of several owners. -/
theorem nodup_flatMap_phrases_iff {α : Type} {owners : List α} {nouns : α → List String} :
    (owners.flatMap fun a => phrases (nouns a)).Nodup ↔ (owners.flatMap nouns).Nodup := by
  have hapart : Function.onFun List.Disjoint (fun a => phrases (nouns a))
      = Function.onFun List.Disjoint nouns := by
    funext a b
    exact propext disjoint_phrases_iff
  rw [List.nodup_flatMap, List.nodup_flatMap, hapart]
  simp only [nodup_phrases_iff]

/-! ## §2. Names that entities declare. -/

/-- Mutations of all entities. -/
def mutationNames (es : List Entity) : List String :=
  (es.filter (·.hasMutations)).flatMap fun E => (mutationFields E).map (·.1)

/-- Input types of all entities. -/
def inputNames (es : List Entity) : List String :=
  (es.filter (·.hasMutations)).map bulkInputName

/-- Nouns that the mutations of an entity are about. -/
def nouns (E : Entity) : List String := [E.name, E.pluralName]

theorem mutationFields_names (E : Entity) : (mutationFields E).map (·.1) = phrases (nouns E) := rfl

theorem bulkInputName_inj {E E' : Entity} :
    bulkInputName E = bulkInputName E' ↔ E.pluralName = E'.pluralName := by
  rw [bulkInputName, bulkInputName, String.append_left_inj, String.append_right_inj]

/-- Names that are compared are those of the messages with something to
set. -/
theorem nodup_mutables (h : compile o s = .ok es) : ((s.mutables o).map (·.name)).Nodup := by
  have hd := (compiled_of_compile h).names_distinct
  rw [(compiled_of_compile h).names_eq] at hd
  exact hd.sublist (List.filter_sublist.map _)

theorem nodup_mutationNames_iff (h : compile o s = .ok es) :
    (mutationNames es).Nodup
      ↔ ∀ m ∈ s.mutables o, ∀ m' ∈ s.mutables o,
        m.name ≠ plural m'.name ∧ ¬ SharesPlural m.name.toList m'.name.toList := by
  -- what is named after an entity is named after the message that it comes from
  have hnouns : (es.filter (·.hasMutations)).map nouns
      = ((s.mutables o).map (·.name)).map fun n => [n, plural n] := by
    rw [List.map_map]
    refine (map_eq_map_of_forall₂ (offered_filter_of_compile h) fun m E hE => ?_).symm
    rw [nouns, hE.name, hE.pluralName]
    rfl
  calc (mutationNames es).Nodup
    _ ↔ ((es.filter (·.hasMutations)).flatMap nouns).Nodup := by
        simp only [mutationNames, mutationFields_names, nodup_flatMap_phrases_iff]
    _ ↔ (((s.mutables o).map (·.name)).flatMap fun n => [n, plural n]).Nodup := by
        rw [List.flatMap_def, hnouns, ← List.flatMap_def]
    _ ↔ _ := by
        rw [nodup_nouns_iff (nodup_mutables h)]
        simp only [List.forall_mem_map]

theorem nodup_inputNames_iff (h : compile o s = .ok es) :
    (inputNames es).Nodup
      ↔ ∀ m ∈ s.mutables o, ∀ m' ∈ s.mutables o,
        ¬ SharesPlural m.name.toList m'.name.toList := by
  have hplurals : (es.filter (·.hasMutations)).map (·.pluralName)
      = ((s.mutables o).map (·.name)).map plural := by
    rw [List.map_map]
    refine (map_eq_map_of_forall₂ (offered_filter_of_compile h) fun m E hE => ?_).symm
    exact hE.pluralName.symm
  have hinputs : (inputNames es).Nodup
      ↔ ((es.filter (·.hasMutations)).map (·.pluralName)).Nodup := by
    simp only [inputNames, List.Nodup, List.pairwise_map, ne_eq, bulkInputName_inj]
  rw [hinputs, hplurals, nodup_map_plural_iff (nodup_mutables h)]
  simp only [List.forall_mem_map]

/-! ## §3. Names that files declare. -/

/-- Mutations that an API schema declares. -/
def readMutations (text : String) : List String :=
  (Text.itemsUnder "extend type Mutation \x7b" "  " (Text.lines text)).map (Text.upTo '(')

/-- Input types that an API schema declares, below the empty line. -/
def readInputs (text : String) : List String :=
  (Text.itemsUnder "" "input " (Text.lines text)).map (Text.upTo ' ')

/-- A name that can be told from what is written behind it. -/
structure Plain (n : String) : Prop where
  lineBreak : '\n' ∉ n.toList
  parenthesis : '(' ∉ n.toList
  blank : ' ' ∉ n.toList

instance (n : String) : Decidable (Plain n) :=
  decidable_of_iff ('\n' ∉ n.toList ∧ '(' ∉ n.toList ∧ ' ' ∉ n.toList)
    ⟨fun h => ⟨h.1, h.2.1, h.2.2⟩, fun h => ⟨h.lineBreak, h.parenthesis, h.blank⟩⟩

theorem Plain.plural {n : String} (h : Plain n) : Plain (plural n) where
  lineBreak hmem := (mem_plural hmem).elim h.lineBreak (by decide)
  parenthesis hmem := (mem_plural hmem).elim h.parenthesis (by decide)
  blank hmem := (mem_plural hmem).elim h.blank (by decide)

/-- Lines that declare the mutations. -/
def mutationLines (E : Entity) : List String :=
  ["extend type Mutation \x7b"] ++ (mutationFields E).map (fun f => "  " ++ f.1 ++ f.2) ++ ["\x7d"]

/-- Lines of an API schema, down to the one below the name of the input
type. -/
def declarations (E : Entity) : List String :=
  mutationLines E ++ ["", "input " ++ bulkInputName E ++ " \x7b", "  id: ID!"]

theorem exists_lines_mutationSchema (hname : Plain E.name) (hplural : Plain E.pluralName) :
    ∃ rest, Text.lines (mutationSchema E) = declarations E ++ rest := by
  have hlines : ∀ x ∈ declarations E, '\n' ∉ x.toList := by
    simp [declarations, mutationLines, mutationFields, bulkInputName, hname.lineBreak,
      hplural.lineBreak]
  have htext : mutationSchema E = Text.unlines (declarations E) ++ Text.unlines
      ["  " ++ Identifier.camel E.name ++ ": Update" ++ E.name ++ "Input!", "\x7d"] := by
    rw [← Text.unlines_append, mutationSchema, declarations, mutationLines]
    simp
  rw [htext, Text.lines_unlines_append hlines]
  exact ⟨_, rfl⟩

theorem readMutations_mutationSchema (hname : Plain E.name) (hplural : Plain E.pluralName) :
    readMutations (mutationSchema E) = (mutationFields E).map (·.1) := by
  obtain ⟨rest, hlines⟩ := exists_lines_mutationSchema hname hplural
  have hlist : declarations E ++ rest = [] ++ "extend type Mutation \x7b"
      :: (((mutationFields E).map fun f => f.1 ++ f.2).map ("  " ++ ·)
        ++ "\x7d" :: "" :: ("input " ++ bulkInputName E ++ " \x7b") :: "  id: ID!" :: rest) := by
    simp [declarations, mutationLines, String.append_assoc]
  -- the list ends with the block
  have hend : ∀ ls, Text.items "  " ("\x7d" :: ls) = [] := fun _ => rfl
  have hfields : ∀ f ∈ mutationFields E, '(' ∉ f.1.toList ∧ f.2.toList.head? = some '(' := by
    simp [mutationFields, hname.parenthesis, hplural.parenthesis]
  rw [readMutations, hlines, hlist,
    Text.itemsUnder_append _ List.not_mem_nil (hend _), List.map_map]
  refine List.map_congr_left fun f hf => ?_
  exact Text.upTo_append (hfields f hf).1 (hfields f hf).2

theorem readInputs_mutationSchema (hname : Plain E.name) (hplural : Plain E.pluralName) :
    readInputs (mutationSchema E) = [bulkInputName E] := by
  obtain ⟨rest, hlines⟩ := exists_lines_mutationSchema hname hplural
  have hlist : declarations E ++ rest = mutationLines E
      ++ "" :: ([bulkInputName E ++ " \x7b"].map ("input " ++ ·) ++ "  id: ID!" :: rest) := by
    simp [declarations, String.append_assoc]
  -- members of the input type are indented
  have hend : ∀ ls, Text.items "input " ("  id: ID!" :: ls) = [] := fun _ => rfl
  have hbefore : "" ∉ mutationLines E := by
    simp [mutationLines, mutationFields]
  have hp : ' ' ∉ (bulkInputName E).toList := by
    simp [bulkInputName, hplural.blank]
  rw [readInputs, hlines, hlist, Text.itemsUnder_append _ hbefore (hend _), List.map_singleton,
    Text.upTo_append hp (by rfl)]

/-- API schemas of all entities. -/
def mutationFiles (l : OutputLayout) (es : List Entity) : List GeneratedFile :=
  (es.filter (·.hasMutations)).map (mutationFile l)

/-- What is read from the API schemas are the names that entities declare. -/
theorem read_mutationFiles (h : compile o s = .ok es) (hplain : ∀ m ∈ s.mutables o, Plain m.name)
    (l : OutputLayout) :
    (mutationFiles l es).flatMap (fun f => readMutations f.contents) = mutationNames es
      ∧ (mutationFiles l es).flatMap (fun f => readInputs f.contents) = inputNames es := by
  have hnouns : ∀ E ∈ es.filter (·.hasMutations), Plain E.name ∧ Plain E.pluralName := by
    intro E hE
    obtain ⟨m, hm, hmE⟩ := exists_left_of_mem (offered_filter_of_compile h) E hE
    rw [hmE.name, hmE.pluralName]
    exact ⟨hplain m hm, (hplain m hm).plural⟩
  constructor
  · rw [mutationFiles, List.flatMap_map, mutationNames]
    exact List.flatMap_congr fun E hE =>
      readMutations_mutationSchema (hnouns E hE).1 (hnouns E hE).2
  · rw [mutationFiles, List.flatMap_map, inputNames, List.map_eq_flatMap]
    exact List.flatMap_congr fun E hE =>
      readInputs_mutationSchema (hnouns E hE).1 (hnouns E hE).2

end Source

/-! ## §4. When they clash. -/

open Source (mutationFiles mutationNames inputNames readMutations readInputs Plain)

/-- **WHEN MUTATIONS OF DIFFERENT ENTITIES CLASH.**  Mutations are distinct iff
no entity with mutations is called by the plural of another one and no two of
them share a plural; input types are iff no two share a plural. -/
theorem mutation_names_distinct_iff (h : compile o s = .ok es) (l : OutputLayout) :
    Source.bundle l es
        = .ok (es.map (Source.schemaFile l) ++ mutationFiles l es ++ [Source.configFile l es])
      ∧ ((∀ m ∈ s.mutables o, Plain m.name) →
        (mutationFiles l es).flatMap (fun f => readMutations f.contents) = mutationNames es
          ∧ (mutationFiles l es).flatMap (fun f => readInputs f.contents) = inputNames es)
      ∧ ((mutationNames es).Nodup
        ↔ ∀ m ∈ s.mutables o, ∀ m' ∈ s.mutables o,
          m.name ≠ plural m'.name ∧ ¬ SharesPlural m.name.toList m'.name.toList)
      ∧ ((inputNames es).Nodup
        ↔ ∀ m ∈ s.mutables o, ∀ m' ∈ s.mutables o,
          ¬ SharesPlural m.name.toList m'.name.toList) :=
  ⟨Source.bundle_of_compile h l, fun hplain => Source.read_mutationFiles h hplain l,
    Source.nodup_mutationNames_iff h, Source.nodup_inputNames_iff h⟩

/-- A message with a title. -/
def titled (name : String) : MessageDescriptor where
  name := name
  generate := true
  fields := [{ name := "title", kind := .string }]

/-- Posts of two messages are updated together under one name, and so are
boxes. -/
theorem titledBoxes_clash :
    (∃ es, compile {} ⟨[titled "Post", titled "Posts"]⟩ = .ok es
      ∧ ¬ ((mutationFiles {} es).flatMap fun f => readMutations f.contents).Nodup)
    ∧ ∃ es, compile {} ⟨[titled "Box", titled "Boxe"]⟩ = .ok es
      ∧ ¬ ((mutationFiles {} es).flatMap fun f => readMutations f.contents).Nodup
      ∧ ¬ ((mutationFiles {} es).flatMap fun f => readInputs f.contents).Nodup := by
  constructor
  · obtain ⟨es, h⟩ : ∃ es, compile {} ⟨[titled "Post", titled "Posts"]⟩ = .ok es := ⟨_, rfl⟩
    obtain ⟨-, hread, hmutations, -⟩ := mutation_names_distinct_iff h {}
    refine ⟨es, h, ?_⟩
    rw [(hread (by decide +kernel)).1, hmutations]
    intro happart
    have hne := (happart (titled "Posts") (by decide +kernel) (titled "Post") (by decide +kernel)).1
    exact hne (by decide +kernel)
  · obtain ⟨es, h⟩ : ∃ es, compile {} ⟨[titled "Box", titled "Boxe"]⟩ = .ok es := ⟨_, rfl⟩
    obtain ⟨-, hread, hmutations, hinputs⟩ := mutation_names_distinct_iff h {}
    have hshares : SharesPlural "Box".toList "Boxe".toList :=
      .e (t := ['B', 'o', 'x']) (by decide)
    refine ⟨es, h, ?_, ?_⟩
    · rw [(hread (by decide +kernel)).1, hmutations]
      intro happart
      have hbox := happart (titled "Box") (by decide +kernel) (titled "Boxe") (by decide +kernel)
      exact hbox.2 hshares
    · rw [(hread (by decide +kernel)).2, hinputs]
      intro happart
      exact happart (titled "Box") (by decide +kernel) (titled "Boxe") (by decide +kernel) hshares

end EntitySchema
