/-
  EntitySchema.Proofs.Source.Imports
  ────────────────────────────────
  **A SOURCE IMPORTS WHAT IT USES.**

  A package is imported under its path and used under the last name of it,
  the qualifier:

      path        "entgo.io/ent/schema/field"
      qualifier   field.String("title")

  Which packages are imported is decided from the entity, apart from what is
  written.  Both agree: a path stands among the imports iff a word of the
  body uses its qualifier.  Texts of the entity do not count; an expression
  that is copied may name any package, or none.

  Main result: `imported_iff_used`.
-/
import EntitySchema.Proofs.Source.LiteralValue
import EntitySchema.Proofs.Source.Vocabulary
import EntitySchema.Proofs.Text.Bytes

namespace EntitySchema.Source

/-! ## §1. Qualifiers. -/

/-- Whether a character may stand in a name. -/
def isNameChar (c : Char) : Bool := c.isAlphanum || c = '_'

/-- Names with a dot behind them and none in front, read from the left.
`name` is what stands in front since the last other character, and `selected`
whether that one is a dot. -/
def qualifiersFrom (selected : Bool) (name : List Char) : List Char → List String
  | [] => []
  | c :: cs =>
      if isNameChar c then qualifiersFrom selected (name ++ [c]) cs
      else if c = '.' then
        (if name.isEmpty || selected then [] else [String.ofList name]) ++ qualifiersFrom true [] cs
      else qualifiersFrom false [] cs

/-- Qualifiers that a text uses. -/
def qualifiers (t : String) : List String := qualifiersFrom false [] t.toList

example : qualifiers "f(ent.Field, a.b.c).Ref" = ["ent", "a"] := by decide

/-- Name under which a package is used. -/
def Package.qualifier (p : Package) : String :=
  String.ofList (p.importPath.toList.reverse.takeWhile (· ≠ '/')).reverse

/-- Qualifiers that the words of a stretch use. -/
def Stretch.qualifiers : Stretch → List String
  | .word t => Source.qualifiers t
  | .copied _ => []

/-- Qualifiers that the words of some stretches use. -/
def usedQualifiers (ss : List Stretch) : List String := ss.flatMap (·.qualifiers)

/-! ## §2. Qualifiers of calls. -/

theorem usedQualifiers_append (ss ts : List Stretch) :
    usedQualifiers (ss ++ ts) = usedQualifiers ss ++ usedQualifiers ts := List.flatMap_append

theorem usedQualifiers_flatMap {α : Type} (f : α → List Stretch) (as : List α) :
    usedQualifiers (as.flatMap f) = as.flatMap fun a => usedQualifiers (f a) := List.flatMap_assoc

theorem usedQualifiers_word (t : String) (ss : List Stretch) :
    usedQualifiers (.word t :: ss) = qualifiers t ++ usedQualifiers ss := rfl

theorem usedQualifiers_copied (t : String) (ss : List Stretch) :
    usedQualifiers (.copied t :: ss) = usedQualifiers ss := rfl

theorem usedQualifiers_nil : usedQualifiers [] = [] := rfl

theorem usedQualifiers_separated {mark : String} (hmark : qualifiers mark = [])
    (sss : List (List Stretch)) :
    usedQualifiers (separated mark sss) = sss.flatMap usedQualifiers := by
  induction sss with
  | nil => rfl
  | cons ss rest ih =>
      cases rest with
      | nil => exact (List.append_nil _).symm
      | cons ts rest =>
          rw [separated, usedQualifiers_append, usedQualifiers_word, hmark, List.nil_append, ih]
          rfl

theorem usedQualifiers_call (name : String) (argument : List Stretch) :
    usedQualifiers (callStretches name argument)
      = qualifiers (name ++ "(") ++ usedQualifiers argument := by
  have hend : usedQualifiers [.word ")"] = [] := by decide
  rw [callStretches, usedQualifiers_append, hend, List.append_nil, usedQualifiers_word]

theorem flagStretches_qualifiers (name : String) (h : qualifiers (name ++ "()") = [])
    (present : Bool) : (flagStretches name present).flatMap usedQualifiers = [] := by
  cases present with
  | false => rfl
  | true =>
      show (qualifiers (name ++ "()") ++ []) ++ [] = []
      rw [h]
      rfl

theorem argumentStretches_qualifiers (name : String) (h : qualifiers (name ++ "(") = [])
    (argument : Option (List Stretch)) :
    (argumentStretches name argument).flatMap usedQualifiers
      = argument.toList.flatMap usedQualifiers := by
  cases argument with
  | none => rfl
  | some ss =>
      show usedQualifiers (callStretches name ss) ++ [] = usedQualifiers ss ++ []
      rw [usedQualifiers_call, h, List.nil_append]

theorem copiedStretches_qualifiers (name : String) (h : qualifiers (name ++ "(") = [])
    (write : String → String) (argument : Option String) :
    (copiedStretches name write argument).flatMap usedQualifiers = [] := by
  rw [copiedStretches, argumentStretches_qualifiers name h]
  cases argument <;> rfl

theorem itemsStretches_qualifiers {α : Type} (name : String) (h : qualifiers (name ++ "(") = [])
    (item : α → List Stretch) (values : List α) :
    (itemsStretches name item values).flatMap usedQualifiers
      = values.flatMap fun a => usedQualifiers (item a) := by
  cases values with
  | nil => rfl
  | cons a values =>
      show usedQualifiers (callStretches name (separated ", " ((a :: values).map item))) ++ [] = _
      rw [usedQualifiers_call, h, usedQualifiers_separated (by decide), List.flatMap_map,
        List.nil_append, List.append_nil]

theorem listStretches_qualifiers (name : String) (h : qualifiers (name ++ "(") = [])
    (values : List String) : (listStretches name values).flatMap usedQualifiers = [] := by
  rw [listStretches, itemsStretches_qualifiers name h]
  exact List.flatMap_eq_nil_iff.2 fun _ _ => rfl

theorem usedQualifiers_of_list {name p : String} (h : qualifiers (name ++ "(") = [p])
    {values : List String} : ∀ ss ∈ listStretches name values, usedQualifiers ss = [p] := by
  have hvalues : usedQualifiers (separated ", " (values.map fun v => [.copied (quote v)])) = [] := by
    rw [usedQualifiers_separated (by decide), List.flatMap_map]
    exact List.flatMap_eq_nil_iff.2 fun _ _ => rfl
  intro ss hss
  unfold listStretches itemsStretches at hss
  split at hss
  · cases hss
  · rw [List.mem_singleton.1 hss, usedQualifiers_call, h, hvalues, List.append_nil]

theorem usedQualifiers_of_option {name p : String} (h : qualifiers (name ++ "(") = [p])
    {value : String} : ∀ ss ∈ optionStretches name value, usedQualifiers ss = [p] := by
  intro ss hss
  unfold optionStretches optionStretches.nonEmpty? at hss
  split at hss
  · cases hss
  · rw [List.mem_singleton.1 hss, usedQualifiers_call, h, usedQualifiers_copied,
      usedQualifiers_nil, List.append_nil]

theorem mem_annotations_qualifiers {q : String} {annotations : List Annotation} :
    q ∈ (itemsStretches "Annotations" annotationStretches annotations).flatMap usedQualifiers
      ↔ annotations ≠ [] ∧ q = "entgql" := by
  -- each annotation is one call into one package
  have hone : ∀ a, usedQualifiers (annotationStretches a) = ["entgql"] := by
    intro a
    cases a with
    | orderField key =>
        rw [annotationStretches, usedQualifiers_call, usedQualifiers_copied, usedQualifiers_nil]
        decide
    | graphqlType type =>
        rw [annotationStretches, usedQualifiers_call, usedQualifiers_copied, usedQualifiers_nil]
        decide
    | relayConnection => decide
  have hall : annotations.flatMap (fun a => usedQualifiers (annotationStretches a))
      = List.replicate annotations.length "entgql" := by
    simp only [hone, ← List.map_eq_flatMap, List.map_const']
  rw [itemsStretches_qualifiers "Annotations" (by decide), hall, List.mem_replicate, Ne,
    List.length_eq_zero_iff]

/-! ## §3. Qualifiers of a body. -/

variable {q : String}

/-- A field uses the package of fields, that of identities if it is one, and
that of annotations if it has any. -/
theorem mem_usedQualifiers_field {a : Attribute} :
    q ∈ usedQualifiers (fieldStretches a)
      ↔ q = "field" ∨ (a.isIdentity ∧ q = "uuid") ∨ (a.annotations ≠ [] ∧ q = "entgql") := by
  have hfirst : usedQualifiers (constructorStretches a)
      = "field" :: if a.isIdentity then ["uuid"] else [] := by
    have hkind : ∀ k : StorageKind,
        qualifiers ("field." ++ k.constructorName ++ "(") = ["field"] := by
      intro k
      cases k <;> decide
    rw [constructorStretches, usedQualifiers_call, hkind]
    cases a.isIdentity <;> rfl
  -- no other call of a field names a package, apart from the annotations
  rw [fieldStretches, usedQualifiers_separated (by decide)]
  simp only [List.flatMap_append, List.flatMap_singleton, hfirst, mem_annotations_qualifiers,
    listStretches_qualifiers "Values" (by decide),
    copiedStretches_qualifiers "Default" (by decide),
    copiedStretches_qualifiers "DefaultFunc" (by decide),
    flagStretches_qualifiers "Optional" (by decide),
    flagStretches_qualifiers "Nillable" (by decide),
    flagStretches_qualifiers "Immutable" (by decide),
    flagStretches_qualifiers "Unique" (by decide),
    copiedStretches_qualifiers "Comment" (by decide),
    copiedStretches_qualifiers "StorageKey" (by decide),
    copiedStretches_qualifiers "StructTag" (by decide),
    flagStretches_qualifiers "Sensitive" (by decide),
    copiedStretches_qualifiers "GoType" (by decide),
    List.append_nil, List.mem_append, List.mem_cons, or_assoc]
  cases a.isIdentity <;> simp

/-- Options of a storage override use the package of edges only. -/
theorem usedQualifiers_key (k : StorageKey) :
    ∀ q ∈ usedQualifiers (keyStretches k), q = "edge" := by
  have hedge : ∀ {sss : List (List Stretch)}, (∀ ss ∈ sss, usedQualifiers ss = ["edge"]) →
      ∀ ss ∈ sss, ∀ q ∈ usedQualifiers ss, q = "edge" := by
    intro sss h ss hss q hq
    rw [h ss hss] at hq
    exact List.mem_singleton.1 hq
  rw [keyStretches, usedQualifiers_separated (by decide)]
  simp only [List.forall_mem_flatMap, List.forall_mem_append]
  exact ⟨⟨⟨⟨hedge (usedQualifiers_of_list (by decide)), hedge (usedQualifiers_of_list (by decide))⟩,
    hedge (usedQualifiers_of_option (by decide))⟩, hedge (usedQualifiers_of_option (by decide))⟩,
    hedge (usedQualifiers_of_option (by decide))⟩

/-- An end of an edge uses the package of its constructor alone. -/
theorem usedQualifiers_end (name : String) (e : Edge) :
    usedQualifiers (endStretches name e) = qualifiers (name ++ "(") := by
  have hrest : usedQualifiers [.copied (quote e.name), .word ", ", .copied e.target,
      .word ".Type"] = [] := by
    rw [usedQualifiers_copied, usedQualifiers_word, usedQualifiers_copied]
    decide
  rw [endStretches, usedQualifiers_call, hrest, List.append_nil]

theorem edgeConstructor_qualifiers (e : Edge) :
    (edgeConstructorStretches e).flatMap usedQualifiers = ["edge"] := by
  unfold edgeConstructorStretches
  cases e.direction with
  | owning =>
      rw [List.flatMap_singleton, usedQualifiers_end]
      decide
  | referencing r =>
      rw [List.flatMap_cons, List.flatMap_singleton, usedQualifiers_end, usedQualifiers_call,
        usedQualifiers_copied]
      decide

/-- An edge uses the package of edges, and that of annotations if it has any. -/
theorem mem_usedQualifiers_edge {e : Edge} :
    q ∈ usedQualifiers (edgeStretches e)
      ↔ q = "edge" ∨ (e.annotations ≠ [] ∧ q = "entgql") := by
  -- the package of edges is used anyway, so the storage override adds nothing
  have hkey : ∀ k ∈ e.storageKey.map keyStretches, ∀ r ∈ usedQualifiers k, r = "edge" := by
    intro k hk
    obtain ⟨key, -, rfl⟩ := Option.map_eq_some_iff.1 hk
    exact usedQualifiers_key key
  rw [edgeStretches, usedQualifiers_separated (by decide)]
  simp only [List.flatMap_append, edgeConstructor_qualifiers, mem_annotations_qualifiers,
    flagStretches_qualifiers "Unique" (by decide),
    copiedStretches_qualifiers "Field" (by decide),
    flagStretches_qualifiers "Required" (by decide),
    flagStretches_qualifiers "Immutable" (by decide),
    argumentStretches_qualifiers "StorageKey" (by decide),
    copiedStretches_qualifiers "StructTag" (by decide),
    copiedStretches_qualifiers "Comment" (by decide),
    List.append_nil, List.mem_append, List.mem_singleton]
  constructor
  · rintro ((rfl | hq) | h)
    · exact .inl rfl
    · obtain ⟨k, hk, hq⟩ := List.mem_flatMap.1 hq
      exact .inl (hkey k (Option.mem_toList.1 hk) q hq)
    · exact .inr h
  · rintro (rfl | h)
    · exact .inl (.inl rfl)
    · exact .inr h

theorem mem_usedQualifiers_entityAnnotation {a : EntityAnnotation} :
    q ∈ usedQualifiers (entityAnnotationStretches a) ↔ q = "entgql" := by
  have hall : ∃ n,
      usedQualifiers (entityAnnotationStretches a) = List.replicate (n + 1) "entgql" := by
    cases a with
    | queryField => exact ⟨0, by decide⟩
    | relayConnection => exact ⟨0, by decide⟩
    | mutations create update =>
        exact ⟨create.toNat + update.toNat, by cases create <;> cases update <;> decide⟩
  obtain ⟨n, hn⟩ := hall
  rw [hn, List.mem_replicate, and_iff_right n.succ_ne_zero]

theorem mem_usedQualifiers_method {α : Type} {typeName method itemType : String}
    {item : α → List Stretch} {values : List α} :
    q ∈ usedQualifiers (methodStretches typeName method itemType (values.map item))
      ↔ q ∈ qualifiers (methodWord method itemType)
        ∨ ∃ a ∈ values, q ∈ usedQualifiers (item a) := by
  have hitem : ∀ ss,
      usedQualifiers (.word "\t\t" :: ss ++ [.word ",\n"]) = usedQualifiers ss := by
    intro ss
    have hopen : qualifiers "\t\t" = [] := by decide
    have hclose : qualifiers ",\n" = [] := by decide
    rw [usedQualifiers_append, usedQualifiers_word, usedQualifiers_word, hopen, hclose,
      usedQualifiers_nil, List.append_nil, List.append_nil, List.nil_append]
  have hitems : usedQualifiers
      ((values.map item).flatMap fun ss => .word "\t\t" :: ss ++ [.word ",\n"])
      = values.flatMap fun a => usedQualifiers (item a) := by
    rw [List.flatMap_map, usedQualifiers_flatMap]
    simp only [hitem]
  have hopen : qualifiers "\nfunc (" = [] := by decide
  have hclose : usedQualifiers [.word "\t\x7d\n\x7d\n"] = [] := by decide
  rw [methodStretches, usedQualifiers_append, usedQualifiers_append, hitems, hclose,
    usedQualifiers_word, hopen, usedQualifiers_copied, usedQualifiers_word, usedQualifiers_nil,
    List.nil_append, List.append_nil, List.append_nil, List.mem_append, List.mem_flatMap]

/-- **Qualifiers of a body**, package by package. -/
theorem qualifier_mem_body (e : Entity) (p : Package) :
    p.qualifier ∈ usedQualifiers (bodyStretches e) ↔ p.isUsedBy e = true := by
  have hstruct : usedQualifiers [.word "type ", .copied e.name,
      .word " struct \x7b\n\tent.Schema\n\x7d\n"] = ["ent"] := by
    rw [usedQualifiers_word, usedQualifiers_copied]
    decide
  have hfields : qualifiers (methodWord "Fields" "ent.Field") = ["ent", "ent"] := by decide
  have hedges : qualifiers (methodWord "Edges" "ent.Edge") = ["ent", "ent"] := by decide
  have hannotations : qualifiers (methodWord "Annotations" "schema.Annotation")
      = ["schema", "schema"] := by decide
  simp only [bodyStretches, usedQualifiers_append, List.mem_append, hstruct,
    mem_usedQualifiers_method, hfields, hedges, hannotations,
    mem_usedQualifiers_field, mem_usedQualifiers_edge, mem_usedQualifiers_entityAnnotation]
  have hexists : ∀ {α : Type} {as : List α}, (∃ a, a ∈ as) ↔ as ≠ [] := by
    intro α as
    refine ⟨fun h => ?_, List.exists_mem_of_ne_nil as⟩
    obtain ⟨a, ha⟩ := h
    exact List.ne_nil_of_mem ha
  -- the qualifiers of two packages differ
  cases p with
  | entgql =>
      rw [show Package.entgql.qualifier = "entgql" by decide]
      simp [Package.isUsedBy, hexists, or_comm, or_assoc]
  | ent =>
      rw [show Package.ent.qualifier = "ent" by decide]
      exact iff_of_true (.inl (.inl (.inl List.mem_cons_self))) rfl
  | schema =>
      rw [show Package.schema.qualifier = "schema" by decide]
      exact iff_of_true (.inr (.inl List.mem_cons_self)) rfl
  | edge =>
      rw [show Package.edge.qualifier = "edge" by decide]
      simp [Package.isUsedBy, hexists]
  | field =>
      rw [show Package.field.qualifier = "field" by decide]
      simp [Package.isUsedBy, hexists]
  | uuid =>
      rw [show Package.uuid.qualifier = "uuid" by decide]
      simp [Package.isUsedBy]

/-! ## §4. The import block. -/

/-- Import block of a source, as it is read back. -/
def importBlock (text : String) : List String :=
  Text.itemsUnder "import (" "\t" (Text.lines text)

theorem importBlock_ormSchema (e : Entity) :
    importBlock (ormSchema e) = (imports e).map fun p => quote p.importPath := by
  -- no line has a break inside, so the lines that are read are those that were written
  have hpath : ∀ p : Package, '\n' ∉ ("\t" ++ quote p.importPath).toList := by
    intro p
    simp [newline_notMem_quote]
  have hbreak : ∀ l ∈ preamble (imports e), '\n' ∉ l.toList := by
    intro l hl
    simp only [preamble, List.mem_append, List.mem_map] at hl
    rcases hl with (hl | ⟨p, -, rfl⟩) | hl
    · revert l
      decide
    · exact hpath p
    · revert l
      decide
  have hend : ∀ ls, Text.items "\t" (")" :: ls) = [] := fun _ => rfl
  have hitems : (imports e).map (fun p => "\t" ++ quote p.importPath)
      = ((imports e).map fun p => quote p.importPath).map ("\t" ++ ·) := List.map_map.symm
  rw [importBlock, ormSchema_eq, Text.lines_unlines_append hbreak, preamble, hitems,
    List.append_assoc, List.append_assoc]
  show Text.itemsUnder _ _ ([banner, "", "package schema", ""] ++ "import (" :: (_ ++ ")" :: _)) = _
  exact Text.itemsUnder_append _ (by decide) (hend _)

/-- What the imports of a source have to do with its body. -/
structure ImportsWhatItUses (e : Entity) : Prop where
  /-- The source is its imports and its body. -/
  written : ormSchema e = Text.unlines (preamble (imports e)) ++ source (bodyStretches e)
  /-- What is copied into the body is one of the texts of the entity. -/
  words : ComeFrom e.texts (bodyStretches e)
  /-- Nothing but the packages stands in the import block. -/
  listed : importBlock (ormSchema e) = (imports e).map fun p => quote p.importPath
  /-- A package is imported iff a word of the body uses it. -/
  used (p : Package) : quote p.importPath ∈ importBlock (ormSchema e)
    ↔ p.qualifier ∈ usedQualifiers (bodyStretches e)
  /-- Paths ascend, so none stands there twice. -/
  ascending : (imports e).Pairwise fun p q => Text.utf8 p.importPath < Text.utf8 q.importPath

/-- **A SOURCE IMPORTS WHAT IT USES**, and nothing else, each path once and
in ascending order. -/
theorem imported_iff_used (e : Entity) : ImportsWhatItUses e where
  written := ormSchema_eq e
  words := bodyStretches_comeFrom e
  listed := importBlock_ormSchema e
  used := by
    intro p
    have hpaths : ∀ p q : Package, p.importPath = q.importPath → p = q := by
      intro p q
      cases p <;> cases q <;> decide
    have hinj : Function.Injective fun p : Package => quote p.importPath := by
      intro p q h
      exact hpaths p q (quote_append_inj.1 (congrArg (· ++ "") h)).1
    have hall : p ∈ Package.all := by cases p <;> decide
    rw [importBlock_ormSchema, List.mem_map_of_injective hinj, imports, List.mem_filter,
      and_iff_right hall, qualifier_mem_body]
  ascending := by
    have hall : Package.all.Pairwise fun p q =>
        Text.utf8 p.importPath < Text.utf8 q.importPath := by decide
    exact hall.filter _

end EntitySchema.Source
