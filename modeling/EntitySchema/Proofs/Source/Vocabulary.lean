/-
  EntitySchema.Proofs.Source.Vocabulary
  ────────────────────────────────
  **WORDS AND COPIES.**

  A word of a source is one of a fixed list, whatever the entity: the name of
  a call with its bracket, or one of a few connectives.  What is copied is
  one of the texts of the entity, as a source shows it:

      name           Post
      edge           "author", User, "posts"
      attribute      "title", "a comment", uuid.New

  So no text of an entity passes for a word, and no word for a copy.

  Main result: `bodyStretches_comeFrom`.
-/
import EntitySchema.Proofs.Source.Stretches

namespace EntitySchema.Source

/-! ## §1. Words. -/

/-- Names of the calls of a source. -/
def callNames : List String :=
  ["Values", "Default", "DefaultFunc", "Optional", "Nillable", "Immutable", "Unique", "Comment",
   "StorageKey", "StructTag", "Sensitive", "GoType", "Annotations", "Ref", "Field", "Required",
   "edge.To", "edge.From", "edge.Symbols", "edge.Columns", "edge.Column", "edge.Table",
   "edge.Symbol", "entgql.OrderField", "entgql.Type", "entgql.RelayConnection",
   "entgql.QueryField", "entgql.Mutations", "entgql.MutationCreate", "entgql.MutationUpdate"]
    ++ StorageKind.all.map fun k => "field." ++ k.constructorName

/-- Words of a source besides its calls. -/
def connectives : List String :=
  [".", ", ", ")", ".Type", ", uuid.UUID\x7b\x7d", "type ", " struct \x7b\n\tent.Schema\n\x7d\n",
   "\nfunc (", methodWord "Fields" "ent.Field", methodWord "Edges" "ent.Edge",
   methodWord "Annotations" "schema.Annotation", "\t\t", ",\n", "\t\x7d\n\x7d\n"]

/-- All words, the same for every entity. -/
def vocabulary : List String :=
  connectives ++ callNames.map (· ++ "(") ++ callNames.map (· ++ "()")

/-! ## §2. Stretches from given texts. -/

/-- A stretch is a word, or one of the given texts. -/
def Stretch.ComesFrom (texts : List String) : Stretch → Prop
  | .word t => t ∈ vocabulary
  | .copied t => t ∈ texts

/-- Every stretch is a word, or one of the given texts. -/
def ComeFrom (texts : List String) (ss : List Stretch) : Prop := ∀ s ∈ ss, s.ComesFrom texts

section ComeFrom

variable {texts : List String} {name : String}

theorem word_comesFrom {t : String} (h : t ∈ connectives) : (Stretch.word t).ComesFrom texts :=
  List.mem_append_left _ (List.mem_append_left _ h)

theorem comeFrom_copied {t : String} (h : t ∈ texts) : ComeFrom texts [.copied t] := by
  intro s hs
  rw [List.mem_singleton.1 hs]
  exact h

theorem comeFrom_separated {mark : String} {sss : List (List Stretch)} (hmark : mark ∈ connectives)
    (h : ∀ ss ∈ sss, ComeFrom texts ss) : ComeFrom texts (separated mark sss) := by
  induction sss with
  | nil => exact List.forall_mem_nil _
  | cons ss rest ih =>
      obtain ⟨hss, hrest⟩ := List.forall_mem_cons.1 h
      cases rest with
      | nil => exact hss
      | cons ts rest =>
          rw [separated, ComeFrom, List.forall_mem_append, List.forall_mem_cons]
          exact ⟨hss, word_comesFrom hmark, ih hrest⟩

theorem comeFrom_call {argument : List Stretch} (hname : name ∈ callNames)
    (h : ComeFrom texts argument) : ComeFrom texts (callStretches name argument) := by
  have hopen : name ++ "(" ∈ vocabulary :=
    List.mem_append_left _ (List.mem_append_right _ (List.mem_map_of_mem hname))
  rw [callStretches, ComeFrom, List.forall_mem_append, List.forall_mem_cons,
    List.forall_mem_singleton]
  exact ⟨⟨hopen, h⟩, word_comesFrom (by decide)⟩

theorem comeFrom_flag (hname : name ∈ callNames) (present : Bool) :
    ∀ ss ∈ flagStretches name present, ComeFrom texts ss := by
  intro ss hss s hs
  cases present with
  | false => cases hss
  | true =>
      rw [List.mem_singleton.1 hss] at hs
      rw [List.mem_singleton.1 hs]
      exact List.mem_append_right _ (List.mem_map_of_mem hname)

theorem comeFrom_argument {argument : Option (List Stretch)} (hname : name ∈ callNames)
    (h : ∀ ss ∈ argument, ComeFrom texts ss) :
    ∀ ss ∈ argumentStretches name argument, ComeFrom texts ss := by
  intro ss hss
  cases argument with
  | none => cases hss
  | some ts =>
      rw [List.mem_singleton.1 hss]
      exact comeFrom_call hname (h ts rfl)

theorem comeFrom_copiedStretches {write : String → String} {argument : Option String}
    (hname : name ∈ callNames) (h : (argument.map write).toList ⊆ texts) :
    ∀ ss ∈ copiedStretches name write argument, ComeFrom texts ss := by
  cases argument with
  | none => exact List.forall_mem_nil _
  | some a =>
      refine comeFrom_argument hname fun ss hss => ?_
      rw [← Option.some.inj hss]
      exact comeFrom_copied (h List.mem_cons_self)

theorem comeFrom_items {α : Type} {item : α → List Stretch} {values : List α}
    (hname : name ∈ callNames) (h : ∀ a ∈ values, ComeFrom texts (item a)) :
    ∀ ss ∈ itemsStretches name item values, ComeFrom texts ss := by
  intro ss hss
  unfold itemsStretches at hss
  split at hss
  · cases hss
  · rw [List.mem_singleton.1 hss]
    exact comeFrom_call hname (comeFrom_separated (by decide) (List.forall_mem_map.2 h))

theorem comeFrom_list {values : List String} (hname : name ∈ callNames)
    (h : values.map quote ⊆ texts) :
    ∀ ss ∈ listStretches name values, ComeFrom texts ss :=
  comeFrom_items hname fun _ ha => comeFrom_copied (h (List.mem_map_of_mem ha))

end ComeFrom

end EntitySchema.Source

namespace EntitySchema

open EntitySchema.Source

/-! ## §3. Texts of an entity. -/

/-- Texts of an annotation. -/
def Annotation.texts : Annotation → List String
  | .orderField t | .graphqlType t => [quote t]
  | .relayConnection => []

/-- Texts of an attribute as a source shows them: quoted values, and expressions as they
are. -/
def Attribute.texts (a : Attribute) : List String :=
  quote a.name :: (a.enumValues.map quote
    ++ (a.defaultExpr.toList ++ (a.defaultFuncExpr.toList ++ ((a.comment.map quote).toList
    ++ ((a.storageKey.map quote).toList ++ ((a.structTag.map raw).toList ++ (a.goType.toList
    ++ a.annotations.flatMap (·.texts))))))))

/-- Texts of a storage override. -/
def StorageKey.texts (k : StorageKey) : List String :=
  (k.symbols ++ k.columns ++ [k.column, k.table, k.symbol]).map quote

/-- Texts of an edge: its names, of which that of the target is not quoted, and values. -/
def Edge.texts (e : Edge) : List String :=
  quote e.name :: e.target :: ((e.direction.refName?.map quote).toList
    ++ ((e.bindField.map quote).toList ++ (e.storageKey.toList.flatMap (·.texts)
    ++ ((e.structTag.map raw).toList ++ ((e.comment.map quote).toList
    ++ e.annotations.flatMap (·.texts))))))

/-- Texts of an entity. -/
def Entity.texts (E : Entity) : List String :=
  E.name :: (E.attributes.flatMap (·.texts) ++ E.edges.flatMap (·.texts))

namespace Source

/-! ## §4. The body of a source. -/

variable {texts : List String}

theorem comeFrom_annotations {annotations : List Annotation}
    (h : annotations.flatMap (·.texts) ⊆ texts) :
    ∀ ss ∈ itemsStretches "Annotations" annotationStretches annotations, ComeFrom texts ss := by
  refine comeFrom_items (by decide) fun a ha => ?_
  have ha : a.texts ⊆ texts := fun t ht => h (List.mem_flatMap_of_mem ha ht)
  cases a with
  | orderField t => exact comeFrom_call (by decide) (comeFrom_copied (ha List.mem_cons_self))
  | graphqlType t => exact comeFrom_call (by decide) (comeFrom_copied (ha List.mem_cons_self))
  | relayConnection =>
      have hname : "entgql.RelayConnection" ∈ callNames := by decide
      exact comeFrom_flag hname true _ List.mem_cons_self

theorem comeFrom_field {a : Attribute} (h : a.texts ⊆ texts) :
    ComeFrom texts (fieldStretches a) := by
  simp only [Attribute.texts, List.cons_subset, List.append_subset] at h
  obtain ⟨hname, hvalues, hdefault, hfunc, hcomment, hkey, htag, htype, hannotations⟩ := h
  have hfirst : ComeFrom texts (constructorStretches a) := by
    have hkind : ∀ k : StorageKind, "field." ++ k.constructorName ∈ callNames := by
      intro k
      exact List.mem_append_right _ (List.mem_map.2 ⟨k, by cases k <;> decide, rfl⟩)
    refine comeFrom_call (hkind _) (List.forall_mem_cons.2 ⟨hname, ?_⟩)
    cases a.isIdentity with
    | false => exact List.forall_mem_nil _
    | true => exact List.forall_mem_singleton.2 (word_comesFrom (by decide))
  -- the chain call by call, each with the part of the attribute that it copies
  refine comeFrom_separated (by decide) ?_
  simp only [List.forall_mem_append, List.forall_mem_singleton, and_assoc]
  exact ⟨hfirst,
    comeFrom_list (by decide) hvalues,
    comeFrom_copiedStretches (by decide) (by rwa [Option.map_id]),
    comeFrom_copiedStretches (by decide) (by rwa [Option.map_id]),
    comeFrom_flag (by decide) _, comeFrom_flag (by decide) _, comeFrom_flag (by decide) _,
    comeFrom_flag (by decide) _,
    comeFrom_copiedStretches (by decide) hcomment,
    comeFrom_copiedStretches (by decide) hkey,
    comeFrom_copiedStretches (by decide) htag,
    comeFrom_flag (by decide) _,
    comeFrom_copiedStretches (by decide) (by rwa [Option.map_id]),
    comeFrom_annotations hannotations⟩

theorem comeFrom_option {name value : String} (hname : name ∈ callNames)
    (h : quote value ∈ texts) : ∀ ss ∈ optionStretches name value, ComeFrom texts ss := by
  refine comeFrom_copiedStretches hname ?_
  unfold optionStretches.nonEmpty?
  split
  · exact List.nil_subset _
  · exact List.cons_subset.2 ⟨h, List.nil_subset _⟩

theorem comeFrom_key {k : StorageKey} (h : k.texts ⊆ texts) : ComeFrom texts (keyStretches k) := by
  simp only [StorageKey.texts, List.map_append, List.map_cons, List.map_nil, List.cons_subset,
    List.append_subset] at h
  obtain ⟨⟨hsymbols, hcolumns⟩, hcolumn, htable, hsymbol, -⟩ := h
  refine comeFrom_separated (by decide) ?_
  simp only [List.forall_mem_append, and_assoc]
  exact ⟨comeFrom_list (by decide) hsymbols, comeFrom_list (by decide) hcolumns,
    comeFrom_option (by decide) hcolumn, comeFrom_option (by decide) htable,
    comeFrom_option (by decide) hsymbol⟩

theorem comeFrom_edge {e : Edge} (h : e.texts ⊆ texts) : ComeFrom texts (edgeStretches e) := by
  simp only [Edge.texts, List.cons_subset, List.append_subset] at h
  obtain ⟨hname, htarget, href, hfield, hkey, htag, hcomment, hannotations⟩ := h
  have hend : ∀ name ∈ callNames, ComeFrom texts (endStretches name e) := by
    intro name hcall
    refine comeFrom_call hcall ?_
    simp only [ComeFrom, List.forall_mem_cons]
    exact ⟨hname, word_comesFrom (by decide), htarget, word_comesFrom (by decide),
      List.forall_mem_nil _⟩
  have hfirst : ∀ ss ∈ edgeConstructorStretches e, ComeFrom texts ss := by
    unfold edgeConstructorStretches
    cases hd : e.direction with
    | owning => exact List.forall_mem_singleton.2 (hend _ (by decide))
    | referencing r =>
        rw [hd] at href
        have hr : ComeFrom texts (callStretches "Ref" [.copied (quote r)]) :=
          comeFrom_call (by decide) (comeFrom_copied (href List.mem_cons_self))
        exact List.forall_mem_cons.2 ⟨hend _ (by decide), List.forall_mem_singleton.2 hr⟩
  have hoptions : ∀ ss ∈ argumentStretches "StorageKey" (e.storageKey.map keyStretches),
      ComeFrom texts ss := by
    refine comeFrom_argument (by decide) fun ss hss => ?_
    obtain ⟨k, hk, rfl⟩ := Option.map_eq_some_iff.1 hss
    rw [hk] at hkey
    exact comeFrom_key fun t ht => hkey (List.mem_flatMap_of_mem List.mem_cons_self ht)
  -- the chain call by call, each with the part of the edge that it copies
  refine comeFrom_separated (by decide) ?_
  simp only [List.forall_mem_append, and_assoc]
  exact ⟨hfirst,
    comeFrom_flag (by decide) _,
    comeFrom_copiedStretches (by decide) hfield,
    comeFrom_flag (by decide) _, comeFrom_flag (by decide) _,
    hoptions,
    comeFrom_copiedStretches (by decide) htag,
    comeFrom_copiedStretches (by decide) hcomment,
    comeFrom_annotations hannotations⟩

theorem comeFrom_entityAnnotation (a : EntityAnnotation) :
    ComeFrom texts (entityAnnotationStretches a) := by
  have hplain : ∀ name ∈ callNames, ComeFrom texts [.word (name ++ "()")] := fun name hname =>
    comeFrom_flag hname true _ List.mem_cons_self
  cases a with
  | queryField => exact hplain "entgql.QueryField" (by decide)
  | relayConnection => exact hplain "entgql.RelayConnection" (by decide)
  | mutations create update =>
      refine comeFrom_call (by decide) (comeFrom_separated (by decide) ?_)
      rw [List.forall_mem_append]
      exact ⟨comeFrom_flag (by decide) _, comeFrom_flag (by decide) _⟩

theorem comeFrom_method {typeName method itemType : String} {items : List (List Stretch)}
    (hmethod : methodWord method itemType ∈ connectives) (hname : typeName ∈ texts)
    (h : ∀ ss ∈ items, ComeFrom texts ss) :
    ComeFrom texts (methodStretches typeName method itemType items) := by
  simp only [methodStretches, ComeFrom, List.forall_mem_append, List.forall_mem_cons,
    List.forall_mem_flatMap]
  refine ⟨⟨⟨word_comesFrom (by decide), hname, word_comesFrom hmethod, List.forall_mem_nil _⟩,
    fun ss hss => ?_⟩, word_comesFrom (by decide), List.forall_mem_nil _⟩
  exact ⟨⟨word_comesFrom (by decide), h ss hss⟩, word_comesFrom (by decide),
    List.forall_mem_nil _⟩

/-- **Words are the same for every entity**, and what is copied is one of its
texts. -/
theorem bodyStretches_comeFrom (e : Entity) : ComeFrom e.texts (bodyStretches e) := by
  have hname : e.name ∈ e.texts := List.mem_cons_self
  have hattributes : ∀ a ∈ e.attributes, a.texts ⊆ e.texts := fun a ha t ht =>
    List.mem_cons_of_mem _ (List.mem_append_left _ (List.mem_flatMap_of_mem ha ht))
  have hedges : ∀ d ∈ e.edges, d.texts ⊆ e.texts := fun d hd t ht =>
    List.mem_cons_of_mem _ (List.mem_append_right _ (List.mem_flatMap_of_mem hd ht))
  simp only [bodyStretches, ComeFrom, List.forall_mem_append, List.forall_mem_cons]
  exact ⟨⟨⟨⟨word_comesFrom (by decide), hname, word_comesFrom (by decide), List.forall_mem_nil _⟩,
    comeFrom_method (by decide) hname
      (List.forall_mem_map.2 fun a ha => comeFrom_field (hattributes a ha))⟩,
    comeFrom_method (by decide) hname
      (List.forall_mem_map.2 fun d hd => comeFrom_edge (hedges d hd))⟩,
    comeFrom_method (by decide) hname
      (List.forall_mem_map.2 fun a _ => comeFrom_entityAnnotation a)⟩

end Source
end EntitySchema
