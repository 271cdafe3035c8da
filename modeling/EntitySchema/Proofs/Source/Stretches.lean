/-
  EntitySchema.Proofs.Source.Stretches
  ────────────────────────────────
  **WHAT A SOURCE IS MADE OF.**

  A schema source is put together from words of its own and from texts of the
  entity: names, quoted values, and expressions that are copied as they are.
  Here every renderer is written out a second time with the two kept apart:

      edge.To(   "posts"   ,      Post     .Type   )
      word       copied    word   copied   word    word

  Nothing else changes: run together, the stretches are the source.

  Main result: `ormSchema_eq`.
-/
import EntitySchema.Proofs.Text.Lines
import EntitySchema.Source.OrmSchema

namespace EntitySchema.Source

/-! ## §1. Stretches. -/

/-- A stretch of a source. -/
inductive Stretch where
  /-- A word of the source itself. -/
  | word (text : String)
  /-- A text of the entity. -/
  | copied (text : String)
  deriving DecidableEq, Repr

/-- What a stretch contributes to the source. -/
def Stretch.text : Stretch → String
  | .word t | .copied t => t

/-- Stretches run together. -/
def source (ss : List Stretch) : String := String.join (ss.map (·.text))

@[simp]
theorem source_nil : source [] = "" := rfl

@[simp]
theorem source_cons (s : Stretch) (ss : List Stretch) : source (s :: ss) = s.text ++ source ss := by
  rw [source, List.map_cons, String.join_cons, source]

@[simp]
theorem source_append (ss ts : List Stretch) : source (ss ++ ts) = source ss ++ source ts := by
  rw [source, List.map_append, String.join_append, source, source]

theorem source_copied (t : String) : source [.copied t] = t := by
  rw [source_cons, source_nil, String.append_empty, Stretch.text]

/-- Stretches with a word between any two of them. -/
def separated (mark : String) : List (List Stretch) → List Stretch
  | [] => []
  | [ss] => ss
  | ss :: ts :: rest => ss ++ .word mark :: separated mark (ts :: rest)

theorem source_separated (mark : String) (sss : List (List Stretch)) :
    source (separated mark sss) = mark.intercalate (sss.map source) := by
  induction sss with
  | nil => rfl
  | cons ss rest ih =>
      cases rest with
      | nil => rw [separated, List.map_singleton, String.intercalate_singleton]
      | cons ts rest =>
          rw [separated, source_append, source_cons, ih]
          simp only [List.map_cons, String.intercalate_cons_cons, String.append_assoc]
          rfl

/-- A call with its argument. -/
def callStretches (name : String) (argument : List Stretch) : List Stretch :=
  .word (name ++ "(") :: argument ++ [.word ")"]

theorem source_callStretches (name : String) (argument : List Stretch) :
    source (callStretches name argument) = name ++ "(" ++ source argument ++ ")" := by
  simp [callStretches, Stretch.text, String.append_assoc]

/-! ## §2. Calls that may be missing. -/

/-- Call without arguments, if `present`. -/
def flagStretches (name : String) (present : Bool) : List (List Stretch) :=
  if present then [[.word (name ++ "()")]] else []

/-- Call with one argument, if there is one. -/
def argumentStretches (name : String) (argument : Option (List Stretch)) : List (List Stretch) :=
  (argument.map (callStretches name)).toList

/-- Call with an argument that is copied, if there is one. -/
def copiedStretches (name : String) (write : String → String) (argument : Option String) :
    List (List Stretch) :=
  argumentStretches name (argument.map fun a => [.copied (write a)])

/-- Call with items between commas, if there are any. -/
def itemsStretches {α : Type} (name : String) (item : α → List Stretch) (values : List α) :
    List (List Stretch) :=
  if values.isEmpty then [] else [callStretches name (separated ", " (values.map item))]

/-- Call with a list of texts, if there are any. -/
def listStretches (name : String) (values : List String) : List (List Stretch) :=
  itemsStretches name (fun v => [.copied (quote v)]) values

theorem source_flagStretches (name : String) (present : Bool) :
    (flagStretches name present).map source = flagCall name present := by
  cases present with
  | false => rfl
  | true => simp [flagStretches, flagCall, Stretch.text]

/-- A call is written alike if its argument is. -/
theorem source_argumentStretches {α : Type} (name : String) (write : String → String)
    {text : α → String} {ss : α → List Stretch} (h : ∀ a, source (ss a) = write (text a))
    (argument : Option α) :
    (argumentStretches name (argument.map ss)).map source
      = argumentCall name write (argument.map text) := by
  cases argument with
  | none => rfl
  | some a => simp [argumentStretches, argumentCall, source_callStretches, h]

theorem source_copiedStretches (name : String) (write : String → String)
    (argument : Option String) :
    (copiedStretches name write argument).map source = argumentCall name write argument := by
  have h : (copiedStretches name write argument).map source
      = argumentCall name write (argument.map id) :=
    source_argumentStretches name write (fun a => source_copied (write a)) argument
  rwa [Option.map_id] at h

theorem source_itemsStretches {α : Type} (name : String) {item : α → List Stretch}
    {text : α → String} (h : ∀ a, source (item a) = text a) (values : List α) :
    (itemsStretches name item values).map source
      = if values.isEmpty then []
        else [name ++ "(" ++ ", ".intercalate (values.map text) ++ ")"] := by
  have hmap : (values.map item).map source = values.map text := by
    rw [List.map_map]
    exact List.map_congr_left fun a _ => h a
  unfold itemsStretches
  by_cases hempty : values.isEmpty = true
  · rw [if_pos hempty, if_pos hempty, List.map_nil]
  · rw [if_neg hempty, if_neg hempty, List.map_singleton, source_callStretches, source_separated,
      hmap]

theorem source_listStretches (name : String) (values : List String) :
    (listStretches name values).map source = listCall name values :=
  source_itemsStretches name (fun v => source_copied (quote v)) values

/-! ## §3. Fields. -/

/-- Annotation of a field or an edge. -/
def annotationStretches : Annotation → List Stretch
  | .orderField key => callStretches "entgql.OrderField" [.copied (quote key)]
  | .graphqlType type => callStretches "entgql.Type" [.copied (quote type)]
  | .relayConnection => [.word "entgql.RelayConnection()"]

/-- First call of a field. -/
def constructorStretches (a : Attribute) : List Stretch :=
  callStretches ("field." ++ a.storageKind.constructorName)
    (.copied (quote a.name) :: if a.isIdentity then [.word ", uuid.UUID\x7b\x7d"] else [])

/-- Definition of a field. -/
def fieldStretches (a : Attribute) : List Stretch :=
  separated "." (
    [constructorStretches a]
      ++ listStretches "Values" a.enumValues
      ++ copiedStretches "Default" id a.defaultExpr
      ++ copiedStretches "DefaultFunc" id a.defaultFuncExpr
      ++ flagStretches "Optional" a.optional
      ++ flagStretches "Nillable" a.nillable
      ++ flagStretches "Immutable" a.immutable
      ++ flagStretches "Unique" a.unique
      ++ copiedStretches "Comment" quote a.comment
      ++ copiedStretches "StorageKey" quote a.storageKey
      ++ copiedStretches "StructTag" raw a.structTag
      ++ flagStretches "Sensitive" a.sensitive
      ++ copiedStretches "GoType" id a.goType
      ++ itemsStretches "Annotations" annotationStretches a.annotations)

theorem source_annotationStretches (a : Annotation) :
    source (annotationStretches a) = annotationValue a := by
  have hcall : ∀ name value, source (callStretches name [.copied (quote value)])
      = name ++ "(" ++ quote value ++ ")" := by
    intro name value
    rw [source_callStretches, source_copied]
  cases a with
  | orderField key => exact hcall "entgql.OrderField" key
  | graphqlType type => exact hcall "entgql.Type" type
  | relayConnection => exact source_copied "entgql.RelayConnection()"

theorem source_annotations (annotations : List Annotation) :
    (itemsStretches "Annotations" annotationStretches annotations).map source
      = annotationsCall annotations :=
  source_itemsStretches "Annotations" source_annotationStretches annotations

theorem source_constructorStretches (a : Attribute) :
    source (constructorStretches a) = fieldConstructor a := by
  rw [constructorStretches, source_callStretches, fieldConstructor]
  cases a.isIdentity <;> simp [Stretch.text, String.append_assoc]

theorem source_fieldStretches (a : Attribute) : source (fieldStretches a) = fieldDefinition a := by
  rw [fieldStretches, source_separated, fieldDefinition, chain]
  simp only [List.map_append, List.map_singleton, source_constructorStretches,
    source_flagStretches, source_copiedStretches, source_listStretches, source_annotations]

/-! ## §4. Edges. -/

/-- First call of an edge. -/
def endStretches (name : String) (e : Edge) : List Stretch :=
  callStretches name [.copied (quote e.name), .word ", ", .copied e.target, .word ".Type"]

/-- First calls of an edge. -/
def edgeConstructorStretches (e : Edge) : List (List Stretch) :=
  match e.direction with
  | .owning => [endStretches "edge.To" e]
  | .referencing r => [endStretches "edge.From" e, callStretches "Ref" [.copied (quote r)]]

/-- Option of a storage override, if it says something. -/
def optionStretches (name value : String) : List (List Stretch) :=
  copiedStretches name quote (nonEmpty? value)
where
  /-- Text unless it is empty. -/
  nonEmpty? (s : String) : Option String := if s.isEmpty then none else some s

/-- Options of a storage override. -/
def keyStretches (k : StorageKey) : List Stretch :=
  separated ", " (
    listStretches "edge.Symbols" k.symbols
      ++ listStretches "edge.Columns" k.columns
      ++ optionStretches "edge.Column" k.column
      ++ optionStretches "edge.Table" k.table
      ++ optionStretches "edge.Symbol" k.symbol)

/-- Definition of an edge. -/
def edgeStretches (e : Edge) : List Stretch :=
  separated "." (
    edgeConstructorStretches e
      ++ flagStretches "Unique" e.unique
      ++ copiedStretches "Field" quote e.bindField
      ++ flagStretches "Required" e.required
      ++ flagStretches "Immutable" e.immutable
      ++ argumentStretches "StorageKey" (e.storageKey.map keyStretches)
      ++ copiedStretches "StructTag" raw e.structTag
      ++ copiedStretches "Comment" quote e.comment
      ++ itemsStretches "Annotations" annotationStretches e.annotations)

theorem source_edgeConstructorStretches (e : Edge) :
    (edgeConstructorStretches e).map source = edgeConstructor e := by
  have hend : ∀ name, source (endStretches name e)
      = name ++ "(" ++ quote e.name ++ ", " ++ e.target ++ ".Type)" := by
    intro name
    rw [endStretches, source_callStretches]
    simp [Stretch.text, String.append_assoc]
  unfold edgeConstructorStretches edgeConstructor
  cases e.direction with
  | owning => rw [List.map_singleton, hend]; rfl
  | referencing r =>
      rw [List.map_cons, List.map_singleton, hend, source_callStretches, source_copied]
      rfl

theorem source_optionStretches (name value : String) :
    (optionStretches name value).map source
      = if value.isEmpty then [] else [name ++ "(" ++ quote value ++ ")"] := by
  rw [optionStretches, source_copiedStretches, optionStretches.nonEmpty?]
  by_cases h : value.isEmpty = true
  · rw [if_pos h, if_pos h]
    rfl
  · rw [if_neg h, if_neg h]
    rfl

theorem source_keyStretches (k : StorageKey) : source (keyStretches k) = storageKeyOptions k := by
  rw [keyStretches, source_separated, storageKeyOptions]
  simp only [List.map_append, source_listStretches, source_optionStretches]
  rfl

theorem source_edgeStretches (e : Edge) : source (edgeStretches e) = edgeDefinition e := by
  have hkey : (argumentStretches "StorageKey" (e.storageKey.map keyStretches)).map source
      = argumentCall "StorageKey" id (e.storageKey.map storageKeyOptions) :=
    source_argumentStretches "StorageKey" id source_keyStretches e.storageKey
  rw [edgeStretches, source_separated, edgeDefinition, chain]
  simp only [List.map_append, source_edgeConstructorStretches, source_flagStretches,
    source_copiedStretches, hkey, source_annotations]

/-! ## §5. Files. -/

/-- Annotation of an entity. -/
def entityAnnotationStretches : EntityAnnotation → List Stretch
  | .queryField => [.word "entgql.QueryField()"]
  | .relayConnection => [.word "entgql.RelayConnection()"]
  | .mutations create update =>
      callStretches "entgql.Mutations" (separated ", " (
        flagStretches "entgql.MutationCreate" create
          ++ flagStretches "entgql.MutationUpdate" update))

/-- Opening of a method that lists items. -/
def methodWord (method itemType : String) : String :=
  ") " ++ method ++ "() []" ++ itemType ++ " \x7b\n\treturn []" ++ itemType ++ "\x7b\n"

/-- Method that lists items. -/
def methodStretches (typeName method itemType : String) (items : List (List Stretch)) :
    List Stretch :=
  [.word "\nfunc (", .copied typeName, .word (methodWord method itemType)]
    ++ items.flatMap (fun i => .word "\t\t" :: i ++ [.word ",\n"])
    ++ [.word "\t\x7d\n\x7d\n"]

/-- What follows the imports: the type of an entity and its methods. -/
def bodyStretches (e : Entity) : List Stretch :=
  [.word "type ", .copied e.name, .word " struct \x7b\n\tent.Schema\n\x7d\n"]
    ++ methodStretches e.name "Fields" "ent.Field" (e.attributes.map fieldStretches)
    ++ methodStretches e.name "Edges" "ent.Edge" (e.edges.map edgeStretches)
    ++ methodStretches e.name "Annotations" "schema.Annotation"
      (e.annotations.map entityAnnotationStretches)

/-- Lines in front of the type of an entity. -/
def preamble (packages : List Package) : List String :=
  [banner, "", "package schema", "", "import ("]
    ++ packages.map (fun p => "\t" ++ quote p.importPath) ++ [")", ""]

theorem source_entityAnnotationStretches (a : EntityAnnotation) :
    source (entityAnnotationStretches a) = entityAnnotationValue a := by
  cases a with
  | queryField => exact source_copied "entgql.QueryField()"
  | relayConnection => exact source_copied "entgql.RelayConnection()"
  | mutations create update =>
      rw [entityAnnotationStretches, source_callStretches, source_separated, List.map_append,
        source_flagStretches, source_flagStretches]
      rfl

theorem source_methodStretches {α : Type} (typeName method itemType : String)
    {item : α → List Stretch} {text : α → String} (h : ∀ a, source (item a) = text a)
    (values : List α) :
    source (methodStretches typeName method itemType (values.map item))
      = Text.unlines (listMethod typeName method itemType (values.map text)) := by
  have hitems : source ((values.map item).flatMap fun i => .word "\t\t" :: i ++ [.word ",\n"])
      = Text.unlines ((values.map text).map fun i => "\t\t" ++ i ++ ",") := by
    induction values with
    | nil => rfl
    | cons a values ih =>
        rw [List.map_cons, List.flatMap_cons, source_append, ih, List.map_cons, List.map_cons,
          Text.unlines_cons]
        simp [Stretch.text, h, String.append_assoc]
  rw [methodStretches, listMethod, source_append, source_append, hitems, Text.unlines_append,
    Text.unlines_append, ← String.toList_inj]
  simp [methodWord, Text.unlines_cons, Text.unlines_nil, Stretch.text]

/-- **WHAT A SOURCE IS MADE OF**: the imports, and the stretches of the body. -/
theorem ormSchema_eq (e : Entity) :
    ormSchema e = Text.unlines (preamble (imports e)) ++ source (bodyStretches e) := by
  rw [bodyStretches, source_append, source_append, source_append,
    source_methodStretches _ _ _ source_fieldStretches,
    source_methodStretches _ _ _ source_edgeStretches,
    source_methodStretches _ _ _ source_entityAnnotationStretches]
  rw [← String.toList_inj]
  simp [ormSchema, preamble, Text.unlines_append, Text.unlines_cons, Text.unlines_nil, Stretch.text]

end EntitySchema.Source
