/-
  EntitySchema.Model.Basic
  ────────────────────────────────
  **THE RESOLVED MODEL.**

  What the compiler produces: entities with attributes and edges, ready to
  be rendered.  Every name is decided here, nothing refers back to the
  descriptors.
-/
import EntitySchema.Descriptor.Basic

namespace EntitySchema

/-! ## §1. Storage kinds. -/

/-- How an attribute is stored. -/
inductive StorageKind where
  | uuid
  | string
  | bool
  | enum
  | int32
  | uint32
  | int64
  | uint64
  | float
  | bytes
  | time
  | strings
  | ints
  | floats
  deriving DecidableEq, Repr

namespace StorageKind

/-- All kinds in declaration order. -/
def all : List StorageKind :=
  [.uuid, .string, .bool, .enum, .int32, .uint32, .int64, .uint64, .float, .bytes, .time,
   .strings, .ints, .floats]

/-- Name of a kind in documents. -/
def name : StorageKind → String
  | .uuid => "uuid"
  | .string => "string"
  | .bool => "bool"
  | .enum => "enum"
  | .int32 => "int32"
  | .uint32 => "uint32"
  | .int64 => "int64"
  | .uint64 => "uint64"
  | .float => "float"
  | .bytes => "bytes"
  | .time => "time"
  | .strings => "strings"
  | .ints => "ints"
  | .floats => "floats"

/-- Name of the constructor of a stored field in generated code. -/
def constructorName : StorageKind → String
  | .uuid => "UUID"
  | .string => "String"
  | .bool => "Bool"
  | .enum => "Enum"
  | .int32 => "Int32"
  | .uint32 => "Uint32"
  | .int64 => "Int64"
  | .uint64 => "Uint64"
  | .float => "Float"
  | .bytes => "Bytes"
  | .time => "Time"
  | .strings => "Strings"
  | .ints => "Ints"
  | .floats => "Floats"

/-- Whether a kind holds many values. -/
def isCollection : StorageKind → Bool
  | .strings | .ints | .floats => true
  | _ => false

/-- API scalar of a kind; enumerations and byte strings have none. -/
def graphqlScalar : StorageKind → Option String
  | .uuid => some "ID"
  | .string | .strings => some "String"
  | .bool => some "Boolean"
  | .int32 | .int64 | .ints => some "Int"
  | .uint32 => some "Uint32"
  | .uint64 => some "Uint64"
  | .float | .floats => some "Float"
  | .time => some "Time"
  | .enum | .bytes => none

/-- API type that a kind must name explicitly: the unsigned numbers. -/
def graphqlOverride : StorageKind → Option String
  | .uint32 => some "Uint32"
  | .uint64 => some "Uint64"
  | _ => none

end StorageKind

/-! ## §2. Relations. -/

/-- How many objects an edge connects at either end, the declaring end
first. -/
inductive Cardinality where
  | oneToOne
  | oneToMany
  | manyToOne
  | manyToMany
  deriving DecidableEq, Repr

namespace Cardinality

/-- All cardinalities in declaration order. -/
def all : List Cardinality := [.oneToOne, .oneToMany, .manyToOne, .manyToMany]

/-- Name in documents. -/
def name : Cardinality → String
  | .oneToOne => "one_to_one"
  | .oneToMany => "one_to_many"
  | .manyToOne => "many_to_one"
  | .manyToMany => "many_to_many"

/-- Name in messages. -/
def display : Cardinality → String
  | .oneToOne => "OneToOne"
  | .oneToMany => "OneToMany"
  | .manyToOne => "ManyToOne"
  | .manyToMany => "ManyToMany"

/-- Cardinality of a field and its counterpart by whether they repeat. -/
def between : (declaring counterpart : Bool) → Cardinality
  | false, false => .oneToOne
  | true, false => .oneToMany
  | false, true => .manyToOne
  | true, true => .manyToMany

/-- Whether the edge leads to one object at most. -/
def isUnique : Cardinality → Bool
  | .oneToOne | .manyToOne => true
  | _ => false

end Cardinality

/-- Which end of a pair carries the relation. -/
inductive Direction where
  /-- This end does. -/
  | owning
  /-- The other end does, under the given name. -/
  | referencing (refName : String)
  deriving DecidableEq, Repr

namespace Direction

/-- Whether this end carries the relation. -/
def isOwning : Direction → Bool
  | .owning => true
  | .referencing _ => false

/-- Name of the other end, if that one carries the relation. -/
def refName? : Direction → Option String
  | .owning => none
  | .referencing r => some r

end Direction

/-! ## §3. Annotations. -/

/-- Annotation of an attribute or an edge. -/
inductive Annotation where
  | orderField (key : String)
  | graphqlType (type : String)
  | relayConnection
  deriving DecidableEq, Repr

/-- Sort key of an annotation, if it carries one. -/
def Annotation.orderKey? : Annotation → Option String
  | .orderField key => some key
  | _ => none

/-- Annotation of an entity. -/
inductive EntityAnnotation where
  | queryField
  | relayConnection
  | mutations (create update : Bool)
  deriving DecidableEq, Repr

/-! ## §4. Sets of names. -/

/-- A finite set of names in increasing order. -/
structure NameSet where
  names : List String
  increasing : names.Pairwise (· < ·) := by simp
  deriving DecidableEq, Repr

namespace NameSet

/-- Enters a name into increasing names. -/
def insertName (a : String) : List String → List String
  | [] => [a]
  | b :: rest => if a < b then a :: b :: rest else if a = b then b :: rest else b :: insertName a rest

theorem mem_insertName {x a : String} {l : List String} :
    x ∈ insertName a l ↔ x = a ∨ x ∈ l := by
  induction l with
  | nil => simp [insertName]
  | cons b rest ih => by_cases h : a < b <;> by_cases h2 : a = b <;> grind [insertName]

theorem pairwise_insertName {a : String} {l : List String} (h : l.Pairwise (· < ·)) :
    (insertName a l).Pairwise (· < ·) := by
  induction l with
  | nil => simp [insertName]
  | cons b rest ih =>
    rw [List.pairwise_cons] at h
    unfold insertName
    split
    · next hab =>
      refine List.pairwise_cons.2 ⟨fun x hx => ?_, List.pairwise_cons.2 h⟩
      rcases List.mem_cons.1 hx with rfl | hx
      · exact hab
      · exact String.lt_trans hab (h.1 x hx)
    · split
      · exact List.pairwise_cons.2 h
      · next hab hne =>
        refine List.pairwise_cons.2 ⟨fun x hx => ?_, ih h.2⟩
        rcases mem_insertName.1 hx with rfl | hx
        · rcases String.le_total x b with hle | hle
          · exact absurd (String.le_antisymm hle (String.not_lt.1 hab)) hne
          · exact String.not_le.1 fun hge => hne (String.le_antisymm hge hle)
        · exact h.1 x hx

/-- The empty set. -/
def empty : NameSet := ⟨[], .nil⟩

/-- The set with one more name. -/
def insert (a : String) (s : NameSet) : NameSet :=
  ⟨insertName a s.names, pairwise_insertName s.increasing⟩

/-- Set of the listed names. -/
def ofList (l : List String) : NameSet := l.foldl (fun s a => s.insert a) empty

theorem mem_foldl_insert {x : String} {l : List String} {s : NameSet} :
    x ∈ (l.foldl (fun s a => s.insert a) s).names ↔ x ∈ s.names ∨ x ∈ l := by
  induction l generalizing s with
  | nil => simp
  | cons a l ih =>
    rw [List.foldl_cons, ih, insert, mem_insertName, List.mem_cons, or_comm (a := x = a),
      or_assoc]

theorem mem_ofList {x : String} {l : List String} : x ∈ (ofList l).names ↔ x ∈ l := by
  rw [ofList, mem_foldl_insert]
  simp [empty]

/-- Sets with the same names are equal. -/
theorem ext_mem {s t : NameSet} (h : ∀ x, x ∈ s.names ↔ x ∈ t.names) : s = t := by
  have hnodup : ∀ u : NameSet, u.names.Nodup := by
    intro u
    refine u.increasing.imp ?_
    intro a b hab heq
    exact String.lt_irrefl b (heq ▸ hab)
  have hperm : s.names.Perm t.names :=
    (List.perm_ext_iff_of_nodup (hnodup s) (hnodup t)).2 h
  have hnames : s.names = t.names := by
    refine hperm.eq_of_pairwise ?_ s.increasing t.increasing
    intro a b _ _ hab hba
    exact absurd hba (String.lt_asymm hab)
  cases s
  cases t
  cases hnames
  rfl

/-- Union of two sets. -/
def union (s t : NameSet) : NameSet := t.names.foldl (fun u a => u.insert a) s

end NameSet

/-! ## §5. Attributes, edges and entities. -/

/-- A stored field of an entity. -/
structure Attribute where
  /-- Storage name. -/
  name : String
  declaredName : String
  storageKind : StorageKind
  isIdentity : Bool
  goType : Option String
  defaultExpr : Option String
  defaultFuncExpr : Option String
  optional : Bool
  nillable : Bool
  immutable : Bool
  unique : Bool
  comment : Option String
  storageKey : Option String
  structTag : Option String
  sensitive : Bool
  enumValues : List String
  /-- Name of the enumeration in API schemas. -/
  enumTypeName : Option String
  annotations : List Annotation
  deriving DecidableEq, Repr

/-- A relation of an entity, seen from the field that declares it. -/
structure Edge where
  name : String
  declaredName : String
  owner : String
  target : String
  direction : Direction
  /-- The field is its own counterpart by its own hint. -/
  bidirectional : Bool
  /-- Declared name of the counterpart on the target. -/
  counterpart : String
  cardinality : Cardinality
  unique : Bool
  required : Bool
  immutable : Bool
  bindField : Option String
  storageKey : Option StorageKey
  structTag : Option String
  comment : Option String
  annotations : List Annotation
  deriving DecidableEq, Repr

/-- A resolved entity. -/
structure Entity where
  name : String
  pluralName : String
  schemaFileName : String
  graphqlSchemaFileName : String
  attributes : List Attribute
  edges : List Edge
  annotations : List EntityAnnotation
  /-- API scalars that the attributes use. -/
  graphqlTypes : NameSet
  deriving DecidableEq, Repr

/-- A versioned list of entities. -/
structure SchemaDocument where
  irVersion : String
  entities : List Entity
  deriving DecidableEq, Repr

/-- Version of the documents written by this program. -/
def currentIrVersion : String := "0.1"

/-- Document of the listed entities. -/
def SchemaDocument.current (entities : List Entity) : SchemaDocument := ⟨currentIrVersion, entities⟩

namespace Attribute

/-- API type that an annotation names, if one does. -/
def graphqlTypeOverride (a : Attribute) : Option String :=
  a.annotations.findSome? fun
    | .graphqlType t => some t
    | _ => none

/-- API scalar under which the attribute is shown. -/
def graphqlScalar (a : Attribute) : Option String :=
  a.graphqlTypeOverride.or a.storageKind.graphqlScalar

end Attribute

/-- Sort keys that an edge offers. -/
def Edge.orderKeys (e : Edge) : List String := e.annotations.filterMap (·.orderKey?)

namespace Entity

/-- First attribute of a storage name. -/
def attribute? (e : Entity) (name : String) : Option Attribute :=
  e.attributes.find? (·.name = name)

/-- First edge of a name. -/
def edge? (e : Entity) (name : String) : Option Edge := e.edges.find? (·.name = name)

/-- Attributes that mutations may set: all but the identity. -/
def mutableAttributes (e : Entity) : List Attribute :=
  e.attributes.filter fun a => !a.isIdentity

/-- Whether the entity offers mutations. -/
def hasMutations (e : Entity) : Bool :=
  e.annotations.any fun
    | .mutations _ _ => true
    | _ => false

end Entity
end EntitySchema
