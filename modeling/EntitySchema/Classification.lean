/-
  EntitySchema.Classification
  ────────────────────────────────
  **FROM DECLARED FIELDS TO ATTRIBUTES.**

  A message field is a reference unless its type is a point in time.  Every
  other field becomes an attribute: the field `id` the identity of its
  entity, whatever its declared kind, the others by the tables below.

      repeated    strings, whole numbers and floating point numbers only
      sort key    every attribute that does not hold many values
      API type    the explicit one, else the one unsigned numbers need
-/
import EntitySchema.Options
import EntitySchema.Fault
import EntitySchema.Model.Basic
import EntitySchema.Identifier.Style

namespace EntitySchema

/-! ## §1. References. -/

/-- Name of the identity field. -/
def identityName : String := "id"

/-- Whether a field holds points in time. -/
def FieldDescriptor.isTimestamp (o : CompileOptions) (f : FieldDescriptor) : Bool :=
  f.isMessage && f.typeName.any o.isTimestamp

/-- Whether a field refers to an entity. -/
def FieldDescriptor.isReference (o : CompileOptions) (f : FieldDescriptor) : Bool :=
  f.isMessage && !f.isTimestamp o

/-- Name of the entity that a field refers to. -/
def FieldDescriptor.target? (f : FieldDescriptor) : Option String :=
  f.typeName.map Identifier.shortTypeName

/-! ## §2. Storage kinds. -/

/-- Storage of a single value. -/
def FieldKind.storageKind? : FieldKind → Option StorageKind
  | .string => some .string
  | .bool => some .bool
  | .enum => some .enum
  | .int32 | .sint32 | .sfixed32 => some .int32
  | .uint32 | .fixed32 => some .uint32
  | .int64 | .sint64 | .sfixed64 => some .int64
  | .uint64 | .fixed64 => some .uint64
  | .float | .double => some .float
  | .bytes => some .bytes
  | .group | .message => none

/-- Storage of many values. -/
def FieldKind.collectionKind? : FieldKind → Option StorageKind
  | .string => some .strings
  | .int32 | .sint32 | .uint32 | .sfixed32 | .fixed32
  | .int64 | .sint64 | .uint64 | .sfixed64 | .fixed64 => some .ints
  | .float | .double => some .floats
  | .bool | .enum | .bytes | .group | .message => none

/-- Storage of a field, if there is one for it. -/
def FieldDescriptor.storageKind? (o : CompileOptions) (f : FieldDescriptor) :
    Option StorageKind :=
  if f.isTimestamp o then if f.repeated then none else some .time
  else if f.repeated then f.kind.collectionKind?
  else f.kind.storageKind?

/-! ## §3. Attributes. -/

/-- Text unless it is empty. -/
def nonEmpty (s : String) : Option String := if s.isEmpty then none else some s

/-- Literals of an enumeration field that stand for a value. -/
def FieldDescriptor.storedLiterals (o : CompileOptions) (f : FieldDescriptor) : List String :=
  if f.options.includeUnspecifiedEnum || o.unspecifiedEnumSuffix.isEmpty then f.enumValues
  else f.enumValues.filter fun v =>
    !o.unspecifiedEnumSuffix.toList.isSuffixOf v.toList

/-- Annotations of an attribute. -/
def attributeAnnotations (name : String) (kind : StorageKind) (graphqlType : String) :
    List Annotation :=
  (if kind.isCollection then [] else [.orderField (Identifier.sortKey name)])
    ++ (((nonEmpty graphqlType).or kind.graphqlOverride).map .graphqlType).toList

/-- Identity of an entity. -/
def Attribute.identity : Attribute where
  name := identityName
  declaredName := identityName
  storageKind := .uuid
  isIdentity := true
  goType := none
  defaultExpr := some "uuid.New"
  defaultFuncExpr := none
  optional := false
  nillable := false
  immutable := false
  unique := false
  comment := none
  storageKey := none
  structTag := none
  sensitive := false
  enumValues := []
  enumTypeName := none
  annotations := []

/-- Attribute of a field other than the identity, stored as `kind`. -/
def Attribute.ofField (o : CompileOptions) (entity : String) (f : FieldDescriptor)
    (kind : StorageKind) : Attribute where
  name := Identifier.snake f.name
  declaredName := f.name
  storageKind := kind
  isIdentity := false
  goType := nonEmpty f.options.goType
  defaultExpr := nonEmpty f.options.default
  defaultFuncExpr := nonEmpty f.options.defaultFunc
  optional := f.optional
  nillable := f.options.nillable
  immutable := f.options.immutable
  unique := f.options.unique
  comment := nonEmpty f.options.comment
  storageKey := nonEmpty f.options.storageKey
  structTag := nonEmpty f.options.structTag
  sensitive := f.options.sensitive
  enumValues := if f.kind = .enum then f.storedLiterals o else []
  enumTypeName := if f.kind = .enum then some (entity ++ Identifier.pascal f.name) else none
  annotations := attributeAnnotations (Identifier.snake f.name) kind f.options.graphqlType

/-- Attribute of a field. -/
def classify (o : CompileOptions) (entity : String) (f : FieldDescriptor) :
    Except ClassificationFault Attribute :=
  if f.name = identityName then .ok .identity
  else match f.storageKind? o with
    | some kind => .ok (.ofField o entity f kind)
    | none => .error ⟨entity, f.name, f.kind, f.repeated⟩

end EntitySchema
