/-
  EntitySchema.Descriptor.Basic
  ────────────────────────────────
  **DESCRIPTORS: WHAT THE FRONT END HANDS OVER.**

  A descriptor set lists messages; a message lists fields with their wire
  kind and the overrides attached to them.  Nothing here is checked: the
  compiler alone says which sets make sense.
-/
namespace EntitySchema

/-! ## §1. Wire kinds. -/

/-- Wire kind of a declared field. -/
inductive FieldKind where
  | double
  | float
  | int64
  | uint64
  | int32
  | fixed64
  | fixed32
  | bool
  | string
  | group
  | message
  | bytes
  | uint32
  | enum
  | sfixed32
  | sfixed64
  | sint32
  | sint64
  deriving DecidableEq, Repr

namespace FieldKind

/-- All kinds in declaration order. -/
def all : List FieldKind :=
  [.double, .float, .int64, .uint64, .int32, .fixed64, .fixed32, .bool, .string, .group,
   .message, .bytes, .uint32, .enum, .sfixed32, .sfixed64, .sint32, .sint64]

/-- Name of a kind, in documents and in messages. -/
def name : FieldKind → String
  | .double => "double"
  | .float => "float"
  | .int64 => "int64"
  | .uint64 => "uint64"
  | .int32 => "int32"
  | .fixed64 => "fixed64"
  | .fixed32 => "fixed32"
  | .bool => "bool"
  | .string => "string"
  | .group => "group"
  | .message => "message"
  | .bytes => "bytes"
  | .uint32 => "uint32"
  | .enum => "enum"
  | .sfixed32 => "sfixed32"
  | .sfixed64 => "sfixed64"
  | .sint32 => "sint32"
  | .sint64 => "sint64"

end FieldKind

/-! ## §2. Overrides. -/

/-- Physical storage override for an edge. -/
structure StorageKey where
  table : String := ""
  columns : List String := []
  column : String := ""
  symbols : List String := []
  symbol : String := ""
  deriving DecidableEq, Repr

/-- Whether a storage override says nothing. -/
def StorageKey.isEmpty (k : StorageKey) : Bool :=
  k.table.isEmpty && k.columns.isEmpty && k.column.isEmpty && k.symbols.isEmpty
    && k.symbol.isEmpty

/-- Overrides for the edge of a message field. -/
structure EdgeOptions where
  /-- Name of the counterpart on the target; empty if not given. -/
  refName : String := ""
  required : Bool := false
  immutable : Bool := false
  storageKey : Option StorageKey := none
  structTag : String := ""
  comment : String := ""
  /-- Bind the edge to a scalar field that holds the foreign key. -/
  bindField : Bool := false
  /-- Name of that field; implies `bindField`. -/
  bindFieldName : Option String := none
  deriving DecidableEq, Repr

/-- Overrides attached to a field.  Expressions are copied, never
interpreted. -/
structure FieldOptions where
  ignore : Bool := false
  default : String := ""
  defaultFunc : String := ""
  nillable : Bool := false
  immutable : Bool := false
  unique : Bool := false
  comment : String := ""
  storageKey : String := ""
  structTag : String := ""
  sensitive : Bool := false
  goType : String := ""
  /-- Explicit API type; wins over a derived one. -/
  graphqlType : String := ""
  /-- Keep literals that carry the unspecified marker. -/
  includeUnspecifiedEnum : Bool := false
  edge : EdgeOptions := {}
  deriving DecidableEq, Repr

/-! ## §3. Fields and messages. -/

/-- A declared field. -/
structure FieldDescriptor where
  name : String
  kind : FieldKind
  repeated : Bool := false
  /-- Explicit presence. -/
  optional : Bool := false
  /-- Qualified name of the message or enumeration type. -/
  typeName : Option String := none
  /-- Enumeration literals in declaration order. -/
  enumValues : List String := []
  options : FieldOptions := {}
  deriving DecidableEq, Repr

/-- A declared message. -/
structure MessageDescriptor where
  name : String
  /-- Only messages that opt in become entities. -/
  generate : Bool := false
  fields : List FieldDescriptor := []
  deriving DecidableEq, Repr

/-- A set of messages in declaration order. -/
structure DescriptorSet where
  entities : List MessageDescriptor
  deriving DecidableEq, Repr

namespace FieldDescriptor

/-- Message field of a type. -/
def ofMessage (name typeName : String) : FieldDescriptor :=
  { name, kind := .message, typeName := some typeName }

/-- Enumeration field with its literals. -/
def ofEnum (name typeName : String) (values : List String) : FieldDescriptor :=
  { name, kind := .enum, typeName := some typeName, enumValues := values }

/-- The field with many values. -/
def asRepeated (f : FieldDescriptor) : FieldDescriptor := { f with repeated := true }

/-- The field with explicit presence. -/
def asOptional (f : FieldDescriptor) : FieldDescriptor := { f with optional := true }

/-- The field with a hint at its counterpart. -/
def withRef (f : FieldDescriptor) (ref : String) : FieldDescriptor :=
  { f with options := { f.options with edge := { f.options.edge with refName := ref } } }

/-- The field with other overrides. -/
def withOptions (f : FieldDescriptor) (options : FieldOptions) : FieldDescriptor :=
  { f with options }

/-- Whether the field holds messages. -/
def isMessage (f : FieldDescriptor) : Bool := f.kind = .message

/-- Whether the field takes no part in the generation. -/
def isIgnored (f : FieldDescriptor) : Bool := f.options.ignore

/-- Hint at the counterpart, if one is given. -/
def refHint (f : FieldDescriptor) : Option String :=
  if f.options.edge.refName.isEmpty then none else some f.options.edge.refName

end FieldDescriptor

namespace MessageDescriptor

/-- Message that opts in and has no fields yet. -/
def named (name : String) : MessageDescriptor := { name, generate := true }

/-- The message with one more field. -/
def withField (m : MessageDescriptor) (f : FieldDescriptor) : MessageDescriptor :=
  { m with fields := m.fields ++ [f] }

/-- The message, opted out. -/
def skipGeneration (m : MessageDescriptor) : MessageDescriptor := { m with generate := false }

/-- First field of a name. -/
def field? (m : MessageDescriptor) (name : String) : Option FieldDescriptor :=
  m.fields.find? (·.name = name)

end MessageDescriptor

/-- Messages that opt in, in declaration order. -/
def DescriptorSet.selected (s : DescriptorSet) : List MessageDescriptor :=
  s.entities.filter (·.generate)

end EntitySchema
