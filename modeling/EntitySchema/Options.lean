/-
  EntitySchema.Options
  ────────────────────────────────
  **COMPILER OPTIONS.**

  Which enumeration literals count as unspecified, and which message types
  are points in time rather than entities.
-/
import EntitySchema.Json.Codec

namespace EntitySchema

/-- Options of the compiler. -/
structure CompileOptions where
  /-- Ending of the literals that stand for no value. -/
  unspecifiedEnumSuffix : String := "_UNSPECIFIED"
  /-- Qualified names of the types that are points in time. -/
  timestampTypeNames : List String := ["google.protobuf.Timestamp"]
  deriving DecidableEq, Repr

/-- Qualified name without the dots it may start with. -/
def withoutLeadingDots (typeName : String) : List Char := typeName.toList.dropWhile (· == '.')

/-- Whether a type name is one of the points in time; leading dots do not
count. -/
def CompileOptions.isTimestamp (o : CompileOptions) (typeName : String) : Bool :=
  o.timestampTypeNames.any fun t => withoutLeadingDots t == withoutLeadingDots typeName

/-- Written form of the options. -/
def CompileOptions.record : Record CompileOptions where
  title := "struct CompileOptions"
  blank := {}
  members := [
    .of "unspecified_enum_suffix" .default .text (·.unspecifiedEnumSuffix)
      fun a s => { s with unspecifiedEnumSuffix := a },
    .of "timestamp_type_names" .default (.list .text) (·.timestampTypeNames)
      fun a s => { s with timestampTypeNames := a }]

end EntitySchema
