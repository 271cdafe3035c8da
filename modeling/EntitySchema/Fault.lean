/-
  EntitySchema.Fault
  ────────────────────────────────
  **WHY A DESCRIPTOR SET DOES NOT COMPILE.**

  Causes with the names they concern; the wording is in one place per
  kind of cause.
-/
import EntitySchema.Descriptor.Basic

namespace EntitySchema

/-- A field whose kind has no storage. -/
structure ClassificationFault where
  entity : String
  field : String
  kind : FieldKind
  repeated : Bool
  deriving DecidableEq, Repr

/-- Wording of a classification fault. -/
def ClassificationFault.message (e : ClassificationFault) : String :=
  "unsupported type " ++ (if e.repeated then "repeated " else "") ++ e.kind.name
    ++ " for field " ++ e.entity ++ "." ++ e.field

/-- Why a reference finds no counterpart. -/
inductive PairingCause where
  | unknownTarget
  | noCounterpart
  | ambiguous (candidates : List String)
  | refNotFound (refName : String)
  | conflictingRefs (counterpart : String)
  deriving DecidableEq, Repr

/-- Wording of a pairing cause. -/
def PairingCause.message : PairingCause → String
  | .unknownTarget => "target type is not part of the generation set"
  | .noCounterpart => "no counterpart field; the target declares no field of the owning type"
  | .ambiguous candidates =>
      "ambiguous edge; multiple fields of the same type require an explicit ref on one side ("
        ++ ", ".intercalate candidates ++ ")"
  | .refNotFound r =>
      "ref `" ++ r ++ "` does not match any field of the owning type on the target"
  | .conflictingRefs c =>
      "conflicting refs with counterpart `" ++ c ++ "`; exactly one side may name the other"

/-- A reference that finds no counterpart. -/
structure PairingFault where
  entity : String
  field : String
  target : String
  cause : PairingCause
  deriving DecidableEq, Repr

/-- Wording of a pairing fault. -/
def PairingFault.message (e : PairingFault) : String :=
  "cannot resolve edge " ++ e.entity ++ "." ++ e.field ++ " -> " ++ e.target ++ ": "
    ++ e.cause.message

/-- A set that contradicts itself. -/
inductive DescriptorFault where
  | duplicateEntity (name : String)
  | duplicateField (entity field : String)
  | untypedReference (entity field : String)
  deriving DecidableEq, Repr

/-- Wording of a descriptor fault. -/
def DescriptorFault.message : DescriptorFault → String
  | .duplicateEntity name => "duplicate entity name: " ++ name
  | .duplicateField entity field => "duplicate field name: " ++ entity ++ "." ++ field
  | .untypedReference entity field =>
      "message field " ++ entity ++ "." ++ field ++ " has no type name"

/-- Why a descriptor set does not compile. -/
inductive CompileFault where
  | classification (e : ClassificationFault)
  | pairing (e : PairingFault)
  | descriptor (e : DescriptorFault)
  deriving DecidableEq, Repr

/-- Wording of a compile fault. -/
def CompileFault.message : CompileFault → String
  | .classification e => e.message
  | .pairing e => e.message
  | .descriptor e => "invalid descriptor: " ++ e.message

end EntitySchema
