/-
  EntitySchema.Catalog
  ────────────────────────────────
  **THE CATALOG OF ENTITIES.**

  The first half of a compilation: every selected message is entered with
  its attributes and with the references that still wait for their
  counterparts.  Names must be unique, ignored fields included; the first
  fault in declaration order ends the work.  No reference is looked at
  before all entities are known.
-/
import EntitySchema.Classification

namespace EntitySchema

/-! ## §1. Placing the fields of an entity. -/

/-- What becomes of a declared field. -/
inductive Placement where
  | ignored
  | attribute (a : Attribute)
  | reference (f : FieldDescriptor)
  deriving DecidableEq, Repr

namespace Placement

/-- Attribute of a placement. -/
def attribute? : Placement → Option Attribute
  | .attribute a => some a
  | _ => none

/-- Reference of a placement. -/
def reference? : Placement → Option FieldDescriptor
  | .reference f => some f
  | _ => none

end Placement

/-- Places a field of an entity, `seen` being the names declared before
it. -/
def place (o : CompileOptions) (entity : String) (seen : List String) (f : FieldDescriptor) :
    Except CompileFault Placement :=
  if f.name ∈ seen then .error (.descriptor (.duplicateField entity f.name))
  else if f.isIgnored then .ok .ignored
  else if f.name ≠ identityName && f.isReference o then
    if f.typeName.all String.isEmpty then .error (.descriptor (.untypedReference entity f.name))
    else .ok (.reference f)
  else ((classify o entity f).mapError .classification).map .attribute

/-- Places fields in order, up to the first fault. -/
def placeAll (o : CompileOptions) (entity : String) (seen : List String) :
    List FieldDescriptor → Except CompileFault (List Placement)
  | [] => .ok []
  | f :: rest => do
      let p ← place o entity seen f
      let ps ← placeAll o entity (f.name :: seen) rest
      return p :: ps

/-! ## §2. Entries. -/

/-- An entity with its attributes and its open references. -/
structure CatalogEntry where
  message : MessageDescriptor
  attributes : List Attribute
  references : List FieldDescriptor
  deriving DecidableEq, Repr

namespace CatalogEntry

/-- Entry of a message. -/
def ofMessage (o : CompileOptions) (m : MessageDescriptor) :
    Except CompileFault CatalogEntry := do
  let ps ← placeAll o m.name [] m.fields
  return ⟨m, ps.filterMap (·.attribute?), ps.filterMap (·.reference?)⟩

/-- Name of the entity. -/
def name (e : CatalogEntry) : String := e.message.name

/-- References to an entity, in declaration order. -/
def referencesTo (e : CatalogEntry) (entity : String) : List FieldDescriptor :=
  e.references.filter (·.target? = some entity)

/-- Attributes by which the entity may be sorted from afar: all but the
identity. -/
def orderable (e : CatalogEntry) : List Attribute := e.attributes.filter fun a => !a.isIdentity

end CatalogEntry

/-! ## §3. The catalog. -/

/-- Entities in declaration order, with their positions by name. -/
structure Catalog where
  entries : List CatalogEntry
  positions : List (String × Nat)
  deriving DecidableEq, Repr

namespace Catalog

/-- The catalog without entities. -/
def empty : Catalog := ⟨[], []⟩

/-- Entry of an entity. -/
def get? (c : Catalog) (name : String) : Option CatalogEntry :=
  (c.positions.lookup name).bind fun i => c.entries[i]?

/-- Number of entities. -/
def size (c : Catalog) : Nat := c.entries.length

/-- The catalog with one more entry. -/
def push (c : Catalog) (e : CatalogEntry) : Catalog :=
  ⟨c.entries ++ [e], (e.name, c.size) :: c.positions⟩

/-- Enters a message, whose name must be new. -/
def enter (o : CompileOptions) (c : Catalog) (m : MessageDescriptor) :
    Except CompileFault Catalog :=
  if (c.positions.lookup m.name).isSome then
    .error (.descriptor (.duplicateEntity m.name))
  else (CatalogEntry.ofMessage o m).map c.push

/-- Catalog of the selected messages of a set. -/
def build (o : CompileOptions) (s : DescriptorSet) : Except CompileFault Catalog :=
  s.selected.foldlM (enter o) empty

end Catalog
end EntitySchema
