/-
  EntitySchema.Run.Trace
  ────────────────────────────────
  **WHAT A COMPILATION REPORTS.**

  The events of a compilation, computed beside its result.  Work is
  reported as it is done: what precedes the first fault is told, even if
  the compilation as a whole comes to nothing.
-/
import EntitySchema.Run.Event
import EntitySchema.Compilation

namespace EntitySchema

/-! ## §1. The catalog. -/

/-- Placements of fields before the first fault. -/
def placedBefore (o : CompileOptions) (entity : String) (seen : List String) :
    List FieldDescriptor → List Placement
  | [] => []
  | f :: rest =>
      match place o entity seen f with
      | .ok p => p :: placedBefore o entity (f.name :: seen) rest
      | .error _ => []

/-- Events of entering a message of a new name. -/
def entryEvents (o : CompileOptions) (m : MessageDescriptor) : List Event :=
  let attributes := (placedBefore o m.name [] m.fields).filterMap (·.attribute?)
  attributes.map (.fieldClassified m.name)
    ++ match CatalogEntry.ofMessage o m with
      | .ok e => [.entityIndexed m.name e.attributes.length e.references.length]
      | .error _ => []

/-- Events of entering messages into a catalog. -/
def catalogEvents (o : CompileOptions) (c : Catalog) : List MessageDescriptor → List Event
  | [] => []
  | m :: rest =>
      if (c.positions.lookup m.name).isSome then []
      else entryEvents o m ++ match c.enter o m with
        | .ok c => catalogEvents o c rest
        | .error _ => []

/-! ## §2. Edges. -/

/-- Edges of references before the first fault, each reference with its
owner. -/
def edgesBefore (c : Catalog) : List (CatalogEntry × FieldDescriptor) → List Edge
  | [] => []
  | (owner, f) :: rest =>
      match c.resolve owner .declared f with
      | .ok e => e :: edgesBefore c rest
      | .error _ => []

/-- References of a catalog in order, each one with its owner. -/
def Catalog.openReferences (c : Catalog) : List (CatalogEntry × FieldDescriptor) :=
  c.entries.flatMap fun (e : CatalogEntry) => e.references.map (e, ·)

/-- Events of resolving the references of a catalog. -/
def edgeEvents (c : Catalog) : List Event :=
  let edges := edgesBefore c c.openReferences
  edges.map .edgeResolved
    ++ if edges.length = c.openReferences.length then [.edgesResolved c.size edges.length] else []

/-! ## §3. A compilation. -/

/-- Events of a compilation. -/
def compileEvents (o : CompileOptions) (s : DescriptorSet) : List Event :=
  catalogEvents o .empty s.selected
    ++ match Catalog.build o s with
      | .ok c => .entitiesIndexed c.size (s.entities.length - c.size) :: edgeEvents c
      | .error _ => []

end EntitySchema
