/-
  EntitySchema.Pairing
  ────────────────────────────────
  **FROM REFERENCES TO EDGES.**

  The second half of a compilation: each reference is paired with one field
  of its target that refers back.  The candidates are all references of the
  target to the owner.

      own hint        the candidate of that name
      one candidate   that one
      several         the only one whose hint names the field

  Then at most one side of the pair may carry a hint, and that hint must
  name the other side; a field may be its own counterpart.
-/
import EntitySchema.Catalog

namespace EntitySchema

/-! ## §1. Counterparts. -/

/-- Counterpart of a field among the candidates. -/
def findCounterpart (f : FieldDescriptor) (candidates : List FieldDescriptor) :
    Except PairingCause FieldDescriptor :=
  match candidates, f.refHint with
  | [], _ => .error .noCounterpart
  | _, some r =>
      match candidates.find? (·.name = r) with
      | some g => .ok g
      | none => .error (.refNotFound r)
  | [g], none => .ok g
  | _, none =>
      match candidates.filter (·.refHint = some f.name) with
      | [g] => .ok g
      | _ => .error (.ambiguous (candidates.map (·.name)))

/-- Whether a field stands in the declaration of its owner; one that does not
is never its own counterpart. -/
inductive Standing where
  | declared
  | detached
  deriving DecidableEq, Repr

/-- Checks that at most one side carries a hint and that it names the other
side. -/
def checkPairing (same : Bool) (f g : FieldDescriptor) : Except PairingCause Unit :=
  if same then .ok ()
  else match g.refHint with
    | none => .ok ()
    | some r =>
        if f.refHint.isSome || r ≠ f.name then .error (.conflictingRefs g.name) else .ok ()

/-! ## §2. What an edge carries. -/

/-- Whether a field of `owner` is tied to itself by its own hint. -/
def isBidirectional (owner target : CatalogEntry) (f : FieldDescriptor) : Bool :=
  owner.name = target.name && f.refHint = some f.name

/-- Which end of the pair carries the relation: this one, unless it has a
hint at another field. -/
def edgeDirection (bidirectional : Bool) (f : FieldDescriptor) : Direction :=
  match f.refHint with
  | some r => if bidirectional then .owning else .referencing r
  | none => .owning

/-- Annotations of an edge to one object: a sort key per attribute of the
target. -/
def uniqueEdgeAnnotations (edgeName : String) (target : CatalogEntry) : List Annotation :=
  target.orderable.map fun a =>
    .orderField (Identifier.sortKey edgeName ++ "_" ++ Identifier.sortKey a.name)

/-- Name whose count sorts an edge to many objects: the target's, or the
edge's own if the owner has several repeated references to the target. -/
def countBase (owner : CatalogEntry) (f : FieldDescriptor) (target : String) : String :=
  if 1 < ((owner.referencesTo target).filter (·.repeated)).length then f.name else target

/-- Annotations of an edge. -/
def edgeAnnotations (owner target : CatalogEntry) (f : FieldDescriptor) (unique : Bool) :
    List Annotation :=
  if unique then uniqueEdgeAnnotations (Identifier.snake f.name) target
  else [.relayConnection,
    .orderField (Identifier.sortKey (countBase owner f target.name) ++ "_COUNT")]

/-- Scalar field that an edge is bound to, if any. -/
def boundField (edgeName : String) (o : EdgeOptions) : Option String :=
  if o.bindField || o.bindFieldName.isSome then
    some ((o.bindFieldName.bind nonEmpty).getD (edgeName ++ "_id"))
  else none

/-- Edge of a field and its counterpart. -/
def Edge.ofPair (owner target : CatalogEntry) (f g : FieldDescriptor) : Edge :=
  let bidirectional := isBidirectional owner target f
  let cardinality := Cardinality.between f.repeated g.repeated
  let name := Identifier.snake f.name
  let o := f.options.edge
  { name
    declaredName := f.name
    owner := owner.name
    target := target.name
    direction := edgeDirection bidirectional f
    bidirectional
    counterpart := g.name
    cardinality
    unique := cardinality.isUnique
    required := o.required
    immutable := o.immutable
    bindField := boundField name o
    storageKey := o.storageKey.filter fun k => !k.isEmpty
    structTag := nonEmpty o.structTag
    comment := nonEmpty o.comment
    annotations := edgeAnnotations owner target f cardinality.isUnique }

/-! ## §3. Resolution. -/

namespace Catalog

/-- Target and counterpart of a field of `owner`. -/
def pair (c : Catalog) (owner : CatalogEntry) (standing : Standing) (f : FieldDescriptor) :
    Except PairingCause (CatalogEntry × FieldDescriptor) :=
  match c.get? (f.target?.getD "") with
  | none => .error .unknownTarget
  | some target => do
      let g ← findCounterpart f (target.referencesTo owner.name)
      let same := standing = .declared && owner.name = target.name && f.name = g.name
      checkPairing same f g
      return (target, g)

/-- Edge of a field of `owner`. -/
def resolve (c : Catalog) (owner : CatalogEntry) (standing : Standing) (f : FieldDescriptor) :
    Except PairingFault Edge :=
  match c.pair owner standing f with
  | .error cause => .error ⟨owner.name, f.name, f.target?.getD "", cause⟩
  | .ok (target, g) => .ok (.ofPair owner target f g)

/-- Edges of an entity in declaration order. -/
def resolveAll (c : Catalog) (owner : CatalogEntry) : Except PairingFault (List Edge) :=
  owner.references.mapM (c.resolve owner .declared)

end Catalog
end EntitySchema
