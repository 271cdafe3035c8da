/-
  EntitySchema.Proofs.Contract.Admission
  ────────────────────────────────
  **WHAT A SCHEMA ADMITS.**

  The check of a document lists violations in an order; what it means for a
  document to meet a schema needs no order and no places.  The check finds
  nothing iff the document meets the schema, wherever it stands.

      violations   a list, by places
      admits       a relation, by constructors of the schema

  Main result: `Schema.violationsAt_eq_nil_iff`.
-/
import EntitySchema.Contract.Validation
import EntitySchema.Proofs.Sequence

namespace EntitySchema.Schema

/-! ## §1. The relation. -/

/-- The document meets the schema. -/
inductive Admits : Schema → Json → Prop
  | scalar {types : List JsonType} {t : JsonType} {v : Json} (listed : t ∈ types)
      (has : t.has v = true) : Admits (.scalar types) v
  | list {items : Schema} {vs : List Json} (each : ∀ v ∈ vs, Admits items v) :
      Admits (.list items) (.array vs)
  | record {properties : List (String × Schema)} {required : List String}
      {ms : List (String × Json)}
      (each : ∀ p ∈ properties, ∀ v, ms.lookup p.1 = some v → Admits p.2 v)
      (present : ∀ name ∈ required, (ms.lookup name).isSome) :
      Admits (.record properties required) (.object ms)
  | choice {names : List String} {s : String} (listed : s ∈ names) :
      Admits (.choice names) (.text s)
  | named {name : String} {body : Schema} {v : Json} (meets : Admits body v) :
      Admits (.named name body) v
  | conjunction {body : Schema} {v : Json} (meets : Admits body v) : Admits (.conjunction body) v
  | null {body : Schema} : Admits (.nullable body) .null
  | nullable {body : Schema} {v : Json} (meets : Admits body v) : Admits (.nullable body) v
  | noted {note : SchemaNote} {body : Schema} {v : Json} (meets : Admits body v) :
      Admits (.noted note body) v

theorem admits_scalar_iff {types : List JsonType} {v : Json} :
    (Schema.scalar types).Admits v ↔ ∃ t ∈ types, t.has v = true := by
  constructor
  · intro h
    cases h with
    | scalar listed has => exact ⟨_, listed, has⟩
  · intro h
    obtain ⟨t, listed, has⟩ := h
    exact .scalar listed has

theorem admits_list_iff {items : Schema} {v : Json} :
    (Schema.list items).Admits v ↔ ∃ vs, v = .array vs ∧ ∀ w ∈ vs, items.Admits w := by
  constructor
  · intro h
    cases h with
    | list each => exact ⟨_, rfl, each⟩
  · intro h
    obtain ⟨vs, rfl, each⟩ := h
    exact .list each

theorem admits_record_iff {properties : List (String × Schema)} {required : List String}
    {v : Json} :
    (Schema.record properties required).Admits v
      ↔ ∃ ms, v = .object ms
        ∧ (∀ p ∈ properties, ∀ w, ms.lookup p.1 = some w → p.2.Admits w)
        ∧ ∀ name ∈ required, (ms.lookup name).isSome := by
  constructor
  · intro h
    cases h with
    | record each present => exact ⟨_, rfl, each, present⟩
  · intro h
    obtain ⟨ms, rfl, each, present⟩ := h
    exact .record each present

theorem admits_choice_iff {names : List String} {v : Json} :
    (Schema.choice names).Admits v ↔ ∃ s, v = .text s ∧ s ∈ names := by
  constructor
  · intro h
    cases h with
    | choice listed => exact ⟨_, rfl, listed⟩
  · intro h
    obtain ⟨s, rfl, listed⟩ := h
    exact .choice listed

theorem admits_nullable_iff {body : Schema} {v : Json} :
    (Schema.nullable body).Admits v ↔ v = .null ∨ body.Admits v := by
  constructor
  · intro h
    cases h with
    | null => exact .inl rfl
    | nullable meets => exact .inr meets
  · intro h
    rcases h with rfl | meets
    · exact .null
    · exact .nullable meets

/-- Names, conjunctions of one part and notes ask for nothing of their own. -/
theorem admits_named_iff {name : String} {body : Schema} {v : Json} :
    (Schema.named name body).Admits v ↔ body.Admits v :=
  ⟨fun h => by cases h with | named meets => exact meets, .named⟩

theorem admits_conjunction_iff {body : Schema} {v : Json} :
    (Schema.conjunction body).Admits v ↔ body.Admits v :=
  ⟨fun h => by cases h with | conjunction meets => exact meets, .conjunction⟩

theorem admits_noted_iff {note : SchemaNote} {body : Schema} {v : Json} :
    (Schema.noted note body).Admits v ↔ body.Admits v :=
  ⟨fun h => by cases h with | noted meets => exact meets, .noted⟩

/-! ## §2. The check. -/

theorem checkType_eq_nil_iff {path : List String} {types : List JsonType} {v : Json} :
    checkType path types v = [] ↔ ∃ t ∈ types, t.has v = true := by
  rw [checkType, ← List.any_eq_true]
  split
  next h => exact iff_of_true rfl h
  next h => exact iff_of_false (List.cons_ne_nil _ _) h

/-- What is asked of each item does not depend on its place. -/
theorem checkItems_eq_nil_iff {check : List String → Json → List Violation} {P : Json → Prop}
    (h : ∀ path v, check path v = [] ↔ P v) {path : List String} {start : Nat} {vs : List Json} :
    checkItems path check start vs = [] ↔ ∀ v ∈ vs, P v := by
  induction vs generalizing start with
  | nil => simp [checkItems]
  | cons v vs ih => rw [checkItems, List.append_eq_nil_iff, h, ih, List.forall_mem_cons]

theorem checkRequired_eq_nil_iff {path : List String} {v : Json} {ms : List (String × Json)}
    {required : List String} :
    checkRequired path v ms required = [] ↔ ∀ name ∈ required, (ms.lookup name).isSome := by
  simp [checkRequired, List.filter_eq_nil_iff, Option.isSome_iff_ne_none]

mutual

/-- **THE CHECK FINDS NOTHING IFF THE DOCUMENT MEETS THE SCHEMA**, wherever it
stands. -/
theorem violationsAt_eq_nil_iff (path : List String) :
    ∀ (s : Schema) (v : Json), s.violationsAt path v = [] ↔ s.Admits v
  | .scalar types, v => by rw [violationsAt, checkType_eq_nil_iff, admits_scalar_iff]
  | .list items, v => by
      rw [admits_list_iff]
      cases v with
      | array vs =>
          rw [violationsAt, checkItems_eq_nil_iff fun p w => violationsAt_eq_nil_iff p items w]
          simp
      | _ => simp [violationsAt, checkType, JsonType.has]
  | .record properties required, v => by
      rw [admits_record_iff]
      cases v with
      | object ms =>
          rw [violationsAt, List.append_eq_nil_iff, checkRequired_eq_nil_iff,
            propertyViolations_eq_nil_iff path ms properties]
          simp
      | _ => simp [violationsAt, checkType, JsonType.has]
  | .choice names, v => by
      rw [admits_choice_iff]
      cases v with
      | text s => simp [violationsAt]
      | _ => simp [violationsAt]
  | .named name body, v => by
      rw [violationsAt, violationsAt_eq_nil_iff path body v, admits_named_iff]
  | .conjunction body, v => by
      rw [violationsAt, violationsAt_eq_nil_iff path body v, admits_conjunction_iff]
  | .nullable body, v => by
      have hbody := violationsAt_eq_nil_iff path body v
      rw [admits_nullable_iff, ← hbody]
      cases v with
      | null => simp [violationsAt]
      | _ => simp [violationsAt]
  | .noted note body, v => by
      rw [violationsAt, violationsAt_eq_nil_iff path body v, admits_noted_iff]

theorem propertyViolations_eq_nil_iff (path : List String) (ms : List (String × Json)) :
    ∀ properties : List (String × Schema), propertyViolations path ms properties = []
      ↔ ∀ p ∈ properties, ∀ v, ms.lookup p.1 = some v → p.2.Admits v
  | [] => by simp [propertyViolations]
  | (name, s) :: rest => by
      rw [propertyViolations, List.append_eq_nil_iff, propertyViolations_eq_nil_iff path ms rest,
        List.forall_mem_cons]
      cases ms.lookup name with
      | none => simp
      | some v => simp [violationsAt_eq_nil_iff (path ++ [name]) s v]

end

end EntitySchema.Schema
