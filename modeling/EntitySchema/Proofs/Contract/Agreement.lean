/-
  EntitySchema.Proofs.Contract.Agreement
  ────────────────────────────────
  **WHEN A SCHEMA AND A CODEC AGREE.**

  A schema and a codec describe the same documents in two ways.  The codec is
  the more lenient one in two respects, and in no other:

      record    {"name": "Post"}    also as  ["Post"]
      variant   "message"           also as  {"message": null}

  A document that uses neither is written plainly.  A schema and a codec
  agree if the schema admits what decodes and is written plainly; they do on
  a record if they do on each member.

  Main results: `Codec.AgreesWith.list`, `Record.DescribedBy.agreesWith`.
-/
import EntitySchema.Proofs.Contract.Admission
import EntitySchema.Proofs.Json.Decoding

namespace EntitySchema

/-! ## §1. Documents written plainly. -/

namespace Json

/-- A text. -/
def IsText (v : Json) : Prop := ∃ s, v = .text s

/-- An object whose members, where they have such a name, are as required. -/
def ObjectWith (parts : List (String × (Json → Prop))) (v : Json) : Prop :=
  ∃ ms, v = .object ms
    ∧ ∀ name w part, ms.lookup name = some w → parts.lookup name = some part → part w

/-- If an array, one of such items. -/
def EachItem (part : Json → Prop) (v : Json) : Prop :=
  ∀ vs, v = .array vs → ∀ w ∈ vs, part w

/-- If not null, such a value. -/
def IfAny (part : Json → Prop) (v : Json) : Prop := v ≠ .null → part v

end Json

open Json (IsText ObjectWith EachItem IfAny)

/-! ## §2. Agreement. -/

/-- The schema admits what decodes and is written plainly. -/
def Codec.AgreesWith {α : Type} (c : Codec α) (s : Schema) (plain : Json → Prop) : Prop :=
  ∀ v, s.Admits v ↔ (∃ a, c.decode v = .ok a) ∧ plain v

namespace Codec

variable {α : Type} {c : Codec α} {s : Schema} {plain : Json → Prop}

/-- Documents without parts are written plainly. -/
def Anyhow (_ : Json) : Prop := True

theorem text_agreesWith : Codec.text.AgreesWith (.scalar [.string]) Anyhow := by
  intro v
  simp only [Schema.admits_scalar_iff, text_decode_eq_ok_iff, Anyhow, and_true]
  cases v <;> simp [JsonType.has]

theorem bool_agreesWith : Codec.bool.AgreesWith (.scalar [.boolean]) Anyhow := by
  intro v
  simp only [Schema.admits_scalar_iff, bool_decode_eq_ok_iff, Anyhow, and_true]
  cases v <;> simp [JsonType.has]

theorem optionText_agreesWith :
    (Codec.option .text).AgreesWith (.scalar [.string, .null]) Anyhow := by
  intro v
  simp only [Schema.admits_scalar_iff, Anyhow, and_true]
  cases v <;> simp [JsonType.has, option, text, textNamed, Except.map]

namespace AgreesWith

theorem list (h : c.AgreesWith s plain) :
    (Codec.list c).AgreesWith (.list s) (EachItem plain) := by
  intro v
  simp only [Schema.admits_list_iff, list_decode_eq_ok_iff]
  constructor
  · intro hv
    obtain ⟨vs, rfl, each⟩ := hv
    constructor
    · obtain ⟨as, has⟩ := exists_forall₂ fun w hw => ((h w).1 (each w hw)).1
      exact ⟨as, vs, rfl, has⟩
    · intro ws hws w hw
      cases hws
      exact ((h w).1 (each w hw)).2
  · intro hv
    obtain ⟨⟨as, vs, rfl, has⟩, hplain⟩ := hv
    refine ⟨vs, rfl, fun w hw => (h w).2 ⟨?_, hplain vs rfl w hw⟩⟩
    obtain ⟨a, -, ha⟩ := exists_right_of_mem has w hw
    exact ⟨a, ha⟩

/-- Items that may be written anyhow make lists that may be, too. -/
theorem list_anyhow (h : c.AgreesWith s Anyhow) : (Codec.list c).AgreesWith (.list s) Anyhow :=
  fun v => (h.list v).trans
    (and_congr_right fun _ => iff_of_true (fun _ _ _ _ => trivial) trivial)

theorem option (h : c.AgreesWith s plain) :
    (Codec.option c).AgreesWith (.nullable s) (IfAny plain) := by
  intro v
  rw [Schema.admits_nullable_iff]
  -- null is admitted and decodes to nothing; any other value is up to the inner codec
  by_cases hv : v = .null
  · rw [hv]
    exact iff_of_true (.inl rfl) ⟨⟨none, rfl⟩, fun hne => absurd rfl hne⟩
  · have hplain : IfAny plain v ↔ plain v := ⟨fun hp => hp hv, fun hp _ => hp⟩
    simp only [hv, false_or, h v, hplain, option_decode_eq_ok_iff hv]
    constructor
    · intro hd
      obtain ⟨⟨a, ha⟩, hp⟩ := hd
      exact ⟨⟨some a, a, ha, rfl⟩, hp⟩
    · intro hd
      obtain ⟨⟨-, a, ha, -⟩, hp⟩ := hd
      exact ⟨⟨a, ha⟩, hp⟩

theorem named (h : c.AgreesWith s plain) (name : String) : c.AgreesWith (.named name s) plain :=
  fun v => Schema.admits_named_iff.trans (h v)

theorem noted (h : c.AgreesWith s plain) (note : SchemaNote) : c.AgreesWith (.noted note s) plain :=
  fun v => Schema.admits_noted_iff.trans (h v)

theorem conjunction (h : c.AgreesWith s plain) : c.AgreesWith (.conjunction s) plain :=
  fun v => Schema.admits_conjunction_iff.trans (h v)

end AgreesWith

theorem exists_decodeName_iff {known : List (String × α)} {name : String} :
    (∃ a, decodeName known name = .ok a) ↔ name ∈ known.map (·.1) := by
  rw [← exists_lookup_eq_some_iff, decodeName]
  cases known.lookup name <;> simp

/-- Variants written as their names, all of which the schema lists. -/
theorem variant_agreesWith {known : List (String × α)} {name : α → String} :
    (Codec.variant known name).AgreesWith (.choice (known.map (·.1))) IsText := by
  intro v
  rw [Schema.admits_choice_iff]
  cases v with
  | text s =>
      have hdecode : (∃ a, (Codec.variant known name).decode (.text s) = .ok a)
          ↔ s ∈ known.map (·.1) := exists_decodeName_iff
      rw [hdecode]
      simp [IsText]
  | _ => simp [IsText]

end Codec

/-! ## §3. Agreement of records. -/

/-- A member decodes, and is written plainly, iff the property of its name
admits it. -/
def Member.AgreesWith {σ : Type} (properties : List (String × Schema))
    (parts : List (String × (Json → Prop))) (m : Member σ) : Prop :=
  ∃ s, properties.lookup m.name = some s
    ∧ ∀ v, s.Admits v ↔ (∃ f, m.decode v = .ok f) ∧ ∀ part, parts.lookup m.name = some part → part v

namespace Member

variable {σ α : Type} {properties : List (String × Schema)} {parts : List (String × (Json → Prop))}
  {name : String} {absent : Absent} {c : Codec α} {get : σ → α} {put : α → σ → σ} {s : Schema}

theorem exists_decode_of_iff {v : Json} :
    (∃ f, (Member.of name absent c get put).decode v = .ok f) ↔ ∃ a, c.decode v = .ok a := by
  show (∃ f, (c.decode v).map put = .ok f) ↔ _
  simp [map_eq_ok_iff]

/-- Member without parts. -/
theorem agreesWith_of (h : c.AgreesWith s Codec.Anyhow) (hs : properties.lookup name = some s)
    (hparts : parts.lookup name = none) :
    (Member.of name absent c get put).AgreesWith properties parts := by
  refine ⟨s, hs, fun v => ?_⟩
  rw [h v, exists_decode_of_iff]
  refine and_congr_right fun _ => iff_of_true trivial fun part hpart => ?_
  exact absurd (hparts.symm.trans hpart) (by simp)

/-- Member with parts. -/
theorem agreesWith_of_part {plain : Json → Prop} (h : c.AgreesWith s plain)
    (hs : properties.lookup name = some s) (hparts : parts.lookup name = some plain) :
    (Member.of name absent c get put).AgreesWith properties parts := by
  refine ⟨s, hs, fun v => ?_⟩
  rw [h v, exists_decode_of_iff]
  refine and_congr_right fun _ => ⟨fun hv part hpart => ?_, fun hv => hv plain hparts⟩
  cases hparts.symm.trans hpart
  exact hv

end Member

/-- A record and a list of properties that name the same members, each with
the same documents, and require the same ones. -/
structure Record.DescribedBy {σ : Type} (r : Record σ) (properties : List (String × Schema))
    (required : List String) (parts : List (String × (Json → Prop))) : Prop where
  members : ∀ m ∈ r.members, m.AgreesWith properties parts
  distinct : (properties.map (·.1)).Nodup := by decide
  names : (properties.map (·.1)).Perm (r.members.map (·.name)) := by decide
  required : required.Perm ((r.members.filter (·.absent = .required)).map (·.name)) := by decide
  parts : ∀ name ∈ parts.map (·.1), name ∈ r.members.map (·.name) := by decide

namespace Record

variable {σ : Type} {r : Record σ} {properties : List (String × Schema)} {required : List String}
  {parts : List (String × (Json → Prop))}

/-- An object is a record iff the values of the known members decode and the
required ones are there. -/
theorem exists_decodeObject_iff {ms : List (String × Json)} :
    (∃ s, r.decodeObject ms = .ok s)
      ↔ (∀ m ∈ r.members, ∀ v, ms.lookup m.name = some v → ∃ f, m.decode v = .ok f)
        ∧ ∀ m ∈ r.members, m.absent = .required → (ms.lookup m.name).isSome := by
  -- a member that is missing fills its slot as well
  have hslot : ∀ m : Member σ,
      (∃ f, slot ms m = .ok f) ↔ ∀ v, ms.lookup m.name = some v → ∃ f, m.decode v = .ok f := by
    intro m
    unfold slot
    cases ms.lookup m.name <;> simp
  simp only [decodeObject_eq_ok_iff, ← hslot]
  constructor
  · intro h
    obtain ⟨-, fs, hfs, hrequired, -⟩ := h
    refine ⟨fun m hm => ?_, hrequired⟩
    obtain ⟨f, -, hf⟩ := exists_right_of_mem hfs m hm
    exact ⟨f, hf⟩
  · intro h
    obtain ⟨hfs, hrequired⟩ := h
    obtain ⟨fs, hfs⟩ := exists_forall₂ hfs
    exact ⟨_, fs, hfs, hrequired, rfl⟩

/-- The property of a name is what is asked of the member of that name. -/
theorem DescribedBy.forall_properties_iff (h : r.DescribedBy properties required parts)
    {P : String → Schema → Prop} :
    (∀ p ∈ properties, P p.1 p.2)
      ↔ ∀ m ∈ r.members, ∀ s, properties.lookup m.name = some s → P m.name s := by
  constructor
  · intro hp m _ s hs
    exact hp (m.name, s) ((lookup_eq_some_iff_mem h.distinct).1 hs)
  · intro hm p hp
    obtain ⟨m, hmem, hname⟩ := List.mem_map.1 (h.names.mem_iff.1 (List.mem_map_of_mem hp))
    have hfound := (lookup_eq_some_iff_mem h.distinct).2 hp
    rw [← hname] at hfound ⊢
    exact hm m hmem p.2 hfound

/-- The members of an object meet their properties iff they decode and are
written plainly. -/
theorem DescribedBy.forall_admits_iff (h : r.DescribedBy properties required parts)
    {ms : List (String × Json)} :
    (∀ p ∈ properties, ∀ v, ms.lookup p.1 = some v → p.2.Admits v)
      ↔ (∀ m ∈ r.members, ∀ v, ms.lookup m.name = some v → ∃ f, m.decode v = .ok f)
        ∧ ObjectWith parts (.object ms) := by
  rw [h.forall_properties_iff (P := fun name s => ∀ v, ms.lookup name = some v → s.Admits v)]
  -- member by member: admitted iff it decodes and is plainly written
  constructor
  · intro hall
    constructor
    · intro m hm v hv
      obtain ⟨s, hs, hagree⟩ := h.members m hm
      exact ((hagree v).1 (hall m hm s hs v hv)).1
    · refine ⟨ms, rfl, fun name v part hv hpart => ?_⟩
      obtain ⟨m, hm, rfl⟩ := List.mem_map.1 (h.parts name (exists_lookup_eq_some_iff.1 ⟨part, hpart⟩))
      obtain ⟨s, hs, hagree⟩ := h.members m hm
      exact ((hagree v).1 (hall m hm s hs v hv)).2 part hpart
  · intro hall m hm s hs v hv
    obtain ⟨hdecode, _, hms, hplain⟩ := hall
    cases hms
    obtain ⟨s', hs', hagree⟩ := h.members m hm
    cases hs.symm.trans hs'
    exact (hagree v).2 ⟨hdecode m hm v hv, fun part hpart => hplain _ v part hv hpart⟩

theorem DescribedBy.forall_present_iff (h : r.DescribedBy properties required parts)
    {ms : List (String × Json)} :
    (∀ name ∈ required, (ms.lookup name).isSome)
      ↔ ∀ m ∈ r.members, m.absent = .required → (ms.lookup m.name).isSome := by
  simp only [h.required.mem_iff, List.forall_mem_map, List.mem_filter, decide_eq_true_eq, and_imp]

/-- **THE SCHEMA AND THE DECODER OF A RECORD AGREE** if they do on each
member. -/
theorem DescribedBy.agreesWith (h : r.DescribedBy properties required parts) :
    r.codec.AgreesWith (.record properties required) (ObjectWith parts) := by
  intro v
  rw [Schema.admits_record_iff]
  cases v with
  | object ms =>
      have hdecode : (∃ s, r.decodeObject ms = .ok s) ↔ _ := exists_decodeObject_iff
      constructor
      · intro hv
        obtain ⟨_, hms, each, present⟩ := hv
        cases hms
        obtain ⟨hmembers, hplain⟩ := h.forall_admits_iff.1 each
        exact ⟨hdecode.2 ⟨hmembers, h.forall_present_iff.1 present⟩, hplain⟩
      · intro hv
        obtain ⟨hv, hplain⟩ := hv
        obtain ⟨hmembers, hpresent⟩ := hdecode.1 hv
        exact ⟨ms, rfl, h.forall_admits_iff.2 ⟨hmembers, hplain⟩, h.forall_present_iff.2 hpresent⟩
  | _ => simp [ObjectWith]

end Record

end EntitySchema
