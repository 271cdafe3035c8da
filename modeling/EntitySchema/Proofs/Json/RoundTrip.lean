/-
  EntitySchema.Proofs.Json.RoundTrip
  ────────────────────────────────
  **WHAT IS WRITTEN READS BACK.**

  A codec is faithful if decoding what it has written gives the value again,
  wherever the members of an object have come to stand:

      write   {"name": "a", "kind": "b"}
      read    {"kind": "b", "name": "a"}     the same value

  Each combinator keeps faith, so a record does if its members do.  What a
  faithful codec writes is plain: it has no numbers, no name twice in an
  object, and only so many containers inside each other.

  Main results: `Codec.Faithful.list`, `Codec.Faithful.option`, `Record.codec_faithful`.
-/
import EntitySchema.Proofs.Json.Decoding

namespace EntitySchema

/-! ## §1. Documents up to the order of members. -/

namespace Json

/-- The same document, the members of an object being told by their names. -/
inductive Same : Json → Json → Prop
  | null : Same .null .null
  | bool (b : Bool) : Same (.bool b) (.bool b)
  | int (n : Int) : Same (.int n) (.int n)
  | float (x : Decimal.Binary64) : Same (.float x) (.float x)
  | text (s : String) : Same (.text s) (.text s)
  | array {vs ws : List Json} (items : List.Forall₂ Same vs ws) : Same (.array vs) (.array ws)
  | object {ms ns : List (String × Json)}
      (members : ∀ name, Option.Rel Same (ms.lookup name) (ns.lookup name)) :
      Same (.object ms) (.object ns)

/-- A document without numbers and repeated names that has at most `room`
containers inside each other. -/
inductive Plain : (room : Nat) → Json → Prop
  | null {room : Nat} : Plain room .null
  | bool {room : Nat} (b : Bool) : Plain room (.bool b)
  | text {room : Nat} (s : String) : Plain room (.text s)
  | array {room : Nat} {vs : List Json} (items : ∀ v ∈ vs, Plain room v) :
      Plain (room + 1) (.array vs)
  | object {room : Nat} {ms : List (String × Json)} (distinct : (ms.map (·.1)).Nodup)
      (members : ∀ m ∈ ms, Plain room m.2) : Plain (room + 1) (.object ms)

theorem Plain.same_self {room : Nat} {v : Json} (h : v.Plain room) : v.Same v := by
  induction h with
  | null => exact .null
  | bool b => exact .bool b
  | text s => exact .text s
  | array items ih => exact .array (List.forall₂_same.2 ih)
  | @object room ms distinct members ih =>
      refine .object fun name => ?_
      cases hv : ms.lookup name with
      | none => exact .none
      | some v => exact .some (ih _ ((lookup_eq_some_iff_mem distinct).1 hv))

end Json

/-! ## §2. Faithful codecs. -/

/-- Whatever is written is plain, and reads back in any order of members. -/
structure Codec.Faithful {α : Type} (c : Codec α) (room : Nat) : Prop where
  plain : ∀ a, (c.encode a).Plain room
  reads : ∀ a v, (c.encode a).Same v → c.decode v = .ok a

namespace Codec

variable {α β : Type} {c : Codec α} {room : Nat}

theorem text_faithful : Codec.text.Faithful room where
  plain s := .text s
  reads s v h := by
    cases h
    rfl

theorem bool_faithful : Codec.bool.Faithful room where
  plain b := .bool b
  reads b v h := by
    cases h
    rfl

namespace Faithful

theorem list (h : c.Faithful room) : (Codec.list c).Faithful (room + 1) where
  plain as := by
    refine .array fun v hv => ?_
    obtain ⟨a, -, rfl⟩ := List.mem_map.1 hv
    exact h.plain a
  reads as v hv := by
    cases hv with
    | array hitems =>
        refine list_decode_eq_ok_iff.2 ⟨_, rfl, ?_⟩
        rw [List.forall₂_map_left_iff] at hitems
        exact hitems.flip.imp fun v a hv => h.reads a v hv

/-- Null stands for no value, so no value may be written as null. -/
theorem option (h : c.Faithful room) (hne : ∀ a, c.encode a ≠ .null) :
    (Codec.option c).Faithful room where
  plain
    | none => .null
    | some a => h.plain a
  reads
    | none, _, hv => by
        cases hv
        rfl
    | some a, v, hv => by
        have hv : (c.encode a).Same v := hv
        have hnull : v ≠ .null := by
          rintro rfl
          generalize hw : c.encode a = w at hv
          cases hv
          exact hne a hw
        exact (option_decode_eq_ok_iff hnull).2 ⟨a, h.reads a v hv, rfl⟩

theorem map (h : c.Faithful room) {wrap : α → β} {unwrap : β → α}
    (hid : ∀ b, wrap (unwrap b) = b) : (c.map wrap unwrap).Faithful room where
  plain b := h.plain (unwrap b)
  reads b v hv := map_eq_ok_iff.2 ⟨unwrap b, h.reads (unwrap b) v hv, hid b⟩

end Faithful

/-- Names that are told apart stand for their values. -/
theorem variant_faithful {known : List (String × α)} {name : α → String}
    (h : ∀ a, known.lookup (name a) = some a) : (Codec.variant known name).Faithful room where
  plain a := .text (name a)
  reads a v hv := by
    cases hv
    show decodeName known (name a) = .ok a
    rw [decodeName, h a]

end Codec

/-! ## §3. Faithful records. -/

/-- What is written of a record's member is plain, and reading it has the
given effect. -/
structure Member.Writes {σ : Type} (room : Nat) (s : σ) (m : Member σ) (f : σ → σ) : Prop where
  plain : (m.encode s).Plain room
  reads : ∀ v, (m.encode s).Same v → m.decode v = .ok f

namespace Member

variable {σ α : Type} {room : Nat}

/-- A member with a faithful codec sets what it has got. -/
theorem writes_of {name : String} {absent : Absent} {c : Codec α} {get : σ → α}
    {put : α → σ → σ} (h : c.Faithful room) (s : σ) :
    (Member.of name absent c get put).Writes room s (put (get s)) where
  plain := h.plain (get s)
  reads v hv := map_eq_ok_iff.2 ⟨get s, h.reads (get s) v hv, rfl⟩

end Member

/-- A record whose members have names of their own, and whose value is that
of all its members. -/
structure Record.Faithful {σ : Type} (r : Record σ) (room : Nat) : Prop where
  distinct : (r.members.map (·.name)).Nodup
  members : ∀ s, ∃ fs, List.Forall₂ (Member.Writes room s) r.members fs
    ∧ fs.foldl (fun t f => f t) r.blank = s

namespace Record

variable {σ : Type} {r : Record σ} {room : Nat}

/-- Members that stand in an object as they were written read back. -/
theorem Faithful.decodeObject_eq (h : r.Faithful room) {s : σ} {ns : List (String × Json)}
    (hns : ∀ m ∈ r.members, ∃ v, ns.lookup m.name = some v ∧ (m.encode s).Same v) :
    r.decodeObject ns = .ok s := by
  obtain ⟨fs, hfs, hs⟩ := h.members s
  refine decodeObject_eq_ok_iff.2 ⟨fs, ?_, ?_, hs⟩
  · refine forall₂_imp_of_mem hfs fun m hm f hf => ?_
    obtain ⟨v, hv, hsame⟩ := hns m hm
    rw [slot, hv]
    exact hf.reads v hsame
  · intro m hm _
    obtain ⟨v, hv, -⟩ := hns m hm
    rw [hv]
    rfl

/-- **WHAT IS WRITTEN READS BACK**: a record keeps faith if its members do. -/
theorem Faithful.codec (h : r.Faithful room) : r.codec.Faithful (room + 1) where
  plain s := by
    obtain ⟨fs, hfs, -⟩ := h.members s
    refine .object ?_ ?_
    · rw [List.map_map]
      exact h.distinct
    · intro e he
      obtain ⟨m, hm, rfl⟩ := List.mem_map.1 he
      obtain ⟨f, -, hf⟩ := exists_right_of_mem hfs m hm
      exact hf.plain
  reads s v hv := by
    cases hv with
    | object hmembers =>
        refine h.decodeObject_eq fun m hm => ?_
        have hrel := hmembers m.name
        rw [lookup_encode h.distinct s hm] at hrel
        generalize hw : List.lookup m.name _ = w at hrel
        cases hrel with
        | some hsame => exact ⟨_, rfl, hsame⟩

end Record
end EntitySchema
