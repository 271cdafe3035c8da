/-
  EntitySchema.Proofs.Json.Decoding
  ────────────────────────────────
  **WHEN DECODING SUCCEEDS.**

  Which fault of several is reported takes an order of members to say;
  success does not.  A list decodes iff its items do, and an object iff each
  known member does that it has, none that is required being absent:

      record   name required   kind required   repeated default
      object   name "x"        kind "bool"                        decodes

  Main result: `decodeObject_eq_ok_iff`.
-/
import EntitySchema.Json.Codec
import EntitySchema.Proofs.Sequence

namespace EntitySchema

/-! ## §1. Plain values. -/

namespace Codec

variable {α : Type} {c : Codec α}

theorem text_decode_eq_ok_iff {v : Json} {s : String} :
    Codec.text.decode v = .ok s ↔ v = .text s := by
  cases v <;> simp [text, textNamed]

theorem bool_decode_eq_ok_iff {v : Json} {b : Bool} :
    Codec.bool.decode v = .ok b ↔ v = .bool b := by
  cases v <;> simp [bool]

/-- What is not null is a value if it decodes. -/
theorem option_decode_eq_ok_iff {v : Json} (h : v ≠ .null) {r : Option α} :
    (Codec.option c).decode v = .ok r ↔ ∃ a, c.decode v = .ok a ∧ some a = r := by
  rw [← map_eq_ok_iff]
  cases v with
  | null => exact absurd rfl h
  | _ => rfl

theorem decodeAll_eq_ok_iff {vs : List Json} {as : List α} :
    decodeAll c vs = .ok as ↔ List.Forall₂ (fun v a => c.decode v = .ok a) vs as := by
  induction vs generalizing as with
  | nil =>
      rw [decodeAll, List.forall₂_nil_left_iff, Except.ok.injEq]
      exact eq_comm
  | cons v vs ih =>
      rw [decodeAll, bind_eq_ok_iff, List.forall₂_cons_left_iff]
      simp only [bind_eq_ok_iff, pure_eq_ok_iff, ih]
      constructor
      · intro h
        obtain ⟨a, ha, as', has, h⟩ := h
        exact ⟨a, as', ha, has, h.symm⟩
      · intro h
        obtain ⟨a, as', ha, has, h⟩ := h
        exact ⟨a, ha, as', has, h.symm⟩

theorem list_decode_eq_ok_iff {v : Json} {as : List α} :
    (Codec.list c).decode v = .ok as
      ↔ ∃ vs, v = .array vs ∧ List.Forall₂ (fun v a => c.decode v = .ok a) vs as := by
  cases v <;> simp [list, decodeAll_eq_ok_iff]

end Codec

/-! ## §2. Records. -/

namespace Record

variable {σ : Type} {ms : List (String × Json)} {members : List (Member σ)}

/-- An object has no faulty member iff each one has an effect. -/
theorem leastFault_eq_none_iff :
    leastFault ms members = none ↔ ∃ fs, List.Forall₂ (fun m f => slot ms m = .ok f) members fs := by
  induction members with
  | nil => simp [leastFault]
  | cons m rest ih =>
      simp only [List.forall₂_cons_left_iff, leastFault]
      cases slot ms m with
      | error e =>
          cases leastFault ms rest with
          | none => simp
          | some found =>
              dsimp only
              split <;> simp
      | ok f =>
          dsimp only
          rw [ih]
          constructor
          · intro h
            obtain ⟨fs, hfs⟩ := h
            exact ⟨f :: fs, f, fs, rfl, hfs, rfl⟩
          · intro h
            obtain ⟨-, -, fs, -, hfs, -⟩ := h
            exact ⟨fs, hfs⟩

theorem firstMissing_eq_none_iff :
    firstMissing ms members = none
      ↔ ∀ m ∈ members, m.absent = .required → (ms.lookup m.name).isSome := by
  simp [firstMissing, List.find?_eq_none, Option.isSome_iff_ne_none]

/-- The record read is the blank one after the effects of all members. -/
theorem fill_eq {fs : List (σ → σ)} (h : List.Forall₂ (fun m f => slot ms m = .ok f) members fs)
    (s : σ) : fill ms members s = fs.foldl (fun s f => f s) s := by
  induction h generalizing s with
  | nil => rfl
  | cons hf _ ih =>
      rw [List.foldl_cons, ← ih, fill, List.foldl_cons, hf]
      rfl

/-- A member is found under its name in what is written. -/
theorem lookup_encode {r : Record σ} (hdistinct : (r.members.map (·.name)).Nodup) (s : σ)
    {m : Member σ} (hm : m ∈ r.members) :
    (r.members.map fun m => (m.name, m.encode s)).lookup m.name = some (m.encode s) := by
  rw [lookup_eq_some_iff_mem]
  · exact List.mem_map.2 ⟨m, hm, rfl⟩
  · rw [List.map_map]
    exact hdistinct

/-- **WHEN AN OBJECT IS A RECORD**: each member has an effect, and the
required ones are there. -/
theorem decodeObject_eq_ok_iff {r : Record σ} {s : σ} :
    r.decodeObject ms = .ok s
      ↔ ∃ fs, List.Forall₂ (fun m f => slot ms m = .ok f) r.members fs
        ∧ (∀ m ∈ r.members, m.absent = .required → (ms.lookup m.name).isSome)
        ∧ fs.foldl (fun s f => f s) r.blank = s := by
  rw [← firstMissing_eq_none_iff]
  unfold decodeObject
  -- what is wrong in a member is told before what is missing, and a success has neither
  constructor
  · intro h
    split at h
    · cases h
    next hfault =>
      split at h
      · cases h
      next hmissing =>
        obtain ⟨fs, hfs⟩ := leastFault_eq_none_iff.1 hfault
        exact ⟨fs, hfs, hmissing, (fill_eq hfs _).symm.trans (Except.ok.inj h)⟩
  · intro h
    obtain ⟨fs, hfs, hmissing, rfl⟩ := h
    rw [leastFault_eq_none_iff.2 ⟨fs, hfs⟩, hmissing, ← fill_eq hfs]

end Record
end EntitySchema
