/-
  EntitySchema.Proofs.Json.Omission
  ────────────────────────────────
  **OMISSIONS AND ADDITIONS.**

  A document may say less than it could, and more than it should: members
  that hold their default may be left out, and members nobody knows may
  stand in any object.

      written   {"name": "a", "tags": [], "edge": {"ref": "b", "comment": ""}}
      eased     {"edge": {"ref": "b", "color": "red"}, "name": "a"}

  A shape tells where a document has objects, which members they have and
  what the default of each is.  A codec tolerates a shape if whatever it has
  written, once eased, still reads back; lists, values that may be null and
  records tolerate their shapes if their parts do.

  Main result: `Record.tolerates`.
-/
import EntitySchema.Proofs.Json.Decoding

namespace EntitySchema

namespace Json

/-! ## §1. Shapes. -/

/-- What a document is made of.  A member of a record has its name, its
default unless it is required, and its own shape. -/
inductive Shape where
  | leaf
  | list (items : Shape)
  | nullable (body : Shape)
  | record (members : List (String × Option Json × Shape))

namespace Shape

/-- Member that must be there. -/
def needed (name : String) (shape : Shape) : String × Option Json × Shape := (name, none, shape)

/-- Member that may be left out when it holds its default. -/
def omissible (name : String) (default : Json) (shape : Shape) : String × Option Json × Shape :=
  (name, some default, shape)

/-- Object that holds the default of each member which has one. -/
def defaults (members : List (String × Option Json × Shape)) : Json :=
  .object (members.filterMap fun m => m.2.1.map (m.1, ·))

end Shape

/-! ## §2. Eased documents. -/

/-- What becomes of a member: it is kept, what it holds being eased by `R`, or
it holds its default and is left out. -/
inductive MemberEased (R : Shape → Json → Json → Prop) :
    Option Json × Shape → Option Json → Option Json → Prop
  | kept {default : Option Json} {shape : Shape} {v w : Json} (h : R shape v w) :
      MemberEased R (default, shape) (some v) (some w)
  | left {shape : Shape} {d : Json} : MemberEased R (some d, shape) (some d) none

/-- A document with some defaults left out, at any depth, and with any members
of other names in its objects. -/
inductive Eased : Shape → Json → Json → Prop
  | unchanged {shape : Shape} (v : Json) : Eased shape v v
  | nil {items : Shape} : Eased (.list items) (.array []) (.array [])
  | cons {items : Shape} {v w : Json} {vs ws : List Json} (item : Eased items v w)
      (rest : Eased (.list items) (.array vs) (.array ws)) :
      Eased (.list items) (.array (v :: vs)) (.array (w :: ws))
  | nullable {body : Shape} {v w : Json} (h : Eased body v w) : Eased (.nullable body) v w
  | record {members : List (String × Option Json × Shape)} {ms ns : List (String × Json)}
      (h : ∀ m ∈ members, MemberEased Eased m.2 (ms.lookup m.1) (ns.lookup m.1)) :
      Eased (.record members) (.object ms) (.object ns)

namespace Eased

variable {shape items : Shape} {v w : Json}

theorem eq_of_leaf (h : Eased .leaf v w) : w = v := by
  cases h
  rfl

theorem exists_of_list {vs : List Json} (h : Eased (.list items) (.array vs) w) :
    ∃ ws, w = .array ws ∧ List.Forall₂ (Eased items) vs ws := by
  induction vs generalizing w with
  | nil =>
      cases h with
      | unchanged => exact ⟨[], rfl, .nil⟩
      | nil => exact ⟨[], rfl, .nil⟩
  | cons v vs ih =>
      cases h with
      | unchanged => exact ⟨v :: vs, rfl, List.forall₂_same.2 fun v _ => .unchanged v⟩
      | cons hitem hrest =>
          obtain ⟨ws, hws, hvs⟩ := ih hrest
          cases hws
          exact ⟨_, rfl, .cons hitem hvs⟩

/-- Nothing becomes null, and null becomes nothing else. -/
theorem eq_null_iff : ∀ {shape : Shape} {v w : Json}, Eased shape v w → (w = .null ↔ v = .null)
  | _, _, _, unchanged _ => Iff.rfl
  | _, _, _, nil => Iff.rfl
  | _, _, _, cons _ _ => iff_of_false nofun nofun
  | _, _, _, nullable h => h.eq_null_iff
  | _, _, _, record _ => iff_of_false nofun nofun

end Eased
end Json

open Json (Shape Eased MemberEased)

/-! ## §3. Codecs. -/

/-- What a codec has written reads back, once eased. -/
def Codec.Tolerates {α : Type} (c : Codec α) (shape : Shape) : Prop :=
  ∀ a w, Eased shape (c.encode a) w → c.decode w = .ok a

namespace Codec

variable {α : Type} {c : Codec α} {shape : Shape}

namespace Tolerates

theorem decode_encode (h : c.Tolerates shape) (a : α) : c.decode (c.encode a) = .ok a :=
  h a _ (.unchanged _)

theorem encode_inj (h : c.Tolerates shape) {a b : α} (heq : c.encode a = c.encode b) : a = b := by
  have hdecode := h.decode_encode a
  rw [heq, h.decode_encode b] at hdecode
  exact (Except.ok.inj hdecode).symm

theorem of_leaf (h : ∀ a, c.decode (c.encode a) = .ok a) : c.Tolerates .leaf := by
  intro a w hw
  rw [hw.eq_of_leaf, h a]

theorem list (h : c.Tolerates shape) : (Codec.list c).Tolerates (.list shape) := by
  intro as w hw
  obtain ⟨ws, rfl, hitems⟩ := hw.exists_of_list
  rw [List.forall₂_map_left_iff] at hitems
  exact list_decode_eq_ok_iff.2 ⟨ws, rfl, hitems.flip.imp fun w a hw => h a w hw⟩

/-- Null stands for no value, so no value may be written as null. -/
theorem option (h : c.Tolerates shape) (hne : ∀ a, c.encode a ≠ .null) :
    (Codec.option c).Tolerates (.nullable shape) := by
  intro r w hw
  cases r with
  | none =>
      rw [hw.eq_null_iff.2 rfl]
      rfl
  | some a =>
      have hnull : w ≠ .null := mt hw.eq_null_iff.1 (hne a)
      have hbody : c.decode w = .ok a := by
        cases hw with
        | unchanged => exact h.decode_encode a
        | nullable hbody => exact h a w hbody
      exact (option_decode_eq_ok_iff hnull).2 ⟨a, hbody, rfl⟩

end Tolerates

theorem text_tolerates : Codec.text.Tolerates .leaf := .of_leaf fun _ => rfl

theorem bool_tolerates : Codec.bool.Tolerates .leaf := .of_leaf fun _ => rfl

theorem texts_tolerates : (Codec.list .text).Tolerates (.list .leaf) := text_tolerates.list

theorem optionText_tolerates : (Codec.option .text).Tolerates (.nullable .leaf) :=
  text_tolerates.option fun _ => nofun

end Codec

/-! ## §4. Records. -/

/-- Members with their shapes: starting from `t`, those of `s` are set one
after the other, and what a default would set is there already. -/
inductive Member.Tolerate {σ : Type} (s : σ) :
    σ → List (Member σ) → List (String × Option Json × Shape) → Prop
  | nil : Tolerate s s [] []
  | needed {t : σ} {α : Type} {name : String} {absent : Absent} {c : Codec α} {get : σ → α}
      {put : α → σ → σ} {shape : Shape} {members : List (Member σ)}
      {shapes : List (String × Option Json × Shape)} (codec : c.Tolerates shape)
      (rest : Tolerate s (put (get s) t) members shapes) :
      Tolerate s t (.of name absent c get put :: members) (Shape.needed name shape :: shapes)
  | omissible {t : σ} {α : Type} {name : String} {absent : Absent} {c : Codec α} {get : σ → α}
      {put : α → σ → σ} {shape : Shape} {d : Json} {members : List (Member σ)}
      {shapes : List (String × Option Json × Shape)} (codec : c.Tolerates shape) (a : α)
      (default : c.encode a = d) (other : absent ≠ .required) (already : put a t = t)
      (rest : Tolerate s (put (get s) t) members shapes) :
      Tolerate s t (.of name absent c get put :: members) (Shape.omissible name d shape :: shapes)

namespace Member

variable {σ α : Type} {s t : σ} {ms ns : List (String × Json)}

/-- A member that is kept sets what it has got. -/
theorem slot_of_kept {name : String} {absent : Absent} {c : Codec α} {get : σ → α}
    {put : α → σ → σ} {shape : Shape} {w : Json} (hc : c.Tolerates shape)
    (h : Eased shape (c.encode (get s)) w) (hw : ns.lookup name = some w) :
    Record.slot ns (.of name absent c get put) = .ok (put (get s)) := by
  have hlookup : ns.lookup (Member.of name absent c get put).name = some w := hw
  rw [Record.slot, hlookup]
  exact map_eq_ok_iff.2 ⟨get s, hc _ _ h, rfl⟩

theorem slot_of_left {m : Member σ} (hw : ns.lookup m.name = none) :
    Record.slot ns m = .ok id := by
  rw [Record.slot, hw]

/-- Members that are kept or left out make up the record again. -/
theorem Tolerate.exists_effects {members : List (Member σ)}
    {shapes : List (String × Option Json × Shape)} (h : Tolerate s t members shapes)
    (hms : ∀ m ∈ members, ms.lookup m.name = some (m.encode s))
    (hns : ∀ e ∈ shapes, ∀ v, ms.lookup e.1 = some v →
      MemberEased Eased e.2 (some v) (ns.lookup e.1)) :
    ∃ fs, List.Forall₂ (fun m f => Record.slot ns m = .ok f) members fs
      ∧ (∀ m ∈ members, m.absent = .required → (ns.lookup m.name).isSome)
      ∧ fs.foldl (fun s f => f s) t = s := by
  induction h with
  | nil => exact ⟨[], .nil, List.forall_mem_nil _, rfl⟩
  | @needed t α name absent c get put shape members shapes codec rest ih =>
      obtain ⟨hhead, hms⟩ := List.forall_mem_cons.1 hms
      obtain ⟨hmember, hns⟩ := List.forall_mem_cons.1 hns
      obtain ⟨fs, hfs, hpresent, hs⟩ := ih hms hns
      have hmember : MemberEased Eased (none, shape) _ (ns.lookup name) := hmember _ hhead
      generalize hw : ns.lookup name = w at hmember
      cases hmember with
      | kept heased =>
          have hsome : (ns.lookup name).isSome := hw ▸ rfl
          exact ⟨_, .cons (slot_of_kept codec heased hw) hfs,
            List.forall_mem_cons.2 ⟨fun _ => hsome, hpresent⟩, hs⟩
  | @omissible t α name absent c get put shape d members shapes codec a default other already
      rest ih =>
      obtain ⟨hhead, hms⟩ := List.forall_mem_cons.1 hms
      obtain ⟨hmember, hns⟩ := List.forall_mem_cons.1 hns
      obtain ⟨fs, hfs, hpresent, hs⟩ := ih hms hns
      have hpresent : ∀ m ∈ Member.of name absent c get put :: members, m.absent = .required →
          (ns.lookup m.name).isSome :=
        List.forall_mem_cons.2 ⟨fun h => absurd h other, hpresent⟩
      have hmember : MemberEased Eased (some d, shape) _ (ns.lookup name) := hmember _ hhead
      generalize hv : (Member.of name absent c get put).encode s = v at hmember
      generalize hw : ns.lookup name = w at hmember
      cases hmember with
      | kept heased =>
          rw [← hv] at heased
          exact ⟨_, .cons (slot_of_kept codec heased hw) hfs, hpresent, hs⟩
      | left =>
          -- the member held its default, which the record so far has anyway
          have hget : get s = a := codec.encode_inj (hv.trans default.symm)
          rw [hget, already] at hs
          exact ⟨_, .cons (slot_of_left hw) hfs, hpresent, hs⟩

end Member

/-- **OMISSIONS AND ADDITIONS ARE TOLERATED** by a record if its members
tolerate them. -/
theorem Record.tolerates {σ : Type} {r : Record σ} {shapes : List (String × Option Json × Shape)}
    (hdistinct : (r.members.map (·.name)).Nodup)
    (h : ∀ s, Member.Tolerate s r.blank r.members shapes) : r.codec.Tolerates (.record shapes) := by
  intro s w hw
  have hobject : ∃ ns, w = .object ns ∧ ∀ e ∈ shapes, ∀ v,
      (r.members.map fun m => (m.name, m.encode s)).lookup e.1 = some v →
        MemberEased Eased e.2 (some v) (ns.lookup e.1) := by
    -- an object that was not touched has kept every member
    cases hw with
    | unchanged =>
        refine ⟨_, rfl, fun e _ v hv => ?_⟩
        rw [hv]
        exact .kept (.unchanged v)
    | record hmembers =>
        refine ⟨_, rfl, fun e he v hv => ?_⟩
        have hmember := hmembers e he
        rwa [hv] at hmember
  obtain ⟨ns, rfl, hns⟩ := hobject
  exact decodeObject_eq_ok_iff.2 ((h s).exists_effects (fun _ => lookup_encode hdistinct s) hns)

end EntitySchema
