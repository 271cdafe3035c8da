/-
  EntitySchema.Proofs.Compilation.FieldKeys
  ────────────────────────────────
  **ONE KEY PER FIELD.**

  A field has its part in sort keys as an attribute, as an edge to one
  object or as an edge to many.  The first two start from the storage name,
  which is a made name already, the third from the declared one:

      topPick   attribute      sortKey (snake "topPick")   TOP_PICK
                one object     sortKey (snake "topPick")   TOP_PICK_TITLE
                many objects   sortKey "topPick"           TOP_PICK_COUNT

  Changes of case absorb one another in ASCII names, so all three come to
  the sort key of the declared name.

  Main result: `one_key_per_field`.
-/
import EntitySchema.Proofs.Compilation.MemberNames
import EntitySchema.Proofs.Compilation.SortKeys
import EntitySchema.Proofs.Identifier.Absorption

namespace EntitySchema

open Identifier Text

variable {o : CompileOptions} {f : FieldDescriptor}

/-! ## §1. Where a field is keyed. -/

/-- Wherever a field has its part in sort keys, that part is `key`. -/
structure FieldDescriptor.KeyedBy (f : FieldDescriptor) (key : String) : Prop where
  /-- The attribute of the field is sorted by the key, if it can be sorted by. -/
  own : ∀ o entity a, classify o entity f = .ok a →
    a.orderKeys = if a.isSortable then [key] else []
  /-- Over an edge to its entity, the key of the attribute comes second. -/
  reached : ∀ o entity a, classify o entity f = .ok a → sortKey a.name = key
  /-- The edge of the field to one object: the key comes first. -/
  single : ∀ c owner standing d, Catalog.resolve c owner standing f = .ok d → d.unique = true →
    ∃ t, c.get? (f.target?.getD "") = some t ∧ d.annotations = t.orderable.map fun a =>
      .orderField (key ++ "_" ++ sortKey a.name)
  /-- The edge of the field to many objects: they are counted by the key, if
  the owner has more lists of such objects, and by their own name if not. -/
  several : ∀ c owner standing d, Catalog.resolve c owner standing f = .ok d → d.unique = false →
    d.annotations = [.relayConnection,
      .orderField ((if 2 ≤ ((owner.referencesTo d.target).filter (·.repeated)).length then key
        else sortKey d.target) ++ "_COUNT")]

theorem sortKey_of_classify (hf : Ascii f.name.toList) {entity : String} {a : Attribute}
    (h : classify o entity f = .ok a) : sortKey a.name = sortKey f.name := by
  rw [name_of_classify h, declaredName_of_classify h, sortKey_snake hf]

/-- What an edge is annotated with, from the entries at both ends. -/
theorem Catalog.annotations_of_resolve {c : Catalog} {owner : CatalogEntry} {standing : Standing}
    {d : Edge} (h : c.resolve owner standing f = .ok d) :
    ∃ t, c.get? (f.target?.getD "") = some t ∧ d.target = t.name
      ∧ d.annotations = edgeAnnotations owner t f d.unique := by
  obtain ⟨t, g, hpair, rfl⟩ := resolve_eq_ok_iff.1 h
  exact ⟨t, get?_of_pair hpair, rfl, rfl⟩

/-- The name whose number is a sort key, after the change of case. -/
theorem sortKey_countBase (owner : CatalogEntry) (f : FieldDescriptor) (target : String) :
    sortKey (countBase owner f target)
      = if 2 ≤ ((owner.referencesTo target).filter (·.repeated)).length then sortKey f.name
        else sortKey target := by
  rw [countBase, apply_ite sortKey]
  rfl

/-- **A field of an ASCII name is keyed by its declared name** everywhere. -/
theorem FieldDescriptor.keyedBy_sortKey (hf : Ascii f.name.toList) :
    f.KeyedBy (sortKey f.name) where
  own o entity a h := by
    -- the attribute is keyed by its storage name, which absorption takes back
    rw [orderKeys_of_classify h, sortKey_of_classify hf h]
  reached o entity a h := sortKey_of_classify hf h
  single c owner standing d h hunique := by
    obtain ⟨t, ht, -, hannotations⟩ := Catalog.annotations_of_resolve h
    refine ⟨t, ht, ?_⟩
    rw [hannotations, hunique, edgeAnnotations, if_pos rfl, uniqueEdgeAnnotations,
      sortKey_snake hf]
  several c owner standing d h hmany := by
    obtain ⟨t, -, htarget, hannotations⟩ := Catalog.annotations_of_resolve h
    rw [hannotations, hmany, edgeAnnotations, if_neg Bool.false_ne_true, sortKey_countBase, htarget]

/-! ## §2. One key. -/

/-- **ONE KEY PER FIELD**: changes of case absorb one another in ASCII names,
and so a field has one key, whichever of its names it is made from. -/
theorem one_key_per_field {name : String} (h : Ascii name.toList) :
    snake (snake name) = snake name
      ∧ sortKey (snake name) = sortKey name
      ∧ snake (sortKey name) = snake name
      ∧ pascal (snake name) = pascal name
      ∧ ∀ f : FieldDescriptor, f.name = name → f.KeyedBy (sortKey name) := by
  refine ⟨snake_snake h, sortKey_snake h, snake_sortKey h, pascal_snake h, ?_⟩
  rintro f rfl
  exact FieldDescriptor.keyedBy_sortKey h

/-- Three entities have a top pick: a text, a book, and a list of books beside
another one. -/
def pickedBooks : DescriptorSet :=
  ⟨[{ name := "Shelf", generate := true, fields := [{ name := "topPick", kind := .string }] },
    { name := "Reader", generate := true, fields := [.ofMessage "topPick" "Book"] },
    { name := "Critic", generate := true,
      fields := [(FieldDescriptor.ofMessage "topPick" "Book").asRepeated,
        (FieldDescriptor.ofMessage "panned" "Book").asRepeated] },
    { name := "Book", generate := true,
      fields := [{ name := "title", kind := .string },
        (FieldDescriptor.ofMessage "readers" "Reader").asRepeated,
        (FieldDescriptor.ofMessage "picker" "Critic").withRef "topPick",
        (FieldDescriptor.ofMessage "panner" "Critic").withRef "panned"] }]⟩

theorem pickedBooks_keyed :
    Ascii "topPick".toList
      ∧ snake (snake "topPick") = "top_pick" ∧ sortKey (snake "topPick") = "TOP_PICK"
      ∧ snake (sortKey "topPick") = "top_pick" ∧ pascal (snake "topPick") = "TopPick"
      ∧ (∃ a, classify {} "Shelf" { name := "topPick", kind := .string } = .ok a
        ∧ a.orderKeys = ["TOP_PICK"])
      ∧ ∃ c, Catalog.build {} pickedBooks = .ok c
        ∧ (∃ reader ∈ c.get? "Reader", ∃ d,
          c.resolve reader .declared (.ofMessage "topPick" "Book") = .ok d
            ∧ d.annotations = [.orderField "TOP_PICK_TITLE"])
        ∧ ∃ critic ∈ c.get? "Critic", ∃ d,
          c.resolve critic .declared (FieldDescriptor.ofMessage "topPick" "Book").asRepeated = .ok d
            ∧ d.annotations = [.relayConnection, .orderField "TOP_PICK_COUNT"] := by
  have hascii : Ascii "topPick".toList := List.all_eq_true.1 (by decide)
  obtain ⟨hsnake, hkey, hback, hpascal, hkeyed⟩ := one_key_per_field hascii
  have hname : snake "topPick" = "top_pick" := by decide +kernel
  have htop : sortKey "topPick" = "TOP_PICK" := by decide +kernel
  have htype : pascal "topPick" = "TopPick" := by decide +kernel
  rw [htop] at hkeyed
  let c : Catalog := (Catalog.build {} pickedBooks).toOption.getD .empty
  refine ⟨hascii, hsnake.trans hname, hkey.trans htop, hback.trans hname, hpascal.trans htype,
    ⟨_, rfl, ?_⟩, c, rfl, ⟨c.entries[1], rfl, _, rfl, ?_⟩, c.entries[2], rfl, _, rfl, ?_⟩
  · exact (hkeyed { name := "topPick", kind := .string } rfl).own {} "Shelf" _ rfl
  · obtain ⟨book, hbook, hannotations⟩ := (hkeyed (.ofMessage "topPick" "Book") rfl).single c
      c.entries[1] .declared _ rfl rfl
    obtain rfl : c.entries[3] = book := Option.some.inj hbook
    have htitle : (c.entries[3].orderable.map fun a =>
        Annotation.orderField ("TOP_PICK" ++ "_" ++ sortKey a.name))
          = [.orderField "TOP_PICK_TITLE"] := by decide +kernel
    exact hannotations.trans htitle
  · exact (hkeyed (FieldDescriptor.ofMessage "topPick" "Book").asRepeated rfl).several c
      c.entries[2] .declared _ rfl rfl

end EntitySchema
