/-
  EntitySchema.Proofs.Bounds
  ────────────────────────────────
  **NOTHING IS OUT OF BOUNDS.**

  Four operations can miss: a text is cut by offsets in bytes, where it may
  have no boundary; an entry is fetched at a position, where the catalog may
  have none; and a count is taken from another one, which may be less.

      plural      cut before the last byte, if a copy of the name in small
                  letters ends in a `y`
      raw tag     cut behind the first byte and before the last, if there
                  is a backquote at either end of two bytes or more
      lookup      fetched at the position of the name
      skipped     entries of the catalog taken from the messages of the set

  Each is written here the way it may miss, and shown to give what it should.

  Main result: `nothing_out_of_bounds`.
-/
import EntitySchema.Proofs.Catalog.Contents
import EntitySchema.Proofs.Identifier.Plural
import EntitySchema.Proofs.Source.StructTag
import EntitySchema.Proofs.Text.Bytes

namespace EntitySchema

open Text (slice? slice?_append)

/-- Difference of two counts, unless it is below zero. -/
def minus? (a b : Nat) : Option Nat := if b ≤ a then some (a - b) else none

theorem minus?_eq {a b : Nat} (h : b ≤ a) : minus? a b = some (a - b) := if_pos h

/-! ## §1. Plurals. -/

namespace Identifier

/-- Plural of a name, cut by its bytes. -/
def plural? (name : String) : Option String :=
  if endsInSoftY name.toList then do
    let cut ← minus? name.utf8ByteSize 1
    let stem ← slice? name 0 cut
    return stem ++ "ies"
  else if hisses name.toList then some (name ++ "es")
  else some (name ++ "s")

/-- Without its last byte a name that ends in a soft `y` is its stem. -/
theorem exists_stem {name : String} (h : endsInSoftY name.toList = true) :
    ∃ w c, name.toList = w ++ [c]
      ∧ minus? name.utf8ByteSize 1 = some (String.ofList w).utf8ByteSize
      ∧ slice? name 0 (String.ofList w).utf8ByteSize = some (String.ofList w) := by
  obtain ⟨w, c, hname, hc⟩ := exists_of_endsInSoftY h
  have hparts : name = String.ofList w ++ String.singleton c := by
    rw [← String.toList_inj, hname]
    simp
  -- the last letter is one byte, so the byte before the end begins it
  have hletter : (String.singleton c).utf8ByteSize = 1 := by
    rcases hc with rfl | rfl <;> decide
  have hsize : name.utf8ByteSize = (String.ofList w).utf8ByteSize + 1 := by
    rw [hparts, String.utf8ByteSize_append, hletter]
  have hslice := slice?_append "" (String.ofList w) (String.singleton c)
  rw [String.empty_append, ← hparts, String.utf8ByteSize_empty, Nat.zero_add] at hslice
  refine ⟨w, c, hname, ?_, hslice⟩
  rw [hsize, minus?_eq (Nat.le_add_left 1 _), Nat.add_sub_cancel]

/-- **The cut of a plural never misses**: a letter that is a `y` in small
letters is one byte long. -/
theorem plural?_eq (name : String) : plural? name = some (plural name) := by
  have hplural : ∀ t : String, t.toList = pluralText name.toList → plural name = t := by
    intro t ht
    rw [← String.toList_inj, toList_plural, ht]
  unfold plural?
  by_cases hsoft : endsInSoftY name.toList = true
  · obtain ⟨w, c, hname, hminus, hcut⟩ := exists_stem hsoft
    rw [if_pos hsoft, hminus]
    show (slice? name 0 (String.ofList w).utf8ByteSize).bind (fun stem => some (stem ++ "ies")) = _
    rw [hcut, Option.bind_some, hplural (String.ofList w ++ "ies")]
    rw [hname, pluralText_of_softY (hname ▸ hsoft)]
    simp
  · rw [if_neg hsoft]
    rw [Bool.not_eq_true] at hsoft
    by_cases hhiss : hisses name.toList = true
    · rw [if_pos hhiss, hplural (name ++ "es")]
      rw [pluralText_of_hisses hsoft hhiss]
      simp
    · rw [if_neg hhiss, hplural (name ++ "s")]
      rw [pluralText_of_plain hsoft (Bool.eq_false_iff.2 hhiss)]
      simp

end Identifier

/-! ## §2. Raw literals. -/

namespace Source

/-- Whether a text is a raw literal, cut by its bytes. -/
def isRawLiteral? (s : String) : Option Bool :=
  if 2 ≤ s.utf8ByteSize ∧ s.toList.head? = some backquote ∧ s.toList.getLast? = some backquote then
    do
      let cut ← minus? s.utf8ByteSize 1
      let inner ← slice? s 1 cut
      return !inner.toList.contains backquote
  else some false

/-- The text between two backquotes, with them. -/
def between (t : String) : String :=
  String.singleton backquote ++ t ++ String.singleton backquote

theorem toList_between (t : String) : (between t).toList = enclosed t := by
  simp [between, enclosed]

theorem utf8ByteSize_between (t : String) : (between t).utf8ByteSize = 1 + t.utf8ByteSize + 1 := by
  have hone : (String.singleton backquote).utf8ByteSize = 1 := by decide
  rw [between, String.utf8ByteSize_append, String.utf8ByteSize_append, hone]

theorem slice?_between (t : String) : slice? (between t) 1 (1 + t.utf8ByteSize) = some t :=
  slice?_append (String.singleton backquote) t (String.singleton backquote)

/-- A text of two bytes or more with a backquote at either end has two of them:
one backquote alone is a single byte. -/
theorem exists_between {s : String} (hsize : 2 ≤ s.utf8ByteSize)
    (hhead : s.toList.head? = some backquote) (hlast : s.toList.getLast? = some backquote) :
    ∃ t, s = between t := by
  obtain ⟨rest, hrest⟩ := List.head?_eq_some_iff.1 hhead
  rcases List.eq_nil_or_concat rest with rfl | ⟨inner, c, rfl⟩
  · have hs : s = String.singleton backquote := by
      rw [← String.toList_inj, hrest]
      simp
    rw [hs] at hsize
    exact absurd hsize (by decide)
  · rw [hrest, List.concat_eq_append, ← List.cons_append, List.getLast?_concat,
      Option.some.injEq] at hlast
    refine ⟨String.ofList inner, ?_⟩
    rw [← String.toList_inj, hrest, hlast, toList_between, enclosed, String.toList_ofList,
      List.concat_eq_append]

/-- **The cut of a raw literal never misses.** -/
theorem isRawLiteral?_eq (s : String) : isRawLiteral? s = some (isRawLiteral s.toList) := by
  unfold isRawLiteral?
  -- the quotes are one byte each, so the cuts behind the first and before the last are no others
  by_cases h : 2 ≤ s.utf8ByteSize ∧ s.toList.head? = some backquote
      ∧ s.toList.getLast? = some backquote
  · obtain ⟨t, rfl⟩ := exists_between h.1 h.2.1 h.2.2
    have hminus : minus? (between t).utf8ByteSize 1 = some (1 + t.utf8ByteSize) := by
      rw [utf8ByteSize_between, minus?_eq (Nat.le_add_left 1 _), Nat.add_sub_cancel]
    rw [if_pos h, hminus]
    show (slice? (between t) 1 (1 + t.utf8ByteSize)).bind
      (fun inner => some (!inner.toList.contains backquote)) = _
    rw [slice?_between, Option.bind_some, toList_between, enclosed, isRawLiteral,
      List.getLast?_concat, List.dropLast_concat]
    simp
  · rw [if_neg h]
    have hraw : isRawLiteral s.toList ≠ true := by
      intro hraw
      obtain ⟨t, -, ht⟩ := isRawLiteral_iff.1 hraw
      rw [← toList_between, String.toList_inj] at ht
      apply h
      rw [ht, utf8ByteSize_between, toList_between, enclosed, ← List.cons_append,
        List.getLast?_concat]
      exact ⟨by omega, rfl, rfl⟩
    rw [Bool.eq_false_iff.2 hraw]

end Source

/-! ## §3. The catalog. -/

namespace Catalog

variable {o : CompileOptions} {c c' : Catalog}

/-- Entry at the position of a name, if it has one; there may be no entry
there. -/
def fetch? (c : Catalog) (name : String) : Option (Option CatalogEntry) :=
  match c.positions.lookup name with
  | some i => (c.entries[i]?).map some
  | none => some none

/-- Positions are those of entries. -/
def Bounded (c : Catalog) : Prop := ∀ p ∈ c.positions, p.2 < c.entries.length

theorem bounded_empty : empty.Bounded := List.forall_mem_nil _

/-- An entry that is entered keeps the positions in bounds. -/
theorem Bounded.enter (hc : c.Bounded) {m : MessageDescriptor} (h : enter o c m = .ok c') :
    c'.Bounded ∧ c'.size = c.size + 1 := by
  unfold Catalog.enter at h
  split at h
  · cases h
  · obtain ⟨e, -, rfl⟩ := map_eq_ok_iff.1 h
    have hsize : (c.entries ++ [e]).length = c.entries.length + 1 := List.length_append
    refine ⟨List.forall_mem_cons.2 ⟨?_, fun p hp => ?_⟩, hsize⟩
    · show c.entries.length < (c.entries ++ [e]).length
      rw [hsize]
      exact Nat.lt_succ_self _
    · show p.2 < (c.entries ++ [e]).length
      rw [hsize]
      exact Nat.lt_succ_of_lt (hc p hp)

theorem Bounded.foldlM_enter (hc : c.Bounded) {ms : List MessageDescriptor}
    (h : ms.foldlM (Catalog.enter o) c = .ok c') : c'.Bounded ∧ c'.size = c.size + ms.length := by
  induction ms generalizing c with
  | nil =>
      cases pure_eq_ok_iff.1 h
      exact ⟨hc, rfl⟩
  | cons m ms ih =>
      rw [List.foldlM_cons, bind_eq_ok_iff] at h
      obtain ⟨c₁, hm, hms⟩ := h
      obtain ⟨hc₁, hsize₁⟩ := hc.enter hm
      obtain ⟨hc', hsize⟩ := ih hc₁ hms
      rw [hsize, hsize₁, List.length_cons]
      exact ⟨hc', Nat.add_right_comm ..⟩

/-- **A fetch never misses** when the positions are in bounds. -/
theorem Bounded.fetch?_eq (hc : c.Bounded) (name : String) :
    c.fetch? name = some (c.get? name) := by
  unfold fetch? get?
  cases hi : c.positions.lookup name with
  | none => rfl
  | some i =>
      obtain ⟨before, after, hpositions, -⟩ := List.lookup_eq_some_iff.1 hi
      have hlt : i < c.entries.length := hc (name, i) (by rw [hpositions]; simp)
      show (c.entries[i]?).map some = some c.entries[i]?
      rw [List.getElem?_eq_getElem hlt]
      rfl

/-- What is known of a catalog once it is built: positions are in bounds, and
no more messages are in it than the set has. -/
theorem bounded_of_build {s : DescriptorSet} (h : build o s = .ok c) :
    c.Bounded ∧ c.size = s.selected.length := by
  obtain ⟨hc, hsize⟩ := bounded_empty.foldlM_enter h
  exact ⟨hc, hsize.trans (Nat.zero_add _)⟩

end Catalog

/-! ## §4. All of them. -/

/-- **NOTHING IS OUT OF BOUNDS**, whatever the names, the tags and the set: the
cuts, the fetches and the difference give what they should. -/
theorem nothing_out_of_bounds :
    (∀ name, Identifier.plural? name = some (Identifier.plural name))
      ∧ (∀ tag, Source.isRawLiteral? tag = some (Source.isRawLiteral tag.toList))
      ∧ ∀ o s c, Catalog.build o s = .ok c →
        (∀ p ∈ c.positions, p.2 < c.entries.length)
          ∧ (∀ name, c.fetch? name = some (c.get? name))
          ∧ c.size ≤ s.entities.length
          ∧ minus? s.entities.length c.size
            = some (s.entities.filter fun m => !m.generate).length := by
  refine ⟨Identifier.plural?_eq, Source.isRawLiteral?_eq, fun o s c h => ?_⟩
  obtain ⟨hc, hsize⟩ := Catalog.bounded_of_build h
  have hle : c.size ≤ s.entities.length := by
    rw [hsize]
    exact List.length_filter_le _ _
  have hsplit : s.entities.length
      = s.selected.length + (s.entities.filter fun m => !m.generate).length :=
    List.length_eq_length_filter_add _
  refine ⟨hc, hc.fetch?_eq, hle, ?_⟩
  rw [minus?_eq hle, hsize, hsplit, Nat.add_sub_cancel_left]

/-- Two messages, of which one does not take part. -/
def halfSelected : DescriptorSet :=
  ⟨[{ name := "Draft" }, { name := "Éty", generate := true }]⟩

/-- The one entry is fetched at its position, the other message is skipped, and
the plural of a name with a letter of two bytes is cut between letters. -/
theorem halfSelected_in_bounds :
    ∃ c, Catalog.build {} halfSelected = .ok c
      ∧ (∀ p ∈ c.positions, p.2 < c.entries.length)
      ∧ c.fetch? "Éty" = some (c.get? "Éty")
      ∧ minus? halfSelected.entities.length c.size = some 1
      ∧ Identifier.plural? "Éty" = some "Éties" := by
  obtain ⟨c, h⟩ : ∃ c, Catalog.build {} halfSelected = .ok c := ⟨_, rfl⟩
  obtain ⟨hplural, -, hcatalog⟩ := nothing_out_of_bounds
  obtain ⟨hpositions, hfetch, -, hskipped⟩ := hcatalog {} halfSelected c h
  refine ⟨c, h, hpositions, hfetch "Éty", hskipped, ?_⟩
  rw [hplural]
  decide

end EntitySchema
