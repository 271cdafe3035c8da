/-
  EntitySchema.Proofs.Identifier.Absorption
  ────────────────────────────────
  **NAMES MADE FROM MADE NAMES.**

  The storage name and the sort key of an ASCII name consist of its words,
  so what is made from either is what would be made from the name itself:

      snake (snake x)   = snake x      sortKey (snake x) = sortKey x
      snake (sortKey x) = snake x      pascal (snake x)  = pascal x

  Hence two names have one sort key iff they have one storage name.

  Main results: `snake_snake`, `sortKey_snake`, `snake_sortKey`, `pascal_snake`,
  `sortKey_eq_iff`.
-/
import EntitySchema.Identifier.Style
import EntitySchema.Proofs.Identifier.Words

namespace EntitySchema.Identifier

open EntitySchema.Text

/-! ## §1. Changes of case. -/

/-- A change of ASCII letters that leaves one case only: `missing` is the
other one. -/
structure Recases (κ : Char → Char) (missing : Shape) : Prop where
  case : missing = .lower ∨ missing = .upper
  ascii : ∀ c, isAscii c → isAscii (κ c)
  uncased : ∀ c, isAscii c → (shape [κ c]).uncased = (shape [c]).uncased
  ne_missing : ∀ c, isAscii c → shape [κ c] ≠ missing
  /-- Either case overrules the change. -/
  toLower : ∀ c, isAscii c → (κ c).toLower = c.toLower
  toUpper : ∀ c, isAscii c → (κ c).toUpper = c.toUpper

theorem recases_toLower : Recases Char.toLower .upper where
  case := .inr rfl
  ascii _ := isAscii_toLower
  uncased _ := forall_isAscii (P := fun c => (shape [c.toLower]).uncased = (shape [c]).uncased)
    (by decide +kernel)
  ne_missing _ := forall_isAscii (P := fun c => shape [c.toLower] ≠ .upper) (by decide +kernel)
  toLower _ := forall_isAscii (P := fun c => c.toLower.toLower = c.toLower) (by decide +kernel)
  toUpper _ := forall_isAscii (P := fun c => c.toLower.toUpper = c.toUpper) (by decide +kernel)

theorem recases_toUpper : Recases Char.toUpper .lower where
  case := .inl rfl
  ascii _ := isAscii_toUpper
  uncased _ := forall_isAscii (P := fun c => (shape [c.toUpper]).uncased = (shape [c]).uncased)
    (by decide +kernel)
  ne_missing _ := forall_isAscii (P := fun c => shape [c.toUpper] ≠ .lower) (by decide +kernel)
  toLower _ := forall_isAscii (P := fun c => c.toUpper.toLower = c.toLower) (by decide +kernel)
  toUpper _ := forall_isAscii (P := fun c => c.toUpper.toUpper = c.toUpper) (by decide +kernel)

/-- What holds of underscores and of the letters of all words holds of the
joined words. -/
theorem forall_mem_intercalate {P : Char → Prop} {vs : List (List Char)} (hsep : P '_')
    (h : ∀ v ∈ vs, ∀ c ∈ v, P c) : ∀ c ∈ ['_'].intercalate vs, P c := by
  induction vs with
  | nil => simp
  | cons v vs ih =>
      obtain ⟨hv, hvs⟩ := List.forall_mem_cons.1 h
      cases vs with
      | nil => rwa [List.intercalate_singleton]
      | cons v' vs =>
          rw [List.intercalate_cons_cons]
          refine List.forall_mem_append.2 ⟨List.forall_mem_append.2 ⟨hv, ?_⟩, ih hvs⟩
          simpa using hsep

/-- The words of a text, in one case and joined by underscores. -/
def recased (κ : Char → Char) (t : List Char) : List Char :=
  ['_'].intercalate ((letterWords t).map (List.map κ))

namespace Recases

variable {κ : Char → Char} {x : Shape} {t : List Char}

theorem map_ascii (hκ : Recases κ x) (h : Ascii t) : Ascii (t.map κ) :=
  List.forall_mem_map.2 fun c hc => hκ.ascii c (h c hc)

/-- Separators and turns do not depend on case. -/
theorem map_solid (hκ : Recases κ x) (h : Ascii t) (hs : Solid t) : Solid (t.map κ) := by
  constructor
  · refine List.forall_mem_map.2 fun c hc => ?_
    rw [ne_eq, ← Shape.uncased_eq_separator, hκ.uncased c (h c hc), Shape.uncased_eq_separator]
    exact hs.letters c hc
  · refine (List.isChain_map κ).2 (hs.unturned.imp_of_mem_imp fun a b ha hb hab => ?_)
    rw [turns, hκ.uncased a (h a ha), hκ.uncased b (h b hb)]
    exact hab

theorem ascii_recased (hκ : Recases κ x) (h : Ascii t) : Ascii (recased κ t) := by
  refine forall_mem_intercalate rfl (List.forall_mem_map.2 fun w hw => ?_)
  exact hκ.map_ascii (ascii_of_mem_letterWords h hw)

/-- The recased text has the recased words. -/
theorem letterWords_recased (hκ : Recases κ x) (h : Ascii t) :
    letterWords (recased κ t) = (letterWords t).map (List.map κ) := by
  have hwords : ∀ w ∈ letterWords t, Ascii w := fun w hw =>
    ascii_of_mem_letterWords h hw
  refine letterWords_intercalate hκ.case ?_ ?_ ?_
  · exact mt List.map_eq_nil_iff.1 (letterWords_ne_nil t)
  · exact List.forall_mem_map.2 fun w hw =>
      hκ.map_solid (hwords w hw) (solid_of_mem_letterWords hw)
  · -- the missing case is missing from underscores and from recased letters
    refine forall_mem_intercalate ?_ (List.forall_mem_map.2 fun w hw => ?_)
    · rcases hκ.case with rfl | rfl <;> simp [shape_underscore]
    · exact List.forall_mem_map.2 fun c hc => hκ.ne_missing c (hwords w hw c hc)

end Recases

/-! ## §2. Names. -/

variable {name : String}

/-- A style that leaves the empty word empty joins the words of the letters:
only the empty name has no words where its letters have an empty one. -/
theorem joinWords_words (h : Ascii name.toList) (separator : List Char)
    {f : List Char → List Char} (hf : f [] = []) :
    joinWords separator ((words name.toList).map f)
      = joinWords separator ((letterWords name.toList).map f) := by
  unfold words
  split
  next hnone =>
    have hempty : name.toList = [] := by
      rw [← flatten_clusters name.toList, hnone, List.flatten_nil]
    rw [hempty]
    show joinWords separator [] = joinWords separator [f []]
    rw [hf, joinWords, joinWords, List.intercalate_singleton]
    rfl
  next =>
    rw [wordsFrom_clusters h, letterWords]

theorem toList_joinWords_words (h : Ascii name.toList) {κ : Char → Char}
    {f : List Char → List Char} (hf : ∀ w, Ascii w → f w = w.map κ) :
    (joinWords ['_'] ((words name.toList).map f)).toList = recased κ name.toList := by
  have hwords : ∀ w ∈ letterWords name.toList, f w = w.map κ := fun w hw =>
    hf w (ascii_of_mem_letterWords h hw)
  rw [joinWords_words h ['_'] (hf [] .nil), List.map_congr_left hwords, joinWords,
    String.toList_ofList, recased]

theorem toList_snake (h : Ascii name.toList) :
    (snake name).toList = recased Char.toLower name.toList :=
  toList_joinWords_words h fun _ => lower_eq_map

theorem toList_sortKey (h : Ascii name.toList) :
    (sortKey name).toList = recased Char.toUpper name.toList :=
  toList_joinWords_words h fun _ => upper_eq_map

namespace Recases

variable {κ : Char → Char} {x : Shape} {made : String}

/-- What a style makes of a name does not change when the name is recased,
if the style overrules the case. -/
theorem joinWords_eq (hκ : Recases κ x) (h : Ascii name.toList)
    (hmade : made.toList = recased κ name.toList) (separator : List Char)
    {f : List Char → List Char} (hf : f [] = []) (hfκ : ∀ w, Ascii w → f (w.map κ) = f w) :
    joinWords separator ((words made.toList).map f)
      = joinWords separator ((words name.toList).map f) := by
  have hascii : Ascii made.toList := hmade ▸ hκ.ascii_recased h
  rw [joinWords_words hascii separator hf, joinWords_words h separator hf, hmade,
    hκ.letterWords_recased h, List.map_map]
  refine congrArg _ (List.map_congr_left fun w hw => ?_)
  exact hfκ w (ascii_of_mem_letterWords h hw)

theorem snake_eq (hκ : Recases κ x) (h : Ascii name.toList)
    (hmade : made.toList = recased κ name.toList) : snake made = snake name := by
  refine hκ.joinWords_eq h hmade ['_'] rfl fun w hw => ?_
  rw [lower_eq_map (hκ.map_ascii hw), lower_eq_map hw, List.map_map]
  exact List.map_congr_left fun c hc => hκ.toLower c (hw c hc)

theorem sortKey_eq (hκ : Recases κ x) (h : Ascii name.toList)
    (hmade : made.toList = recased κ name.toList) : sortKey made = sortKey name := by
  refine hκ.joinWords_eq h hmade ['_'] rfl fun w hw => ?_
  rw [upper_eq_map (hκ.map_ascii hw), upper_eq_map hw, List.map_map]
  exact List.map_congr_left fun c hc => hκ.toUpper c (hw c hc)

theorem pascal_eq (hκ : Recases κ x) (h : Ascii name.toList)
    (hmade : made.toList = recased κ name.toList) : pascal made = pascal name := by
  refine hκ.joinWords_eq h hmade [] rfl fun w hw => ?_
  cases w with
  | nil => rfl
  | cons c w =>
      obtain ⟨hc, htail⟩ := List.forall_mem_cons.1 hw
      rw [capital_cons hw, List.map_cons, capital_cons (hκ.map_ascii hw), hκ.toUpper c hc,
        List.map_map]
      exact congrArg _ (List.map_congr_left fun d hd => hκ.toLower d (htail d hd))

end Recases

/-! ## §3. Absorption. -/

theorem snake_snake (h : Ascii name.toList) : snake (snake name) = snake name :=
  recases_toLower.snake_eq h (toList_snake h)

theorem sortKey_snake (h : Ascii name.toList) : sortKey (snake name) = sortKey name :=
  recases_toLower.sortKey_eq h (toList_snake h)

theorem snake_sortKey (h : Ascii name.toList) : snake (sortKey name) = snake name :=
  recases_toUpper.snake_eq h (toList_sortKey h)

theorem pascal_snake (h : Ascii name.toList) : pascal (snake name) = pascal name :=
  recases_toLower.pascal_eq h (toList_snake h)

/-- **Sort keys tell ASCII names apart as storage names do.** -/
theorem sortKey_eq_iff {other : String} (h : Ascii name.toList) (h' : Ascii other.toList) :
    sortKey name = sortKey other ↔ snake name = snake other := by
  constructor
  · intro hkey
    rw [← snake_sortKey h, ← snake_sortKey h', hkey]
  · intro hsnake
    rw [← sortKey_snake h, ← sortKey_snake h', hsnake]

end EntitySchema.Identifier
