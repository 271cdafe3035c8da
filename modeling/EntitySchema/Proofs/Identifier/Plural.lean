/-
  EntitySchema.Proofs.Identifier.Plural
  ────────────────────────────────
  **NAMES WITH ONE PLURAL.**

  A plural is longer than its name, but it does not tell the name: endings
  that are dropped or added run into each other.

      City, Citie    Cities     `y` becomes `ie`, or the name ends so
      Box, Boxe      Boxes      the `e` is added, or belongs to the name
      CITY, CITy     CITies     the case of the `y` is lost

  These are all the ways in which two names share a plural.

  Main results: `plural_eq_iff`, `plural_ne`, `nodup_nouns_iff`.
-/
import EntitySchema.Identifier.Style
import EntitySchema.Proofs.Text.Ascii
import Mathlib.Data.List.Nodup
import Mathlib.Data.List.Perm.Basic

namespace EntitySchema.Identifier

open EntitySchema.Text (isAscii forall_isAscii)

/-! ## §1. Endings. -/

/-- Whether a name ends in a `y` that follows no vowel. -/
def endsInSoftY (t : List Char) : Bool :=
  match t.reverse.map Char.toLower with
  | 'y' :: rest => !rest.head?.any isVowel
  | _ => false

/-- Whether a name ends in a hissing sound. -/
def hisses (t : List Char) : Bool :=
  match t.reverse.map Char.toLower with
  | 's' :: _ | 'x' :: _ | 'z' :: _ => true
  | 'h' :: 'c' :: _ | 'h' :: 's' :: _ => true
  | _ => false

theorem pluralEnding_eq (t : List Char) :
    pluralEnding t = if endsInSoftY t then (1, ['i', 'e', 's'])
      else if hisses t then (0, ['e', 's']) else (0, ['s']) := by
  unfold pluralEnding endsInSoftY hisses
  generalize t.reverse.map Char.toLower = u
  split
  next rest => cases h : rest.head?.any isVowel <;> simp [h]
  all_goals simp_all

/-- Letters of the plural. -/
def pluralText (t : List Char) : List Char :=
  if endsInSoftY t then t.dropLast ++ ['i', 'e', 's']
  else if hisses t then t ++ ['e', 's'] else t ++ ['s']

theorem toList_plural (name : String) : (plural name).toList = pluralText name.toList := by
  rw [plural, pluralEnding_eq, pluralText]
  split_ifs <;> simp [List.dropLast_eq_take]

theorem toLower_eq_y_iff {c : Char} : c.toLower = 'y' ↔ c = 'y' ∨ c = 'Y' := by
  by_cases hc : isAscii c
  · exact forall_isAscii (P := fun c => c.toLower = 'y' ↔ c = 'y' ∨ c = 'Y') (by decide +kernel) hc
  · have hcase : ¬ (c.val ≥ 'A'.val ∧ c.val ≤ 'Z'.val) := by
      rintro ⟨-, hle⟩
      rw [UInt32.le_iff_toNat_le] at hle
      exact hc (decide_eq_true (Nat.lt_of_le_of_lt hle (by decide)))
    -- a character beyond ASCII is left as it is
    have hself : c.toLower = c := dif_neg hcase
    rw [hself]
    refine ⟨.inl, fun h => h.resolve_right ?_⟩
    rintro rfl
    exact hc rfl

theorem endsInSoftY_concat (w : List Char) (c : Char) :
    endsInSoftY (w ++ [c])
      = (c.toLower = 'y' && !(w.reverse.map Char.toLower).head?.any isVowel) := by
  unfold endsInSoftY
  rw [List.reverse_append, List.reverse_singleton, List.singleton_append, List.map_cons]
  split <;> simp_all

theorem exists_of_endsInSoftY {t : List Char} (h : endsInSoftY t = true) :
    ∃ w c, t = w ++ [c] ∧ (c = 'y' ∨ c = 'Y') := by
  rcases List.eq_nil_or_concat t with rfl | ⟨w, c, rfl⟩
  · cases h
  · rw [List.concat_eq_append] at h ⊢
    rw [endsInSoftY_concat, Bool.and_eq_true, decide_eq_true_eq] at h
    exact ⟨w, c, rfl, toLower_eq_y_iff.1 h.1⟩

theorem hisses_concat_eq_false {c : Char} (w : List Char) (h : c = 'i' ∨ c = 'e') :
    hisses (w ++ [c]) = false := by
  unfold hisses
  rw [List.reverse_append, List.reverse_singleton, List.singleton_append, List.map_cons]
  rcases h with rfl | rfl <;> rfl

theorem endsInSoftY_of_hisses {t : List Char} (h : hisses t = true) : endsInSoftY t = false := by
  unfold hisses at h
  unfold endsInSoftY
  split at h <;> simp_all

theorem endsInSoftY_concat_e (w : List Char) : endsInSoftY (w ++ ['e']) = false := by
  rw [endsInSoftY_concat]
  rfl

/-! ## §2. Plurals by ending. -/

section Ending

variable {t w : List Char} {c : Char}

theorem pluralText_of_softY (h : endsInSoftY (w ++ [c]) = true) :
    pluralText (w ++ [c]) = w ++ ['i', 'e', 's'] := by
  rw [pluralText, if_pos h, List.dropLast_concat]

theorem pluralText_of_hisses (hy : endsInSoftY t = false) (h : hisses t = true) :
    pluralText t = t ++ ['e', 's'] := by
  rw [pluralText, hy, if_neg Bool.false_ne_true, if_pos h]

theorem pluralText_of_plain (hy : endsInSoftY t = false) (h : hisses t = false) :
    pluralText t = t ++ ['s'] := by
  rw [pluralText, hy, h, if_neg Bool.false_ne_true, if_neg Bool.false_ne_true]

/-- A name that ends in an `e` takes nothing but an `s`. -/
theorem pluralText_concat_e (w : List Char) : pluralText (w ++ ['e']) = w ++ ['e', 's'] := by
  rw [pluralText_of_plain (endsInSoftY_concat_e w) (hisses_concat_eq_false w (.inr rfl)),
    List.append_assoc]
  rfl

theorem length_lt_length_pluralText (t : List Char) : t.length < (pluralText t).length := by
  unfold pluralText
  split_ifs
  · rw [List.length_append, List.length_dropLast, List.length_cons]
    simp
    omega
  · simp
  · simp

end Ending

/-- **A plural is not the name itself.** -/
theorem plural_ne (name : String) : plural name ≠ name := by
  intro h
  have hlt := length_lt_length_pluralText name.toList
  rw [← toList_plural, h] at hlt
  exact Nat.lt_irrefl _ hlt

/-! ## §3. Names with one plural. -/

/-- Two names share a plural, the first one being that with the ending that
is changed. -/
inductive SharesPlural : List Char → List Char → Prop where
  /-- Both end in a `y`, one of them in a capital one. -/
  | letterCase {w : List Char} (soft : endsInSoftY (w ++ ['y']) = true) :
      SharesPlural (w ++ ['y']) (w ++ ['Y'])
  /-- The `y` of one is the `ie` of the other. -/
  | ie {w : List Char} {c : Char} (soft : endsInSoftY (w ++ [c]) = true) :
      SharesPlural (w ++ [c]) (w ++ ['i', 'e'])
  /-- The other one has the `e` already. -/
  | e {t : List Char} (hiss : hisses t = true) : SharesPlural t (t ++ ['e'])

theorem SharesPlural.pluralText_eq {a b : List Char} (h : SharesPlural a b) :
    pluralText a = pluralText b := by
  cases h with
  | @letterCase w hsoft =>
      have hsoft' : endsInSoftY (w ++ ['Y']) = true := by
        rw [endsInSoftY_concat] at hsoft ⊢
        exact hsoft
      rw [pluralText_of_softY hsoft, pluralText_of_softY hsoft']
  | @ie w c hsoft =>
      have he : w ++ ['i', 'e'] = (w ++ ['i']) ++ ['e'] := (List.append_assoc w ['i'] ['e']).symm
      rw [pluralText_of_softY hsoft, he, pluralText_concat_e, List.append_assoc]
      rfl
  | e hhiss =>
      rw [pluralText_of_hisses (endsInSoftY_of_hisses hhiss) hhiss, pluralText_concat_e]

section Converse

variable {a b : List Char}

theorem sharesPlural_of_softY (ha : endsInSoftY a = true) (h : pluralText a = pluralText b) :
    a = b ∨ SharesPlural a b ∨ SharesPlural b a := by
  obtain ⟨w, c, rfl, hc⟩ := exists_of_endsInSoftY ha
  rw [pluralText_of_softY ha] at h
  cases hb : endsInSoftY b
  case true =>
    -- both lose their `y`, which is all in which they may differ
    obtain ⟨w', c', rfl, hc'⟩ := exists_of_endsInSoftY hb
    rw [pluralText_of_softY hb] at h
    obtain rfl := List.append_cancel_right h
    rcases hc with rfl | rfl <;> rcases hc' with rfl | rfl
    · exact .inl rfl
    · exact .inr (.inl (.letterCase ha))
    · exact .inr (.inr (.letterCase hb))
    · exact .inl rfl
  case false =>
    cases hhiss : hisses b
    case true =>
      -- what is left of the plural would end in an `i`, which does not hiss
      rw [pluralText_of_hisses hb hhiss] at h
      have h' : w ++ ['i'] ++ ['e', 's'] = b ++ ['e', 's'] := (List.append_assoc ..).trans h
      rw [← List.append_cancel_right h', hisses_concat_eq_false w (.inl rfl)] at hhiss
      cases hhiss
    case false =>
      -- the other one ends in the letters that the `y` becomes
      rw [pluralText_of_plain hb hhiss] at h
      have h' : w ++ ['i', 'e'] ++ ['s'] = b ++ ['s'] := (List.append_assoc ..).trans h
      rw [← List.append_cancel_right h']
      exact .inr (.inl (.ie ha))

theorem sharesPlural_of_hisses (ha : hisses a = true) (hb : endsInSoftY b = false)
    (h : pluralText a = pluralText b) : a = b ∨ SharesPlural a b := by
  rw [pluralText_of_hisses (endsInSoftY_of_hisses ha) ha] at h
  cases hhiss : hisses b
  case true =>
    rw [pluralText_of_hisses hb hhiss] at h
    exact .inl (List.append_cancel_right h)
  case false =>
    rw [pluralText_of_plain hb hhiss] at h
    have h' : a ++ ['e'] ++ ['s'] = b ++ ['s'] := (List.append_assoc ..).trans h
    rw [← List.append_cancel_right h']
    exact .inr (.e ha)

/-- No name shares a plural with itself. -/
theorem SharesPlural.ne (h : SharesPlural a b) : a ≠ b := by
  cases h with
  | letterCase _ =>
      intro heq
      exact absurd (List.append_cancel_left heq) (by decide)
  | ie _ =>
      intro heq
      exact absurd (congrArg List.length (List.append_cancel_left heq)) (by simp)
  | e _ => simp

theorem pluralText_eq_iff :
    pluralText a = pluralText b ↔ a = b ∨ SharesPlural a b ∨ SharesPlural b a := by
  constructor
  · intro h
    -- by the rule that each of the two goes by, the rules being tried in turn
    cases ha : endsInSoftY a
    case true => exact sharesPlural_of_softY ha h
    cases hb : endsInSoftY b
    case true => exact (sharesPlural_of_softY hb h.symm).imp Eq.symm Or.symm
    cases hahiss : hisses a
    case true => exact (sharesPlural_of_hisses hahiss hb h).imp_right .inl
    cases hbhiss : hisses b
    case true => exact (sharesPlural_of_hisses hbhiss ha h.symm).imp Eq.symm .inr
    case false =>
      rw [pluralText_of_plain ha hahiss, pluralText_of_plain hb hbhiss] at h
      exact .inl (List.append_cancel_right h)
  · intro h
    rcases h with rfl | h | h
    · rfl
    · exact h.pluralText_eq
    · exact h.pluralText_eq.symm

end Converse

/-- **Names share a plural iff they differ in an ending that is changed.** -/
theorem plural_eq_iff {n n' : String} :
    plural n = plural n'
      ↔ n = n' ∨ SharesPlural n.toList n'.toList ∨ SharesPlural n'.toList n.toList := by
  rw [← String.toList_inj, toList_plural, toList_plural, pluralText_eq_iff, String.toList_inj]

/-! ## §4. Plurals of several names. -/

section Several

variable {names : List String}

theorem nodup_map_plural_iff (hd : names.Nodup) :
    (names.map plural).Nodup
      ↔ ∀ n ∈ names, ∀ n' ∈ names, ¬ SharesPlural n.toList n'.toList := by
  rw [List.nodup_map_iff_inj_on hd]
  constructor
  · intro hinjective n hn n' hn' hshares
    have heq := hinjective n hn n' hn' (plural_eq_iff.2 (.inr (.inl hshares)))
    exact hshares.ne (congrArg String.toList heq)
  · intro happart n hn n' hn' heq
    rcases plural_eq_iff.1 heq with h | h | h
    · exact h
    · exact absurd h (happart n hn n' hn')
    · exact absurd h (happart n' hn' n hn)

/-- Names and their plurals are all distinct iff no name is the plural of
another one and no two names share a plural. -/
theorem nodup_nouns_iff (hd : names.Nodup) :
    (names.flatMap fun n => [n, plural n]).Nodup
      ↔ ∀ n ∈ names, ∀ n' ∈ names, n ≠ plural n' ∧ ¬ SharesPlural n.toList n'.toList := by
  have hperm : (names ++ names.map plural).Perm (names.flatMap fun n => [n, plural n]) := by
    have hparts := List.flatMap_append_perm names (fun n => [n]) (fun n => [plural n])
    rwa [List.flatMap_singleton', ← List.map_eq_flatMap] at hparts
  rw [← hperm.nodup_iff, List.nodup_append, nodup_map_plural_iff hd, and_iff_right hd]
  simp only [List.forall_mem_map]
  constructor
  · rintro ⟨happart, hne⟩ n hn n' hn'
    exact ⟨hne n hn n' hn', happart n hn n' hn'⟩
  · intro h
    exact ⟨fun n hn n' hn' => (h n hn n' hn').2, fun n hn n' hn' => (h n hn n' hn').1⟩

/-- A plural is written with the letters of the name and those of the
endings. -/
theorem mem_plural {n : String} {c : Char} (h : c ∈ (plural n).toList) :
    c ∈ n.toList ∨ c ∈ ['i', 'e', 's'] := by
  rw [toList_plural, pluralText] at h
  split_ifs at h <;> simp only [List.mem_append] at h
  · exact h.imp_left fun hmem => List.dropLast_subset _ hmem
  · exact h.imp_right (by simp +contextual)
  · exact h.imp_right (by simp +contextual)

end Several

end EntitySchema.Identifier
