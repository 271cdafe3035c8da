/-
  EntitySchema.Proofs.Text.Ascii
  ────────────────────────────────
  **TEXTS OF ASCII CHARACTERS.**

  Within ASCII a text has as many characters in upper case as in lower
  case, changed one by one, and every character is a cluster of its own:
  only a line feed joins the carriage return before it.

      upper t = t.map toUpper      lower t = t.map toLower

  The tables for the rest of Unicode begin beyond these characters, so none
  of them is looked at.
-/
import EntitySchema.Text.Cluster
import Mathlib.Data.List.Basic

namespace EntitySchema.Text

/-! ## §1. Characters. -/

variable {c : Char}

/-- A law of ASCII characters is checked on their codes. -/
theorem forall_isAscii {P : Char → Prop} (h : ∀ n < 128, P (Char.ofNat n)) (hc : isAscii c) :
    P c := by
  rw [← Char.ofNat_toNat c]
  exact h c.toNat (of_decide_eq_true hc)

theorem upperChar_of_isAscii (hc : isAscii c) : upperChar c = [c.toUpper] := if_pos hc

theorem lowerChar_of_isAscii (hc : isAscii c) : lowerChar c = [c.toLower] := if_pos hc

theorem isAscii_toUpper (hc : isAscii c) : isAscii c.toUpper :=
  forall_isAscii (P := fun c => isAscii c.toUpper) (by decide +kernel) hc

theorem isAscii_toLower (hc : isAscii c) : isAscii c.toLower :=
  forall_isAscii (P := fun c => isAscii c.toLower) (by decide +kernel) hc

/-! ## §2. Case of texts. -/

/-- All characters of a text belong to ASCII. -/
def Ascii (t : List Char) : Prop := ∀ c ∈ t, isAscii c

instance (t : List Char) : Decidable (Ascii t) :=
  inferInstanceAs (Decidable (∀ c ∈ t, isAscii c))

theorem Ascii.nil : Ascii [] := List.forall_mem_nil _

variable {t : List Char}

theorem upper_eq_map (h : Ascii t) : upper t = t.map Char.toUpper := by
  rw [upper, List.flatMap_congr fun c hc => upperChar_of_isAscii (h c hc), List.map_eq_flatMap]

/-- There is no sigma in an ASCII text, so nothing depends on what stands
around a character. -/
theorem lowerAfter_eq_map (before : List Char) (h : Ascii t) :
    lowerAfter before t = t.map Char.toLower := by
  induction t generalizing before with
  | nil => rfl
  | cons c t ih =>
      obtain ⟨hc, ht⟩ := List.forall_mem_cons.1 h
      have hsigma : c ≠ 'Σ' := by
        rintro rfl
        exact absurd hc (by decide)
      rw [lowerAfter, if_neg hsigma, lowerChar_of_isAscii hc, ih _ ht]
      rfl

theorem lower_eq_map (h : Ascii t) : lower t = t.map Char.toLower := lowerAfter_eq_map [] h

theorem capital_cons (h : Ascii (c :: t)) : capital (c :: t) = c.toUpper :: t.map Char.toLower := by
  obtain ⟨hc, ht⟩ := List.forall_mem_cons.1 h
  rw [capital, upperChar_of_isAscii hc, lower_eq_map ht]
  rfl

/-! ## §3. Clusters. -/

theorem inRanges_eq_false {ranges : List (Nat × Nat)} (h : ∀ r ∈ ranges, 128 ≤ r.1)
    (hc : isAscii c) : inRanges ranges c.toNat = false := by
  rw [inRanges, List.any_eq_false]
  intro r hr hin
  have hbound := h r hr
  have hcode : c.toNat < 128 := of_decide_eq_true hc
  simp only [Bool.and_eq_true, decide_eq_true_eq] at hin
  omega

theorem clusterClass_of_isAscii (hc : isAscii c) :
    clusterClass c = if c = '\r' then .carriageReturn else if c = '\n' then .lineFeed
      else if c.toNat < 32 || c.toNat = 127 then .control else .other := by
  have hcode : c.toNat < 128 := of_decide_eq_true hc
  unfold clusterClass
  by_cases hcontrol : (c.toNat < 32 || c.toNat = 127) = true
  · simp [hcontrol]
  · simp only [Bool.or_eq_true, decide_eq_true_eq, not_or] at hcontrol
    have hprint : c.toNat < 127 := by omega
    simp [hcontrol, hprint]

/-- Only a line feed joins the character before it, a carriage return. -/
theorem joins_cons_iff {b : Char} {before : List Char} (hb : isAscii b) (hc : isAscii c) :
    joins (b :: before) c = true ↔ b = '\r' ∧ c = '\n' := by
  have hconsonant : isConjunctConsonant c = false :=
    inRanges_eq_false (by decide +kernel) hc
  have hpicture : isPictographic c = false := inRanges_eq_false (by decide +kernel) hc
  -- what is left to the context needs a character that ASCII does not have
  simp only [joins, hconsonant, hpicture, clusterClass_of_isAscii hb, clusterClass_of_isAscii hc]
  split_ifs <;> simp_all [joinsByClass]

theorem clusters_cons_cons {b : Char} (hb : isAscii b) (hc : isAscii c)
    (h : ¬ (b = '\r' ∧ c = '\n')) : clusters (b :: c :: t) = [b] :: clusters (c :: t) := by
  rw [clusters, clustersFrom, if_neg (mt (joins_cons_iff hb hc).1 h)]
  rfl

/-- A line break is one cluster. -/
theorem clusters_lineBreak (h : Ascii t) :
    clusters ('\r' :: '\n' :: t) = ['\r', '\n'] :: clusters t := by
  have hjoins : joins ['\r'] '\n' = true := (joins_cons_iff rfl rfl).2 ⟨rfl, rfl⟩
  rw [clusters, clustersFrom, if_pos hjoins]
  cases t with
  | nil => rfl
  | cons d t =>
      -- a line feed is joined by nothing
      have hd : ¬ joins ['\n', '\r'] d = true := by
        rw [joins_cons_iff rfl (List.forall_mem_cons.1 h).1]
        simp
      rw [clustersFrom, if_neg hd]
      rfl

/-- The first cluster is the first character, or a line break. -/
theorem head?_clusters (h : Ascii (c :: t)) :
    (clusters (c :: t)).head? = some [c]
      ∨ c = '\r' ∧ (clusters (c :: t)).head? = some ['\r', '\n'] := by
  cases t with
  | nil => exact .inl rfl
  | cons d t =>
      obtain ⟨hc, h⟩ := List.forall_mem_cons.1 h
      obtain ⟨hd, ht⟩ := List.forall_mem_cons.1 h
      by_cases hbreak : c = '\r' ∧ d = '\n'
      · obtain ⟨rfl, rfl⟩ := hbreak
        rw [clusters_lineBreak ht]
        exact .inr ⟨rfl, rfl⟩
      · rw [clusters_cons_cons hc hd hbreak]
        exact .inl rfl

end EntitySchema.Text
