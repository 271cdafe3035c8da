/-
  EntitySchema.Proofs.Identifier.Words
  ────────────────────────────────
  **JOINED WORDS ARE CUT APART AGAIN.**

  An ASCII name that is cut into words, spelt in one case throughout and
  joined by underscores has the same words again:

      createdAt2  →  created  At  2  →  created_at_2  →  created  at  2

  Between two letters of one case only a turn from letter to digit, or
  back, ends a word.  Every word of a name is `Solid`, free of turns and
  separators, and a change of case leaves it so; what is solid is read on
  up to the next underscore.

  Main result: `letterWords_intercalate`.
-/
import EntitySchema.Identifier.Words
import EntitySchema.Proofs.Text.Ascii
import Mathlib.Data.List.Chain

namespace EntitySchema.Identifier

open EntitySchema.Text

/-! ## §1. Shapes without case. -/

/-- Shape with both cases taken as one. -/
def Shape.uncased : Shape → Shape
  | .lower => .upper
  | s => s

/-- Whether a word ends between two letters whatever their cases. -/
def turns (left right : Shape) : Bool :=
  match left.uncased, right.uncased with
  | .upper, .digit | .digit, .upper => true
  | _, _ => false

theorem Shape.uncased_eq_separator {s : Shape} : s.uncased = .separator ↔ s = .separator := by
  cases s <;> simp [uncased]

theorem cutsBetween_of_turns {l r : Shape} (h : turns l r = true) (after : Option Shape) :
    cutsBetween l r after = true := by
  cases l <;> cases r <;> first | rfl | cases h

/-- Where one of the two cases is missing, a word ends at turns only. -/
theorem cutsBetween_eq_turns {l r x : Shape} {after : Option Shape} (hx : x = .lower ∨ x = .upper)
    (hl : l ≠ x) (hr : r ≠ x) (ha : after ≠ some x) : cutsBetween l r after = turns l r := by
  rcases hx with rfl | rfl <;> cases l <;> cases r <;>
    simp_all [cutsBetween, turns, Shape.uncased]

theorem turns_separator (l : Shape) : turns l .separator = false := by
  cases l <;> rfl

theorem shape_underscore : shape ['_'] = .separator := rfl

/-- Letters of a text, each on its own. -/
def letters (t : List Char) : List (List Char) := t.map fun c => [c]

theorem wordsFrom_letters_cons (w : List Char) (c : Char) (t : List Char) :
    wordsFrom w (letters (c :: t))
      = if shape [c] = .separator then w :: wordsFrom [] (letters t)
        else if cutsBefore [c] (letters t) then (w ++ [c]) :: wordsFrom [] (letters t)
        else wordsFrom (w ++ [c]) (letters t) := rfl

/-- Words of a text whose letters each stand on their own. -/
def letterWords (t : List Char) : List (List Char) := wordsFrom [] (letters t)

theorem wordsFrom_ne_nil (w : List Char) (gs : List (List Char)) : wordsFrom w gs ≠ [] := by
  induction gs generalizing w with
  | nil => exact List.cons_ne_nil w []
  | cons g gs ih =>
      rw [wordsFrom]
      split
      · exact List.cons_ne_nil _ _
      · split
        · exact List.cons_ne_nil _ _
        · exact ih _

theorem letterWords_ne_nil (t : List Char) : letterWords t ≠ [] := wordsFrom_ne_nil [] _

/-! ## §2. Solid words. -/

/-- A word that has neither a separator nor a turn in it. -/
structure Solid (w : List Char) : Prop where
  letters : ∀ c ∈ w, shape [c] ≠ .separator
  unturned : w.IsChain fun a b => turns (shape [a]) (shape [b]) = false

theorem Solid.nil : Solid [] := ⟨by simp, .nil⟩

theorem solid_cons_iff {c : Char} {w : List Char} :
    Solid (c :: w) ↔ shape [c] ≠ .separator
      ∧ (∀ d ∈ w.head?, turns (shape [c]) (shape [d]) = false) ∧ Solid w := by
  constructor
  · intro h
    obtain ⟨hc, hw⟩ := List.forall_mem_cons.1 h.letters
    obtain ⟨hturn, hchain⟩ := List.isChain_cons.1 h.unturned
    exact ⟨hc, hturn, hw, hchain⟩
  · intro h
    obtain ⟨hc, hturn, hw⟩ := h
    exact ⟨List.forall_mem_cons.2 ⟨hc, hw.letters⟩, List.isChain_cons.2 ⟨hturn, hw.unturned⟩⟩

/-- A solid word grows by a letter that its last one does not turn to. -/
theorem Solid.concat {w : List Char} (hw : Solid w) {c : Char} (hc : shape [c] ≠ .separator)
    (h : ∀ a ∈ w.getLast?, turns (shape [a]) (shape [c]) = false) : Solid (w ++ [c]) := by
  constructor
  · intro a ha
    rcases List.mem_append.1 ha with ha | ha
    · exact hw.letters a ha
    · rwa [List.mem_singleton.1 ha]
  · exact List.isChain_append.2 ⟨hw.unturned, .singleton c, by simpa using h⟩

theorem turns_eq_false_of_not_cutsBefore {c d : Char} {t : List Char}
    (h : ¬ cutsBefore [c] (letters t) = true) (hd : d ∈ t.head?) :
    turns (shape [c]) (shape [d]) = false := by
  obtain ⟨t, rfl⟩ := List.head?_eq_some_iff.1 hd
  exact Bool.eq_false_iff.2 fun hturn => h (cutsBetween_of_turns hturn _)

/-- Every word is solid, given a solid start of the first one that the text
does not turn away from. -/
theorem solid_of_mem_wordsFrom {t w v : List Char} (hw : Solid w)
    (h : ∀ a ∈ w.getLast?, ∀ c ∈ t.head?, turns (shape [a]) (shape [c]) = false)
    (hv : v ∈ wordsFrom w (letters t)) : Solid v := by
  induction t generalizing w with
  | nil =>
      rw [List.mem_singleton.1 hv]
      exact hw
  | cons c t ih =>
      rw [wordsFrom_letters_cons] at hv
      split at hv
      next hsep =>
        -- the word ends before the separator, and the next one is empty so far
        rcases List.mem_cons.1 hv with rfl | hv
        · exact hw
        · exact ih .nil (by simp) hv
      next hsep =>
        have hgrown : Solid (w ++ [c]) := hw.concat hsep fun a ha => h a ha c rfl
        split at hv
        next =>
          rcases List.mem_cons.1 hv with rfl | hv
          · exact hgrown
          · exact ih .nil (by simp) hv
        next hcut =>
          -- no word ends here, so the letter does not turn to the next one
          refine ih hgrown (fun a ha d hd => ?_) hv
          rw [List.getLast?_concat, Option.mem_some_iff] at ha
          subst ha
          exact turns_eq_false_of_not_cutsBefore hcut hd

theorem solid_of_mem_letterWords {t v : List Char} (hv : v ∈ letterWords t) : Solid v :=
  solid_of_mem_wordsFrom .nil (by simp) hv

/-! ## §3. Reading solid words. -/

section Uncut

-- the case `x` is missing from the texts of this section
variable {x : Shape}

theorem cutsBefore_eq_false (hx : x = .lower ∨ x = .upper) {c : Char} {t : List Char}
    (hmissing : ∀ d ∈ c :: t, shape [d] ≠ x)
    (h : ∀ d ∈ t.head?, turns (shape [c]) (shape [d]) = false) :
    cutsBefore [c] (letters t) = false := by
  cases t with
  | nil => rfl
  | cons d t =>
      have hafter : (letters t).head?.map shape ≠ some x := by
        cases t with
        | nil => exact Option.some_ne_none x |>.symm
        | cons e t => simpa [letters] using hmissing e (by simp)
      show cutsBetween (shape [c]) (shape [d]) ((letters t).head?.map shape) = false
      rw [cutsBetween_eq_turns hx (hmissing c (by simp)) (hmissing d (by simp)) hafter]
      exact h d rfl

/-- A solid word is read on up to its end, where a separator may follow. -/
theorem wordsFrom_append (hx : x = .lower ∨ x = .upper) {v u : List Char} (hv : Solid v)
    (w : List Char) (hmissing : ∀ c ∈ v ++ u, shape [c] ≠ x)
    (hu : ∀ c ∈ u.head?, shape [c] = .separator) :
    wordsFrom w (letters (v ++ u)) = wordsFrom (w ++ v) (letters u) := by
  induction v generalizing w with
  | nil => rw [List.append_nil, List.nil_append]
  | cons c v ih =>
      obtain ⟨hc, hturn, hv⟩ := solid_cons_iff.1 hv
      have hcut : cutsBefore [c] (letters (v ++ u)) = false := by
        refine cutsBefore_eq_false hx hmissing fun d hd => ?_
        -- the next letter is one of the word, or the separator behind it
        cases v with
        | nil => rw [hu d hd, turns_separator]
        | cons b v => exact hturn d hd
      rw [List.cons_append, wordsFrom_letters_cons, if_neg hc, hcut, if_neg Bool.false_ne_true,
        ih hv _ fun d hd => hmissing d (List.mem_cons_of_mem c hd), List.append_assoc]
      rfl

/-- **Joined words are cut apart again.** -/
theorem letterWords_intercalate (hx : x = .lower ∨ x = .upper) {vs : List (List Char)}
    (hne : vs ≠ []) (hsolid : ∀ v ∈ vs, Solid v)
    (hmissing : ∀ c ∈ ['_'].intercalate vs, shape [c] ≠ x) :
    letterWords (['_'].intercalate vs) = vs := by
  induction vs with
  | nil => exact absurd rfl hne
  | cons v vs ih =>
      obtain ⟨hv, hvs⟩ := List.forall_mem_cons.1 hsolid
      cases vs with
      | nil =>
          rw [List.intercalate_singleton] at hmissing ⊢
          have hread := wordsFrom_append hx hv [] (u := []) (by simpa using hmissing) (by simp)
          rwa [List.append_nil] at hread
      | cons v' vs =>
          rw [List.intercalate_cons_cons, List.append_assoc] at hmissing ⊢
          have hrest := (List.forall_mem_append.1 (List.forall_mem_append.1 hmissing).2).2
          -- the first word is read up to its underscore, then the others are
          calc letterWords (v ++ (['_'] ++ ['_'].intercalate (v' :: vs)))
            _ = wordsFrom v (letters ('_' :: ['_'].intercalate (v' :: vs))) :=
                wordsFrom_append hx hv [] hmissing (by simp [shape_underscore])
            _ = v :: letterWords (['_'].intercalate (v' :: vs)) := by
                rw [wordsFrom_letters_cons, if_pos shape_underscore, letterWords]
            _ = v :: v' :: vs := by
                rw [ih (List.cons_ne_nil v' vs) hvs hrest]

end Uncut

/-! ## §4. ASCII texts. -/

theorem shape_lineBreak : shape ['\r', '\n'] = .other := by decide +kernel

theorem shape_carriageReturn : shape ['\r'] = .other := by decide +kernel

theorem shape_lineFeed : shape ['\n'] = .other := by decide +kernel

theorem cutsBetween_other_left (r : Shape) (after : Option Shape) :
    cutsBetween .other r after = false := rfl

theorem cutsBetween_other_right (l : Shape) (after : Option Shape) :
    cutsBetween l .other after = false := by
  cases l <;> rfl

theorem cutsBefore_of_shape_other {g : List Char} (hg : shape g = .other)
    (rest : List (List Char)) : cutsBefore g rest = false := by
  cases rest with
  | nil => rfl
  | cons next later => rw [cutsBefore, hg, cutsBetween_other_left]

/-- The letters behind a letter have the shapes of the clusters there, up to
a line break. -/
theorem cutsBefore_clusters {t : List Char} (h : Ascii t) (g : List Char) :
    cutsBefore g (clusters t) = cutsBefore g (letters t) := by
  -- two clusters are looked at; of ASCII characters only a line break makes one of two
  match t with
  | [] => rfl
  | [_] => rfl
  | b :: c :: t =>
      obtain ⟨hb, hct⟩ := List.forall_mem_cons.1 h
      obtain ⟨hc, ht⟩ := List.forall_mem_cons.1 hct
      show _ = cutsBetween (shape g) (shape [b]) (some (shape [c]))
      by_cases hbreak : b = '\r' ∧ c = '\n'
      · obtain ⟨rfl, rfl⟩ := hbreak
        rw [clusters_lineBreak ht, cutsBefore, shape_lineBreak, shape_carriageReturn,
          cutsBetween_other_right, cutsBetween_other_right]
      · rw [clusters_cons_cons hb hc hbreak, cutsBefore]
        rcases head?_clusters hct with hhead | ⟨rfl, hhead⟩
        · rw [hhead]
          rfl
        · rw [hhead, Option.map_some, shape_lineBreak, shape_carriageReturn]

theorem wordsFrom_cons_of_shape_other {g : List Char} (hg : shape g = .other) (w : List Char)
    (rest : List (List Char)) : wordsFrom w (g :: rest) = wordsFrom (w ++ g) rest := by
  rw [wordsFrom, hg, cutsBefore_of_shape_other hg]
  rfl

/-- Nothing is cut next to a line break, so it may as well be two letters. -/
theorem wordsFrom_clusters : ∀ {t : List Char}, Ascii t → ∀ w : List Char,
    wordsFrom w (clusters t) = wordsFrom w (letters t)
  | [], _, _ => rfl
  | [_], _, _ => rfl
  | b :: c :: t, h, w => by
      obtain ⟨hb, hct⟩ := List.forall_mem_cons.1 h
      obtain ⟨hc, ht⟩ := List.forall_mem_cons.1 hct
      by_cases hbreak : b = '\r' ∧ c = '\n'
      · obtain ⟨rfl, rfl⟩ := hbreak
        -- neither the break nor its characters end a word
        show _ = wordsFrom w (['\r'] :: ['\n'] :: letters t)
        rw [clusters_lineBreak ht, wordsFrom_cons_of_shape_other shape_lineBreak,
          wordsFrom_cons_of_shape_other shape_carriageReturn,
          wordsFrom_cons_of_shape_other shape_lineFeed, wordsFrom_clusters ht, List.append_assoc]
        rfl
      · rw [clusters_cons_cons hb hc hbreak, wordsFrom, wordsFrom_letters_cons,
          cutsBefore_clusters hct, wordsFrom_clusters hct, wordsFrom_clusters hct]

theorem ascii_of_mem_wordsFrom {t w v : List Char} (hw : Ascii w) (ht : Ascii t)
    (hv : v ∈ wordsFrom w (letters t)) : Ascii v := by
  induction t generalizing w with
  | nil =>
      rw [List.mem_singleton.1 hv]
      exact hw
  | cons c t ih =>
      obtain ⟨hc, ht⟩ := List.forall_mem_cons.1 ht
      have hgrown : Ascii (w ++ [c]) := List.forall_mem_append.2 ⟨hw, by simpa using hc⟩
      rw [wordsFrom_letters_cons] at hv
      split at hv
      · rcases List.mem_cons.1 hv with rfl | hv
        · exact hw
        · exact ih .nil ht hv
      · split at hv
        · rcases List.mem_cons.1 hv with rfl | hv
          · exact hgrown
          · exact ih .nil ht hv
        · exact ih hgrown ht hv

/-- Words of an ASCII text are ASCII texts. -/
theorem ascii_of_mem_letterWords {t v : List Char} (ht : Ascii t) (hv : v ∈ letterWords t) :
    Ascii v :=
  ascii_of_mem_wordsFrom .nil ht hv

end EntitySchema.Identifier
