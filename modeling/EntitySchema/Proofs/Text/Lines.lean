/-
  EntitySchema.Proofs.Text.Lines
  ────────────────────────────────
  **READING THE LINES OF A TEXT.**

  A text is cut at its line breaks.  A list in it is read from the line
  below its heading on, as long as the lines begin with the mark of an item:

      schema:              the heading
        - ent.graphql      an item, marked by two blanks, a dash and a blank
        - post.graphql     another one
      }                    no item, the list ends

  Main results: `lines_unlines_append`, `itemsUnder_append`, `linesBetween_append`.
-/
import EntitySchema.Text.Lines
import Mathlib.Data.List.Basic

namespace EntitySchema.Text

/-! ## §1. Lines. -/

/-- Lines of a text, what follows the last line break being one of them. -/
def lines (t : String) : List String := (t.toList.splitOn '\n').map String.ofList

/-- Lines that are written in front of a text are read in front of it. -/
theorem lines_unlines_append {ls : List String} (h : ∀ l ∈ ls, '\n' ∉ l.toList) (t : String) :
    lines (unlines ls ++ t) = ls ++ lines t := by
  induction ls with
  | nil => rw [unlines, List.map_nil, String.join_nil, String.empty_append, List.nil_append]
  | cons l ls ih =>
      obtain ⟨hl, hls⟩ := List.forall_mem_cons.1 h
      have htext : (unlines (l :: ls) ++ t).toList
          = l.toList ++ '\n' :: (unlines ls ++ t).toList := by
        simp [unlines]
      -- the first line break of the text is the one behind the first line
      have hcut : lines (unlines (l :: ls) ++ t) = l :: lines (unlines ls ++ t) := by
        rw [lines, htext, List.splitOn_append_cons_self_of_not_mem hl, List.map_cons,
          String.ofList_toList, lines]
      rw [hcut, ih hls, List.cons_append]

theorem lines_unlines {ls : List String} (h : ∀ l ∈ ls, '\n' ∉ l.toList) :
    lines (unlines ls) = ls ++ [""] := by
  have hlines := lines_unlines_append h ""
  rwa [String.append_empty] at hlines

theorem unlines_nil : unlines [] = "" := rfl

theorem unlines_cons (l : String) (ls : List String) :
    unlines (l :: ls) = l ++ "\n" ++ unlines ls := by
  rw [unlines, List.map_cons, String.join_cons, unlines]

theorem unlines_append (ls ls' : List String) :
    unlines (ls ++ ls') = unlines ls ++ unlines ls' := by
  rw [unlines, List.map_append, String.join_append, unlines, unlines]

theorem forall_ne_of_notMem {α : Type} [DecidableEq α] {a : α} {as : List α} (h : a ∉ as) :
    ∀ x ∈ as, decide (x ≠ a) = true := by
  intro x hx
  rw [decide_eq_true_iff]
  rintro rfl
  exact h hx

/-- What stands before the first of some character. -/
def upTo (c : Char) (t : String) : String := String.ofList (t.toList.takeWhile (· ≠ c))

theorem upTo_append {c : Char} {t rest : String} (ht : c ∉ t.toList)
    (hrest : rest.toList.head? = some c) : upTo c (t ++ rest) = t := by
  obtain ⟨u, hu⟩ := List.head?_eq_some_iff.1 hrest
  rw [upTo, String.toList_append, hu, List.takeWhile_append_of_pos (forall_ne_of_notMem ht),
    List.takeWhile_cons_of_neg (by simp), List.append_nil, String.ofList_toList]

/-! ## §2. Lists. -/

/-- What follows the mark in a line that begins with it. -/
def item? (mark line : String) : Option String :=
  if mark.toList <+: line.toList then some (String.ofList (line.toList.drop mark.toList.length))
  else none

/-- Items at the head of some lines. -/
def items (mark : String) : List String → List String
  | [] => []
  | l :: ls =>
      match item? mark l with
      | some i => i :: items mark ls
      | none => []

/-- Items below the first line that is the heading. -/
def itemsUnder (heading mark : String) (ls : List String) : List String :=
  items mark ((ls.dropWhile (· ≠ heading)).drop 1)

theorem item?_append (mark i : String) : item? mark (mark ++ i) = some i := by
  rw [item?, String.toList_append, if_pos (List.prefix_append ..), List.drop_left,
    String.ofList_toList]

theorem items_append {mark : String} (is : List String) {rest : List String}
    (hrest : items mark rest = []) : items mark (is.map (mark ++ ·) ++ rest) = is := by
  induction is with
  | nil => exact hrest
  | cons i is ih =>
      rw [List.map_cons, List.cons_append, items, item?_append]
      exact congrArg (i :: ·) ih

/-- **A list is read below its heading**, up to the first line without the
mark. -/
theorem itemsUnder_append {heading mark : String} {before rest : List String} (is : List String)
    (hbefore : heading ∉ before) (hrest : items mark rest = []) :
    itemsUnder heading mark (before ++ heading :: (is.map (mark ++ ·) ++ rest)) = is := by
  rw [itemsUnder, List.dropWhile_append_of_pos (forall_ne_of_notMem hbefore),
    List.dropWhile_cons_of_neg (by simp)]
  exact items_append is hrest

/-! ## §3. Sections. -/

/-- Lines between the first one that is a heading and the next heading. -/
def linesBetween (heading next : String) (ls : List String) : List String :=
  ((ls.dropWhile (· ≠ heading)).drop 1).takeWhile (· ≠ next)

theorem linesBetween_append {heading next : String} {before between rest : List String}
    (hbefore : heading ∉ before) (hbetween : next ∉ between) :
    linesBetween heading next (before ++ heading :: (between ++ next :: rest)) = between := by
  rw [linesBetween, List.dropWhile_append_of_pos (forall_ne_of_notMem hbefore),
    List.dropWhile_cons_of_neg (by simp), List.drop_one, List.tail_cons,
    List.takeWhile_append_of_pos (forall_ne_of_notMem hbetween),
    List.takeWhile_cons_of_neg (by simp), List.append_nil]

end EntitySchema.Text
