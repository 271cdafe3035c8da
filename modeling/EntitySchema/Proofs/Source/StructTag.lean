/-
  EntitySchema.Proofs.Source.StructTag
  ────────────────────────────────
  **WHAT BECOMES OF A STRUCT TAG.**

  A struct tag is written as a raw literal, or quoted if a backquote keeps it
  from being one.  A raw literal has no escapes, and the carriage returns in
  it do not count:

      json:"id"      `json:"id"`      the tag
      `json:"id"`    as it is         what is between the backquotes
      a`b            "a`b"            the tag
      a\rb           `a\rb`           ab

  So a tag keeps its value iff no carriage return is in it, or a backquote
  has it quoted.

  Main result: `tag_keeps_value_iff`.
-/
import EntitySchema.Proofs.Source.LiteralValue

namespace EntitySchema.Source

/-! ## §1. Raw literals. -/

/-- A text without its carriage returns. -/
def withoutReturns (s : String) : String := String.ofList (s.toList.filter (· ≠ '\r'))

theorem withoutReturns_eq_self_iff {s : String} : withoutReturns s = s ↔ '\r' ∉ s.toList := by
  rw [withoutReturns, ← String.toList_inj, String.toList_ofList, List.filter_eq_self]
  constructor
  · intro h hmem
    simpa using h _ hmem
  · intro h c hc
    have hne : c ≠ '\r' := by
      rintro rfl
      exact h hc
    simpa using hne

theorem readRaw_append {cs : List Char} (h : backquote ∉ cs) (x : List Char) :
    readRaw (cs ++ backquote :: x) = some ((cs.filter (· ≠ '\r')).utf8Encode, x) := by
  induction cs with
  | nil =>
      rw [List.nil_append, readRaw, if_pos rfl]
      rfl
  | cons c cs ih =>
      rw [List.mem_cons, not_or] at h
      rw [List.cons_append, readRaw, if_neg (Ne.symm h.1), ih h.2]
      by_cases hreturn : c = '\r'
      · rw [if_pos hreturn, List.filter_cons_of_neg (by simp [hreturn])]
      · rw [if_neg hreturn, List.filter_cons_of_pos (by simp [hreturn]),
          List.utf8Encode_cons (l := cs.filter _), Option.map_some, charBytes_eq]

/-- Text between backquotes. -/
def enclosed (s : String) : List Char := backquote :: (s.toList ++ [backquote])

theorem readLiteral_enclosed {s : String} (h : backquote ∉ s.toList) :
    readLiteral (enclosed s) = some ((withoutReturns s).toUTF8, []) := by
  rw [enclosed, readLiteral, if_neg (by decide), if_pos rfl, readRaw_append h, withoutReturns,
    String.toUTF8_eq_toByteArray, String.toByteArray_ofList]

/-- A raw literal is a text without backquotes between two of them. -/
theorem isRawLiteral_iff {t : List Char} :
    isRawLiteral t = true ↔ ∃ s : String, backquote ∉ s.toList ∧ t = enclosed s := by
  cases t with
  | nil => simp [isRawLiteral, enclosed]
  | cons c rest =>
      simp only [isRawLiteral, enclosed, Bool.and_eq_true, decide_eq_true_eq, Bool.not_eq_true',
        List.contains_eq_mem, decide_eq_false_iff_not, List.cons.injEq]
      constructor
      · rintro ⟨⟨rfl, hlast⟩, hinner⟩
        obtain ⟨cs, rfl⟩ := List.getLast?_eq_some_iff.1 hlast
        rw [List.dropLast_concat] at hinner
        exact ⟨String.ofList cs, by simpa using hinner, rfl, by rw [String.toList_ofList]⟩
      · rintro ⟨s, hs, rfl, rfl⟩
        rw [List.dropLast_concat, List.getLast?_concat]
        exact ⟨⟨rfl, rfl⟩, hs⟩

/-! ## §2. Tags. -/

/-- Text that a struct tag stands for: what is between the backquotes if it is
a raw literal already. -/
def tagText (s : String) : String :=
  if isRawLiteral s.toList then String.ofList s.toList.tail.dropLast else s

/-- A tag is quoted if it has a backquote and is no raw literal. -/
def isQuotedTag (s : String) : Bool := !isRawLiteral s.toList && s.toList.contains backquote

/-- A tag is quoted, or is between backquotes. -/
theorem raw_cases (s : String) :
    isQuotedTag s = true ∧ tagText s = s ∧ raw s = quote s
      ∨ isQuotedTag s = false ∧ backquote ∉ (tagText s).toList
        ∧ (raw s).toList = enclosed (tagText s) := by
  unfold isQuotedTag tagText raw
  -- a literal is written as it is, a text with a backquote is quoted, any other one is enclosed
  by_cases hraw : isRawLiteral s.toList = true
  · obtain ⟨t, ht, heq⟩ := isRawLiteral_iff.1 hraw
    have hinner : String.ofList s.toList.tail.dropLast = t := by
      rw [heq, enclosed, List.tail_cons, List.dropLast_concat, String.ofList_toList]
    simp only [hraw, if_true, hinner]
    exact .inr ⟨rfl, ht, heq⟩
  · simp only [hraw, Bool.false_eq_true, if_false, Bool.not_false, Bool.true_and]
    by_cases hquote : s.toList.contains backquote = true
    · rw [if_pos hquote]
      exact .inl ⟨hquote, trivial, rfl⟩
    · rw [if_neg hquote]
      exact .inr ⟨by simpa using hquote, by simpa using hquote, String.toList_ofList⟩

/-- **A STRUCT TAG IS WRITTEN AS ONE LITERAL.**  It denotes the tag if it is
quoted, and else the tag without its carriage returns: it keeps its value
iff there are none, or it is quoted. -/
theorem tag_keeps_value_iff (s : String) :
    literalValue? (raw s)
        = some (if isQuotedTag s then tagText s else withoutReturns (tagText s)).toUTF8
      ∧ (literalValue? (raw s) = some (tagText s).toUTF8
        ↔ '\r' ∉ (tagText s).toList ∨ isQuotedTag s = true) := by
  rcases raw_cases s with ⟨hquoted, htext, hraw⟩ | ⟨hquoted, htext, hraw⟩
  · have hvalue : literalValue? (raw s) = some (tagText s).toUTF8 := by
      rw [hraw, htext, literalValue?_quote]
    rw [if_pos hquoted]
    exact ⟨hvalue, iff_of_true hvalue (.inr hquoted)⟩
  · have hvalue : literalValue? (raw s) = some (withoutReturns (tagText s)).toUTF8 :=
      literalValue?_eq (by rw [hraw, readLiteral_enclosed htext])
    have hne : ¬ isQuotedTag s = true := by simp [hquoted]
    rw [if_neg hne, or_iff_left hne, hvalue, ← withoutReturns_eq_self_iff]
    exact ⟨rfl, fun h => toUTF8_inj (Option.some.inj h), fun h => by rw [h]⟩

/-- A tag that loses a character. -/
theorem carriageReturn_lost :
    literalValue? (raw "a\rb") = some "ab".toUTF8
      ∧ literalValue? (raw "a\rb") ≠ some (tagText "a\rb").toUTF8 := by
  obtain ⟨hvalue, hkept⟩ := tag_keeps_value_iff "a\rb"
  exact ⟨hvalue, fun h => absurd (hkept.1 h) (by decide)⟩

end EntitySchema.Source
