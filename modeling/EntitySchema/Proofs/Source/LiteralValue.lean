/-
  EntitySchema.Proofs.Source.LiteralValue
  ────────────────────────────────
  **WHAT A LITERAL DENOTES.**

  A literal denotes bytes.  One between double quotes denotes those of its
  characters and escapes, one between backquotes those of its characters
  but for carriage returns.  A quoted text is a single literal that denotes
  the text, and quoted texts behind one another are literals with commas
  between them, one for each text:

      "a\"b", "c"    →    a"b    and    c

  Main result: `quoted_texts_read_back`.
-/
import EntitySchema.Proofs.Source.Literal

namespace EntitySchema.Source

/-! ## §1. Literals. -/

/-- The bytes up to the closing backquote, and what follows it. -/
def readRaw : List Char → Option (ByteArray × List Char)
  | [] => none
  | c :: rest =>
      if c = backquote then some (.empty, rest)
      else if c = '\r' then readRaw rest
      else (readRaw rest).map fun r => (charBytes c ++ r.1, r.2)

/-- The bytes of the literal that a text starts with, and what follows it. -/
def readLiteral : List Char → Option (ByteArray × List Char)
  | [] => none
  | c :: rest =>
      if c = '"' then readInterpreted rest
      else if c = backquote then readRaw rest
      else none

/-- The bytes that a source denotes if it is a single literal. -/
def literalValue? (source : String) : Option ByteArray :=
  match readLiteral source.toList with
  | some (bytes, []) => some bytes
  | _ => none

theorem literalValue?_eq {source : String} {bytes : ByteArray}
    (h : readLiteral source.toList = some (bytes, [])) : literalValue? source = some bytes := by
  rw [literalValue?, h]

theorem readLiteral_quote_append (s x : String) :
    readLiteral (quote s ++ x).toList = some (s.toUTF8, x.toList) := by
  rw [toList_quote_append, readLiteral, if_pos rfl, readInterpreted_append,
    String.utf8Encode_toList, String.toUTF8_eq_toByteArray]

theorem literalValue?_quote (s : String) : literalValue? (quote s) = some s.toUTF8 := by
  refine literalValue?_eq ?_
  have hread := readLiteral_quote_append s ""
  rwa [String.append_empty] at hread

/-! ## §2. Quotes inside. -/

/-- A backslash at the end of a text has nothing to escape yet. -/
def awaitsEscaped (cs : List Char) : Bool := cs.foldl (fun waiting c => !waiting && c = '\\') false

theorem toList_quote (s : String) :
    (quote s).toList = '"' :: (s.toList.flatMap escapeChar ++ ['"']) := by
  simp [quote]

/-- A quote among written characters is an escaped one. -/
theorem awaitsEscaped_of_flatMap {s x y : List Char} (h : s.flatMap escapeChar = x ++ '"' :: y) :
    awaitsEscaped x = true := by
  induction s generalizing x with
  | nil => simp at h
  | cons c s ih =>
      rw [List.flatMap_cons] at h
      rcases escapeChar_cases c with ⟨e, he, -⟩ | ⟨hc, hquote, hbackslash, -⟩
      · rw [he, List.cons_append, List.singleton_append] at h
        match x with
        | [] => simp at h
        | [d] =>
            rw [(List.cons.inj h).1.symm]
            rfl
        | d :: d' :: x =>
            -- a backslash and the letter behind it leave nothing open
            simp only [List.cons_append, List.cons.injEq] at h
            have hx := ih h.2.2
            unfold awaitsEscaped at hx ⊢
            simpa [← h.1] using hx
      · rw [hc, List.singleton_append] at h
        match x with
        | [] => exact absurd (List.cons.inj h).1 hquote
        | d :: x =>
            rw [List.cons_append, List.cons.injEq] at h
            have hx := ih h.2
            unfold awaitsEscaped at hx ⊢
            rwa [← h.1, List.foldl_cons, Bool.not_false, Bool.true_and, decide_eq_false hbackslash]

theorem newline_notMem_quote (s : String) : '\n' ∉ (quote s).toList := by
  rw [toList_quote]
  suffices h : ∀ c ∈ s.toList, '\n' ∉ escapeChar c by simpa using h
  intro c _
  rcases escapeChar_cases c with ⟨e, he, hc⟩ | ⟨hc, -, -, hnewline⟩
  · rw [he]
    have hne : '\n' ≠ e := by
      rintro rfl
      cases hc
    simpa using hne
  · rw [hc]
    simpa using Ne.symm hnewline

/-! ## §3. Literals behind one another. -/

theorem length_readInterpreted {cs : List Char} {r : ByteArray × List Char}
    (h : readInterpreted cs = some r) : r.2.length < cs.length := by
  fun_induction readInterpreted cs generalizing r with
  | case1 => cases h
  | case2 rest =>
      cases h
      simp
  | case3 => cases h
  | case4 cs bytes rest hescape ih =>
      obtain ⟨r', hr', rfl⟩ := Option.map_eq_some_iff.1 h
      have hshorter := length_readEscape hescape
      have hrest := ih hr'
      simp only [List.length_cons] at *
      omega
  | case5 => cases h
  | case6 c rest _ _ _ ih =>
      obtain ⟨r', hr', rfl⟩ := Option.map_eq_some_iff.1 h
      have hrest := ih hr'
      simp only [List.length_cons] at *
      omega

theorem length_readRaw {cs : List Char} {r : ByteArray × List Char}
    (h : readRaw cs = some r) : r.2.length < cs.length := by
  induction cs generalizing r with
  | nil => cases h
  | cons c cs ih =>
      rw [readRaw] at h
      split at h
      · cases h
        simp
      · split at h
        · have hrest := ih h
          simp only [List.length_cons]
          omega
        · obtain ⟨r', hr', rfl⟩ := Option.map_eq_some_iff.1 h
          have hrest := ih hr'
          simp only [List.length_cons]
          omega

theorem length_readLiteral {cs : List Char} {r : ByteArray × List Char}
    (h : readLiteral cs = some r) : r.2.length < cs.length := by
  cases cs with
  | nil => cases h
  | cons c cs =>
      rw [readLiteral] at h
      split at h
      · have hrest := length_readInterpreted h
        simp only [List.length_cons]
        omega
      · split at h
        · have hrest := length_readRaw h
          simp only [List.length_cons]
          omega
        · cases h

/-- Whether a character separates words of a source. -/
def isSpace (c : Char) : Bool := c = ' ' || c = '\t' || c = '\n' || c = '\r'

/-- The bytes of literals with commas between them; a comma may follow the
last one too. -/
def readLiterals : List Char → Option (List ByteArray)
  | [] => some []
  | c :: cs =>
      match _h : readLiteral (c :: cs) with
      | none => none
      | some (bytes, rest) =>
          match _hrest : rest.dropWhile isSpace with
          | [] => some [bytes]
          | ',' :: next => (readLiterals (next.dropWhile isSpace)).map (bytes :: ·)
          | _ => none
termination_by cs => cs.length
decreasing_by
  have hliteral := length_readLiteral _h
  have hrest := (List.dropWhile_sublist (l := rest) isSpace).length_le
  have hnext := (List.dropWhile_sublist (l := next) isSpace).length_le
  rw [_hrest] at hrest
  simp only [List.length_cons] at *
  omega

/-- The bytes that a source denotes if it is a list of literals. -/
def literalValues? (source : String) : Option (List ByteArray) :=
  readLiterals (source.toList.dropWhile isSpace)

theorem readLiterals_last {cs : List Char} {bytes : ByteArray}
    (h : readLiteral cs = some (bytes, [])) : readLiterals cs = some [bytes] := by
  cases cs with
  | nil => cases h
  | cons c cs =>
      rw [readLiterals]
      split
      next hnone => simp [h] at hnone
      next hsome =>
        cases h.symm.trans hsome
        rfl

theorem readLiterals_comma {cs next : List Char} {bytes : ByteArray}
    (h : readLiteral cs = some (bytes, ',' :: next)) :
    readLiterals cs = (readLiterals (next.dropWhile isSpace)).map (bytes :: ·) := by
  cases cs with
  | nil => cases h
  | cons c cs =>
      have hcomma : (',' :: next).dropWhile isSpace = ',' :: next := rfl
      rw [readLiterals]
      split
      next hnone => simp [h] at hnone
      next hsome =>
        cases h.symm.trans hsome
        split
        next hnil => simp [hcomma] at hnil
        next hnext =>
          cases hcomma.symm.trans hnext
          rfl
        next hother => exact absurd hcomma (hother next)

/-! ## §4. Quoted texts. -/

theorem quoteAll_cons_cons (s t : String) (ss : List String) :
    quoteAll (s :: t :: ss) = quote s ++ (", " ++ quoteAll (t :: ss)) := by
  rw [quoteAll, List.map_cons, List.map_cons, String.intercalate_cons_cons, String.append_assoc]
  rfl

/-- Quoted texts start with a quote, so no space comes before them. -/
theorem dropWhile_quoteAll (ss : List String) :
    (quoteAll ss).toList.dropWhile isSpace = (quoteAll ss).toList := by
  match ss with
  | [] => rfl
  | [s] =>
      rw [quoteAll, List.map_singleton, String.intercalate_singleton, toList_quote]
      rfl
  | s :: t :: ss =>
      rw [quoteAll_cons_cons, toList_quote_append]
      rfl

theorem readLiterals_quoteAll (ss : List String) :
    readLiterals (quoteAll ss).toList = some (ss.map String.toUTF8) := by
  -- a comma and a blank stand before each literal but the first
  induction ss with
  | nil =>
      have hnil : (quoteAll []).toList = [] := rfl
      rw [hnil, readLiterals]
      rfl
  | cons s ss ih =>
      cases ss with
      | nil =>
          have hread := readLiteral_quote_append s ""
          rw [String.append_empty] at hread
          rw [quoteAll, List.map_singleton, String.intercalate_singleton, readLiterals_last hread]
          rfl
      | cons t ss =>
          have hcomma : (", " ++ quoteAll (t :: ss)).toList
              = ',' :: ' ' :: (quoteAll (t :: ss)).toList := by
            rw [String.toList_append]
            rfl
          have hread := readLiteral_quote_append s (", " ++ quoteAll (t :: ss))
          rw [hcomma] at hread
          have hspace : (' ' :: (quoteAll (t :: ss)).toList).dropWhile isSpace
              = (quoteAll (t :: ss)).toList := dropWhile_quoteAll (t :: ss)
          rw [quoteAll_cons_cons, readLiterals_comma hread, hspace, ih]
          rfl

theorem literalValues?_quoteAll (ss : List String) :
    literalValues? (quoteAll ss) = some (ss.map String.toUTF8) := by
  rw [literalValues?, dropWhile_quoteAll, readLiterals_quoteAll]

theorem toUTF8_inj {s t : String} (h : s.toUTF8 = t.toUTF8) : s = t := by
  rwa [String.toUTF8_eq_toByteArray, String.toUTF8_eq_toByteArray, String.toByteArray_inj] at h

/-- A quoted text is a literal between double quotes. -/
theorem exists_readInterpreted_quote (s : String) :
    ∃ rest, (quote s).toList = '"' :: rest ∧ readInterpreted rest = some (s.toUTF8, []) := by
  refine ⟨_, toList_quote s, ?_⟩
  rw [readInterpreted_append, String.utf8Encode_toList, String.toUTF8_eq_toByteArray]

/-- **A QUOTED TEXT IS ONE LITERAL THAT DENOTES THE TEXT**: it is one between
double quotes, no line break is in it, every quote before its last character
is escaped, and its bytes are those of the text.  Quoted texts behind one
another denote the texts, one by one.  So neither form is shared by different
texts. -/
theorem quoted_texts_read_back :
    (∀ s : String, '\n' ∉ (quote s).toList
      ∧ (∀ x y, (quote s).toList = '"' :: (x ++ '"' :: y) → y ≠ [] → awaitsEscaped x = true)
      ∧ (∃ rest, (quote s).toList = '"' :: rest ∧ readInterpreted rest = some (s.toUTF8, []))
      ∧ literalValue? (quote s) = some s.toUTF8)
    ∧ (∀ ss : List String, literalValues? (quoteAll ss) = some (ss.map String.toUTF8))
    ∧ (∀ s t : String, quote s = quote t → s = t)
    ∧ ∀ ss ts : List String, quoteAll ss = quoteAll ts → ss = ts := by
  refine ⟨fun s => ⟨newline_notMem_quote s, fun x y h hy => ?_, exists_readInterpreted_quote s,
      literalValue?_quote s⟩,
    literalValues?_quoteAll, fun s t h => ?_, fun ss ts h => ?_⟩
  · -- the last quote is the closing one, so this one was written for the text
    obtain ⟨y, c, rfl⟩ := List.eq_nil_or_concat y |>.resolve_left hy
    rw [toList_quote, List.cons.injEq, List.concat_eq_append, ← List.cons_append,
      ← List.append_assoc] at h
    exact awaitsEscaped_of_flatMap (List.append_inj_left' h.2 rfl)
  · have hvalue := congrArg literalValue? h
    rw [literalValue?_quote, literalValue?_quote, Option.some.injEq] at hvalue
    exact toUTF8_inj hvalue
  · have hvalues := congrArg literalValues? h
    rw [literalValues?_quoteAll, literalValues?_quoteAll, Option.some.injEq] at hvalues
    exact (List.map_inj_right fun _ _ => toUTF8_inj).1 hvalues

end EntitySchema.Source
