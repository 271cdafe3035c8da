/-
  EntitySchema.Proofs.Source.Literal
  ────────────────────────────────
  **WRITTEN LITERALS READ BACK.**

  Reading an interpreted literal from the left gives the bytes of the text
  that it was written for, and stops at its closing quote whatever follows:

      "say \"hi\"", next    →    say "hi"    and    , next

  So a literal at the start of a source tells its text and the rest.  The
  reader knows every escape of the language, also those that are never
  written:

      \n  \"  ...      a character by a letter
      \101  \x41       a byte by its number
      \u0041           a character by its code, "\U" with eight digits

  Main result: `quote_append_inj`.
-/
import EntitySchema.Source.Literal
import EntitySchema.Text.Hex

namespace EntitySchema.Source

open EntitySchema.Text (hexNumber? charOfCode?)

/-! ## §1. Reading. -/

/-- Character that a backslash and a letter stand for. -/
def escapedChar? : Char → Option Char
  | 'a' => some '\x07'
  | 'b' => some '\x08'
  | 'f' => some '\x0c'
  | 'n' => some '\n'
  | 'r' => some '\r'
  | 't' => some '\t'
  | 'v' => some '\x0b'
  | '\\' => some '\\'
  | '"' => some '"'
  | _ => none

/-- Value of an octal digit. -/
def octalValue? (c : Char) : Option Nat :=
  if '0' ≤ c && c ≤ '7' then some (c.toNat - '0'.toNat) else none

/-- Byte of octal digits; three digits may be too much for one. -/
def octalByte? (ds : List Char) : Option UInt8 :=
  (ds.foldlM (fun n d => (octalValue? d).map (n * 8 + ·)) 0).bind fun n =>
    if n < 256 then some (UInt8.ofNat n) else none

/-- Bytes of a character. -/
def charBytes (c : Char) : ByteArray := (String.singleton c).toUTF8

theorem charBytes_eq (c : Char) : charBytes c = [c].utf8Encode := by
  rw [charBytes, String.singleton_eq_ofList, String.toUTF8_eq_toByteArray,
    String.toByteArray_ofList]

/-- The bytes that the text behind a backslash stands for, and what follows
it. -/
def readEscape : List Char → Option (ByteArray × List Char)
  | 'x' :: a :: b :: rest => (hexNumber? [a, b]).map fun n => ([UInt8.ofNat n].toByteArray, rest)
  | 'u' :: a :: b :: c :: d :: rest =>
      ((hexNumber? [a, b, c, d]).bind charOfCode?).map fun ch => (charBytes ch, rest)
  | 'U' :: a :: b :: c :: d :: e :: f :: g :: h :: rest =>
      ((hexNumber? [a, b, c, d, e, f, g, h]).bind charOfCode?).map fun ch => (charBytes ch, rest)
  | a :: rest =>
      match escapedChar? a, rest with
      | some ch, _ => some (charBytes ch, rest)
      | none, b :: c :: rest => (octalByte? [a, b, c]).map fun n => ([n].toByteArray, rest)
      | none, _ => none
  | [] => none

theorem length_readEscape {cs : List Char} {r : ByteArray × List Char}
    (h : readEscape cs = some r) : r.2.length < cs.length := by
  unfold readEscape at h
  split at h
  case h_4 =>
    split at h
    · cases h
      simp
    · obtain ⟨n, -, rfl⟩ := Option.map_eq_some_iff.1 h
      simp only [List.length_cons]
      omega
    · cases h
  case h_5 => cases h
  all_goals
    obtain ⟨n, -, rfl⟩ := Option.map_eq_some_iff.1 h
    simp only [List.length_cons]
    omega

/-- The bytes up to the closing quote, and what follows it. -/
def readInterpreted : List Char → Option (ByteArray × List Char)
  | [] => none
  | '"' :: rest => some (.empty, rest)
  | '\\' :: rest =>
      match _h : readEscape rest with
      | none => none
      | some (bytes, rest) => (readInterpreted rest).map fun r => (bytes ++ r.1, r.2)
  | c :: rest =>
      if c = '\n' then none
      else (readInterpreted rest).map fun r => (charBytes c ++ r.1, r.2)
termination_by cs => cs.length
decreasing_by
  · have hshorter := length_readEscape _h
    simp only [List.length_cons] at *
    omega
  · simp

/-! ## §2. What was written. -/

/-- A character is written as an escape that stands for it, or as itself if
it needs none. -/
theorem escapeChar_cases (c : Char) :
    (∃ e, escapeChar c = ['\\', e] ∧ escapedChar? e = some c)
      ∨ escapeChar c = [c] ∧ c ≠ '"' ∧ c ≠ '\\' ∧ c ≠ '\n' := by
  -- five characters are escaped, and any other one stands for itself
  unfold escapeChar
  by_cases hquote : c = '"'
  · exact .inl ⟨_, if_pos hquote, by rw [hquote]; rfl⟩
  by_cases hbackslash : c = '\\'
  · rw [if_neg hquote]
    exact .inl ⟨_, if_pos hbackslash, by rw [hbackslash]; rfl⟩
  by_cases hnewline : c = '\n'
  · rw [if_neg hquote, if_neg hbackslash]
    exact .inl ⟨_, if_pos hnewline, by rw [hnewline]; rfl⟩
  rw [if_neg hquote, if_neg hbackslash, if_neg hnewline]
  by_cases hreturn : c = '\r'
  · exact .inl ⟨_, if_pos hreturn, by rw [hreturn]; rfl⟩
  rw [if_neg hreturn]
  by_cases htab : c = '\t'
  · exact .inl ⟨_, if_pos htab, by rw [htab]; rfl⟩
  · exact .inr ⟨if_neg htab, hquote, hbackslash, hnewline⟩

/-- A letter that stands for a character starts no number. -/
theorem readEscape_of_letter {e c : Char} (h : escapedChar? e = some c) (rest : List Char) :
    readEscape (e :: rest) = some (charBytes c, rest) := by
  have hx : e ≠ 'x' ∧ e ≠ 'u' ∧ e ≠ 'U' := by
    refine ⟨?_, ?_, ?_⟩ <;> rintro rfl <;> cases h
  rw [readEscape.eq_def]
  split <;> simp_all

theorem readInterpreted_escape {rest rest' : List Char} {bytes : ByteArray}
    (h : readEscape rest = some (bytes, rest')) :
    readInterpreted ('\\' :: rest) = (readInterpreted rest').map fun r => (bytes ++ r.1, r.2) := by
  rw [readInterpreted]
  split
  next hnone =>
    rw [h] at hnone
    cases hnone
  next hsome =>
    rw [h] at hsome
    cases hsome
    rfl

/-- A written character reads back, whatever follows. -/
theorem readInterpreted_escapeChar_append (c : Char) (rest : List Char) :
    readInterpreted (escapeChar c ++ rest)
      = (readInterpreted rest).map fun r => (charBytes c ++ r.1, r.2) := by
  rcases escapeChar_cases c with ⟨e, he, hc⟩ | ⟨hc, hquote, hbackslash, hnewline⟩
  · rw [he]
    exact readInterpreted_escape (readEscape_of_letter hc rest)
  · rw [hc, List.singleton_append, readInterpreted, if_neg hnewline]
    · exact hquote
    · exact hbackslash

theorem readInterpreted_append (s x : List Char) :
    readInterpreted (s.flatMap escapeChar ++ '"' :: x) = some (s.utf8Encode, x) := by
  induction s with
  | nil =>
      rw [List.flatMap_nil, List.nil_append, readInterpreted]
      rfl
  | cons c s ih =>
      rw [List.flatMap_cons, List.append_assoc, readInterpreted_escapeChar_append, ih,
        Option.map_some, charBytes_eq, List.utf8Encode_cons (l := s)]

theorem toList_quote_append (a x : String) :
    (quote a ++ x).toList = '"' :: (a.toList.flatMap escapeChar ++ '"' :: x.toList) := by
  simp [quote]

/-- **WRITTEN LITERALS READ BACK**: sources that start with a literal agree
iff both the texts and the rests do. -/
theorem quote_append_inj {a b x y : String} :
    quote a ++ x = quote b ++ y ↔ a = b ∧ x = y := by
  constructor
  · intro h
    rw [← String.toList_inj, toList_quote_append, toList_quote_append, List.cons.injEq] at h
    have hread := congrArg readInterpreted h.2
    rw [readInterpreted_append, readInterpreted_append, Option.some.injEq, Prod.mk.injEq,
      String.utf8Encode_toList, String.utf8Encode_toList, String.toByteArray_inj,
      String.toList_inj] at hread
    exact hread
  · intro h
    rw [h.1, h.2]

example : readInterpreted "say \\\"hi\\\"\", next".toList
    = some ("say \"hi\"".toUTF8, ", next".toList) := by cbv

end EntitySchema.Source
