/-
  EntitySchema.Proofs.Run.Manifest
  ────────────────────────────────
  **WHAT THE TEXT OF A MANIFEST TELLS.**

  A manifest starts with two texts, the identifier of the run and its
  status.  A quoted text can be told from what follows it, so equal texts
  of manifests have equal statuses, whatever else they hold.

  Main result: `status_eq_of_fileText`.
-/
import EntitySchema.Run.Manifest
import EntitySchema.Proofs.Json.WrittenText

namespace EntitySchema

/-! ## §1. Members that are texts. -/

namespace Json

variable {k s s' : String} {level : Nat} {rest rest' : List Char}

/-- A quoted text ends where it ends, whatever follows. -/
theorem quoted_append_inj (h : (quoted s).toList ++ rest = (quoted s').toList ++ rest') :
    s = s' ∧ rest = rest' := by
  have hquoted : ∀ (t : String) (r : List Char),
      (quoted t).toList ++ r = '"' :: (t.toList.flatMap escapeChar ++ '"' :: r) := by
    intro t r
    simp [quoted]
  rw [hquoted, hquoted, List.cons.injEq] at h
  -- what follows the first quote is read in one way only
  have hread := congrArg readText h.2
  rw [readText_append, readText_append, Option.some.injEq, Prod.mk.injEq] at hread
  exact ⟨String.toList_inj.1 hread.1, hread.2⟩

/-- Members of an object that starts with a text. -/
theorem partsText_text (level : Nat) (k s : String) (m : String × Json)
    (ms : List (String × Json)) :
    partsText level (prettyMembers level ((k, .text s) :: m :: ms))
      = (quoted k ++ ": ").toList ++ ((quoted s).toList
        ++ ',' :: ((lineBreak level).toList ++ partsText level (prettyMembers level (m :: ms)))) := by
  obtain ⟨k', v⟩ := m
  rw [prettyMembers, prettyMembers, partsText_cons_cons, prettyAt, String.toList_append,
    List.append_assoc]

/-- The first text of an object can be told, and so can what follows it. -/
theorem partsText_text_inj {m m' : String × Json} {ms ms' : List (String × Json)}
    (h : partsText level (prettyMembers level ((k, .text s) :: m :: ms)) ++ rest
      = partsText level (prettyMembers level ((k, .text s') :: m' :: ms')) ++ rest') :
    s = s' ∧ partsText level (prettyMembers level (m :: ms)) ++ rest
      = partsText level (prettyMembers level (m' :: ms')) ++ rest' := by
  simp only [partsText_text, List.append_assoc, List.cons_append] at h
  obtain ⟨hs, hrest⟩ := quoted_append_inj (List.append_cancel_left h)
  exact ⟨hs, List.append_cancel_left (List.cons.inj hrest).2⟩

/-- The members of an object in a file. -/
theorem toList_fileText_object (m : String × Json) (ms : List (String × Json)) :
    (fileText (.object (m :: ms))).toList
      = ("\x7b" : String).toList ++ ((lineBreak 1).toList
        ++ (partsText 1 (prettyMembers 1 (m :: ms))
          ++ ((lineBreak 0).toList ++ ("\x7d" : String).toList ++ ("\n" : String).toList))) := by
  obtain ⟨k, v⟩ := m
  rw [fileText, pretty, prettyAt, prettyMembers, String.toList_append, toList_block_cons]
  simp only [List.append_assoc]

end Json

/-! ## §2. The status. -/

namespace Manifest

/-- **THE TEXT OF A MANIFEST TELLS ITS STATUS.** -/
theorem status_eq_of_fileText {m m' : Manifest} (h : m.toJson.fileText = m'.toJson.fileText) :
    m.status = m'.status := by
  have htext := congrArg String.toList h
  rw [toJson, toJson, Json.toList_fileText_object, Json.toList_fileText_object] at htext
  obtain ⟨-, htext⟩ := Json.partsText_text_inj
    (List.append_cancel_left (List.append_cancel_left htext))
  obtain ⟨hname, -⟩ := Json.partsText_text_inj htext
  cases hm : m.status <;> cases hm' : m'.status <;> simp_all [RunStatus.name]

end Manifest
end EntitySchema
