/-
  EntitySchema.Text.Lines
  ────────────────────────────────
  **TEXTS OF LINES.**

  A text as a list of lines, each of which ends in a line break, the last
  one too.
-/
namespace EntitySchema.Text

/-- Text of the listed lines. -/
def unlines (lines : List String) : String := String.join (lines.map (· ++ "\n"))

end EntitySchema.Text
