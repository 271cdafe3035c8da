/-
  EntitySchema.Run.Revision
  ────────────────────────────────
  **WHAT VERSION CONTROL SAYS OF THE SOURCES.**

  A run asks the version control program which commit the sources are at and
  whether anything has changed since.  Where there is no such program, or no
  repository, the answer stays open, and the run goes on.
-/
import EntitySchema.Files.Script
import EntitySchema.Text.Decoding

namespace EntitySchema

/-- State of the sources under version control, as far as it is known. -/
structure Revision where
  commit : Option String := none
  dirty : Option Bool := none
  deriving DecidableEq, Repr

namespace Revision

/-- Words that ask for the commit. -/
def commitCall : List String := ["rev-parse", "HEAD"]

/-- Words that ask for what has changed. -/
def statusCall : List String := ["status", "--porcelain"]

/-- Commit that an output names. -/
def commitOf (o : CommandOutput) : Option String :=
  if o.success then some (Text.trim (Text.decodeLossy o.text)) else none

/-- Whether an output lists changes. -/
def dirtyOf (o : CommandOutput) : Option Bool :=
  if o.success then some !o.text.isEmpty else none

/-- State that the answers to both calls tell.  A commit without a name is
none. -/
def ofOutputs (commit status : Option CommandOutput) : Revision where
  commit := (commit.bind commitOf).filter fun name => !name.isEmpty
  dirty := status.bind dirtyOf

end Revision

/-- State of the sources around the current directory. -/
def Script.revision : Script Revision := do
  let commit ← Script.git Revision.commitCall
  let status ← Script.git Revision.statusCall
  return .ofOutputs commit status

end EntitySchema
