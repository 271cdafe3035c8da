/-
  EntitySchema.Settings
  ────────────────────────────────
  **SETTINGS: THE CONFIGURATION FILE.**

  A TOML document with the options of the compiler and the layout of the
  generated files.  Everything may be left out; what is not known is passed
  over.
-/
import EntitySchema.Options
import EntitySchema.Source.Layout
import EntitySchema.Toml.Reader

namespace EntitySchema

/-- Settings of the program. -/
structure Settings where
  compile : CompileOptions := {}
  emit : OutputLayout := {}
  deriving DecidableEq, Repr

namespace Settings

/-- File that is read if no other one is named. -/
def defaultPath : Path := "entgen.toml"

/-- Record codec that passes over what follows the last member of an
array. -/
def lenient {σ : Type} (r : Record σ) : Codec σ where
  encode := r.encode
  decode := r.decode .ignored

/-- Written form of settings. -/
def record : Record Settings where
  title := "struct EntgenConfig"
  blank := {}
  members := [
    .of "compile" .default (lenient CompileOptions.record) (·.compile)
      fun a s => { s with compile := a },
    .of "emit" .default (lenient OutputLayout.record) (·.emit) fun a s => { s with emit := a }]

/-- Settings of a configuration text. -/
def parse? (text : String) : Option Settings :=
  (Toml.read? text).bind fun document => ((lenient record).decode document.toJson).toOption

end Settings
end EntitySchema
