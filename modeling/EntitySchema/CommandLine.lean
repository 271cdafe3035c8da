/-
  EntitySchema.CommandLine
  ────────────────────────────────
  **THE COMMAND LINE.**

  A command and its options.  An option takes its value from the same word
  behind an equals sign or from the next word, which must not look like an
  option; no option may be given twice, and no value is empty.  Two dashes
  end the options.  The first word that is wrong, or that asks for help or
  for the version, decides.

      compile      --input FILE [--config FILE] [--out DIR] [--ir-only]
      json-schema  [--out FILE]
      help         [COMMAND]
-/
import EntitySchema.Run.Execution
import EntitySchema.Text.Lines

namespace EntitySchema

/-! ## §1. Invocations. -/

/-- What help is about. -/
inductive HelpTopic where
  | program
  | compile
  | jsonSchema
  deriving DecidableEq, Repr

/-- What the program is asked to do. -/
inductive Invocation where
  | compile (a : CompileArguments)
  | jsonSchema (out : Option Path)
  | version
  | help (topic : HelpTopic)
  deriving DecidableEq, Repr

namespace CommandLine

/-! ## §2. Options. -/

/-- Options that a command knows. -/
structure Grammar where
  /-- Options with a value. -/
  valued : List String
  /-- Options without one. -/
  flags : List String

/-- Options that were given. -/
structure Given where
  values : List (String × String) := []
  flags : List String := []

/-- What the words behind a command amount to. -/
inductive Reading where
  | help
  | given (g : Given)

/-- Enters the value of an option. -/
def Given.enter (g : Given) (name value : String) : Option Given :=
  if value.isEmpty || (g.values.lookup name).isSome then none
  else some { g with values := g.values ++ [(name, value)] }

/-- Enters an option without a value. -/
def Given.mark (g : Given) (name : String) : Option Given :=
  if g.flags.contains name then none else some { g with flags := g.flags ++ [name] }

/-- What a word is. -/
inductive Word where
  /-- Two dashes alone. -/
  | terminator
  /-- A long option, perhaps with its value. -/
  | long (name : String) (value : Option String)
  /-- Short options, of which the first one counts. -/
  | short (first : Char)
  | plain (text : String)
  deriving DecidableEq, Repr

/-- Kind of a word. -/
def Word.of (text : String) : Word :=
  match text.toList with
  | ['-', '-'] => .terminator
  | '-' :: '-' :: rest =>
      let name := String.ofList (rest.takeWhile (· != '='))
      match rest.dropWhile (· != '=') with
      | [] => .long name none
      | _ :: value => .long name (some (String.ofList value))
  | '-' :: c :: _ => .short c
  | _ => .plain text

/-- Reads the words behind a command.  A pending option waits for its
value. -/
def readWords (g : Grammar) (acc : Given) : (pending : Option String) → List String →
    Option Reading
  | none, [] => some (.given acc)
  | some _, [] => none
  | pending, text :: rest =>
      match Word.of text, pending with
      | .plain value, some name => do
          let acc ← acc.enter name value
          readWords g acc none rest
      | .terminator, none => if rest.isEmpty then some (.given acc) else none
      | .long name value, none =>
          if g.valued.contains name then
            match value with
            | none => readWords g acc (some name) rest
            | some v => do
                let acc ← acc.enter name v
                readWords g acc none rest
          else if value.isSome then none
          else if name = "help" then some .help
          else if g.flags.contains name then do
            let acc ← acc.mark name
            readWords g acc none rest
          else none
      | .short c, none => if c = 'h' then some .help else none
      | _, _ => none

/-! ## §3. Commands. -/

/-- Options of the command that compiles. -/
def compileGrammar : Grammar := ⟨["input", "config", "out"], ["ir-only"]⟩

/-- Options of the command that shows the schema. -/
def schemaGrammar : Grammar := ⟨["out"], []⟩

/-- Words behind the command that compiles. -/
def readCompile (words : List String) : Option Invocation := do
  match ← readWords compileGrammar {} none words with
  | .help => return .help .compile
  | .given g =>
      let input ← g.values.lookup "input"
      return .compile {
        input
        config := g.values.lookup "config"
        out := (g.values.lookup "out").getD "gen"
        modelOnly := g.flags.contains "ir-only" }

/-- Words behind the command that shows the schema. -/
def readSchema (words : List String) : Option Invocation := do
  match ← readWords schemaGrammar {} none words with
  | .help => return .help .jsonSchema
  | .given g => return .jsonSchema (g.values.lookup "out")

/-- Words behind the command that helps. -/
def readHelp : List String → Option Invocation
  | [] | ["help"] => some (.help .program)
  | ["compile"] => some (.help .compile)
  | ["json-schema"] => some (.help .jsonSchema)
  | _ => none

/-- Invocation of a command line; none if it is wrong. -/
def parse : List String → Option Invocation
  | [] => none
  | text :: rest =>
      match Word.of text with
      | .plain "compile" => readCompile rest
      | .plain "json-schema" => readSchema rest
      | .plain "help" => readHelp rest
      | .long "help" none | .short 'h' => some (.help .program)
      | .long "version" none | .short 'V' => some .version
      | _ => none

/-! ## §4. Texts. -/

/-- Name of the program. -/
def programName : String := "entgen"

/-- Text that tells the version. -/
def versionText : String := programName ++ " " ++ programVersion ++ "\n"

/-- Text of a help topic. -/
def helpText : HelpTopic → String
  | .program => Text.unlines [
      "Entity schema compiler",
      "",
      "Usage: entgen <COMMAND>",
      "",
      "Commands:",
      "  compile      Compile descriptors into the schema IR and emit generated sources",
      "  json-schema  Print the JSON Schema of the descriptor input format",
      "  help         Print this message or the help of the given subcommand(s)",
      "",
      "Options:",
      "  -h, --help     Print help",
      "  -V, --version  Print version"]
  | .compile => Text.unlines [
      "Compile descriptors into the schema IR and emit generated sources",
      "",
      "Usage: entgen compile [OPTIONS] --input <INPUT>",
      "",
      "Options:",
      "      --input <INPUT>    Descriptor set in JSON form",
      "      --config <CONFIG>  Config file (defaults to ./entgen.toml when present)",
      "      --out <OUT>        Output directory [default: gen]",
      "      --ir-only          Write ir.json only, skip the emitters",
      "  -h, --help             Print help"]
  | .jsonSchema => Text.unlines [
      "Print the JSON Schema of the descriptor input format",
      "",
      "Usage: entgen json-schema [OPTIONS]",
      "",
      "Options:",
      "      --out <OUT>  Write the schema to a file instead of stdout",
      "  -h, --help       Print help"]

end CommandLine
end EntitySchema
