/-
  EntitySchema.Run.Product
  ────────────────────────────────
  **WHAT A RUN WILL WRITE.**

  Everything between reading the input and writing the output: the document
  is checked against its schema, decoded, compiled and rendered.  Nothing
  here touches a file, so a fault in any stage leaves the output as it was.
-/
import EntitySchema.Run.Trace
import EntitySchema.Run.Fault
import EntitySchema.Json.Reader
import EntitySchema.Contract.DescriptorSchema
import EntitySchema.Model.Format

namespace EntitySchema

/-! ## §1. Results with events. -/

/-- A result, or a fault, with the events on the way to it. -/
structure Reported (α : Type) where
  events : List Event
  result : Except RunFault α

namespace Reported

/-- Result without events. -/
def silent {α : Type} (result : Except RunFault α) : Reported α := ⟨[], result⟩

/-- One computation after another; the events add up. -/
def andThen {α β : Type} (r : Reported α) (f : α → Reported β) : Reported β :=
  match r.result with
  | .error e => ⟨r.events, .error e⟩
  | .ok a => ⟨r.events ++ (f a).events, (f a).result⟩

end Reported

/-! ## §2. Stages. -/

/-- Document of an input text. -/
def readDocument (text : String) : Reported Json :=
  .silent (match Json.read? text with
    | some document => .ok document
    | none => .error (.json (.notJson text)))

/-- Document that violates its schema nowhere. -/
def checkDocument (document : Json) : Reported Json :=
  let violations := descriptorViolations document
  ⟨violations.map .descriptorInvalid,
    match violations with
    | [] => .ok document
    | first :: _ => .error (.invalidInput violations.length first)⟩

/-- Descriptor set of a document. -/
def decodeDocument (document : Json) : Reported DescriptorSet :=
  .silent ((DescriptorSet.record.codec.decode document).mapError fun e => .json (.value e))

/-- Entities of a descriptor set. -/
def compileReported (o : CompileOptions) (s : DescriptorSet) : Reported (List Entity) :=
  ⟨compileEvents o s, (compile o s).mapError .compile⟩

/-- Generated files of entities. -/
def bundleReported (l : OutputLayout) (es : List Entity) :
    Reported (List Source.GeneratedFile) :=
  match Source.bundle l es with
  | .ok files => ⟨[.filesRendered files.length], .ok files⟩
  | .error e => ⟨[], .error (.emit e)⟩

/-! ## §3. The product. -/

/-- What a run will write: the model and the generated files. -/
structure Product where
  entities : List Entity
  files : List Source.GeneratedFile

/-- Text of the model file. -/
def Product.modelText (p : Product) : String :=
  (SchemaDocument.record.encode (.current p.entities)).fileText

/-- Product of an input text. -/
def Product.ofInput (s : Settings) (modelOnly : Bool) (text : String) : Reported Product :=
  (readDocument text).andThen fun document =>
  (checkDocument document).andThen fun document =>
  (decodeDocument document).andThen fun set =>
  (compileReported s.compile set).andThen fun entities =>
  (if modelOnly then .silent (.ok []) else bundleReported s.emit entities).andThen fun files =>
  .silent (.ok ⟨entities, files⟩)

end EntitySchema
