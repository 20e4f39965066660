import MappingPlan.Document.Catalog
import MappingPlan.Plan.Listing
import MappingPlan.Shape.Registry
import MappingPlan.Target

/-!
# Dumping a plan

The command compiles the row mapping of a section in a file, or a built-in sample,
for the shapes of a sample event and a sample record.  It prints the columns, the
instructions of every JSON column, and the row for one sample record.
-/

namespace MappingPlan.Dump

def eventShape : ShapeId := ⟨"SampleEvent"⟩

def recordShape : ShapeId := ⟨"Sample"⟩

def attachmentShape : ShapeId := ⟨"Attachment"⟩

def shapes : ShapeFamily := [
  (eventShape, [⟨"Kind", .scalar .string false, "Kind"⟩]),
  (attachmentShape, [
    ⟨"FileName", .scalar .string false, "FileName"⟩,
    ⟨"Url", .scalar .string false, "Url"⟩]),
  (recordShape, [
    ⟨"SampleId", .scalar .int false, "SampleId"⟩,
    ⟨"Name", .scalar .string false, "Name"⟩,
    ⟨"Attachments", .items attachmentShape false, "Attachments"⟩])]

def inputs : Inputs where
  event := ⟨eventShape, ⟨[("Kind", .value (.string "created"))]⟩⟩
  record := ⟨recordShape, ⟨[
    ("SampleId", .value (.int 42)),
    ("Name", .value (.string "test-name")),
    ("Attachments", .items [⟨[
      ("FileName", .value (.string "a.png")),
      ("Url", .value (.string "http://x"))]⟩])]⟩⟩

def sampleColumn (source type : String) (order : Option Int) : Json :=
  .object ([("source", .string source), ("type", .string type)] ++
    match order with
    | some order => [("order", .integer order)]
    | none => [])

def sampleDocument : Json :=
  .object [
    ("format", .string "json"),
    ("fields", .object [
      ("sample_id", .string "record.SampleId"),
      ("name", .string "record.Name"),
      ("attachments", .object [
        ("type", .string "array"),
        ("context", .string "record.Attachments"),
        ("items", .object [
          ("filename", .string "item.FileName"),
          ("url", .string "item.Url")])])])]

def sample : Document :=
  ⟨.object [("samples", .object [
    ("format", .string "object[]"),
    ("items", .object [
      ("id", sampleColumn "record.SampleId" "int" (some 1)),
      ("kind", sampleColumn "const.Sample" "string" (some 2)),
      ("event", sampleColumn "event.Kind" "string" none),
      ("document", sampleDocument)])])]⟩

def samplePath : String := "samples"

def instructions (column : Column) : String :=
  match column.value with
  | .scalar _ => ""
  | .json plan => "\nOps for '" ++ column.name ++ "':\n" ++ plan.listing

def report (plan : RowPlan) : String :=
  let row := (plan.names.zip (plan.build inputs)).map fun (name, value) =>
    "  " ++ name ++ " = " ++ value.display ++ "\n"
  "Columns:\n" ++ plan.listing ++ String.join (plan.columns.map instructions) ++
    "\nRow:\n" ++ String.join row

def reportSection (document : Document) (path : String) : Result String := do
  let registry := (Registry.empty.register shapes eventShape).register shapes recordShape
  let compiler : Compiler := { resolver := registry.resolve }
  let node ← document.find path
  let (plan, _) := compiler.compileRows eventShape recordShape node .empty
  return report (← plan).plan

/-- What is printed for the arguments of the command: a file and a section, or
anything else for the sample. -/
def run (read : String → Except AccessFault ByteArray) (arguments : List String) :
    Result String :=
  match arguments with
  | [file, path] =>
      match read file with
      | .ok content => do reportSection (← Document.ofContent file content) path
      | .error fault => .error (.file file (.access fault))
  | _ => reportSection sample samplePath

end MappingPlan.Dump
