import MappingPlan.Compiler

/-!
# Targets

A target says where the output of a plan goes: rows to a table, documents to an
index.  Rows are collected in batches, which a loader empties from time to time.
-/

namespace MappingPlan

def jsonList (items : List String) : String :=
  "[" ++ Text.joinWith "," items ++ "]"

structure TableTarget where
  table : String
  plan : Shared RowPlan
  deriving DecidableEq, Repr

structure RowBatch where
  table : String
  columns : List String
  rows : List (List Value)
  deriving DecidableEq, Repr

namespace RowBatch

def size (batch : RowBatch) : Nat :=
  batch.rows.length

def isEmpty (batch : RowBatch) : Bool :=
  batch.rows.isEmpty

def drain (batch : RowBatch) : List (List Value) × RowBatch :=
  (batch.rows, { batch with rows := [] })

def serialize (batch : RowBatch) : String :=
  let rows := batch.rows.map fun row => jsonList (row.map Value.serialize)
  "\x7b\"table\":" ++ Json.quoteString batch.table ++
    ",\"columns\":" ++ jsonList (batch.columns.map Json.quoteString) ++
    ",\"rows\":" ++ jsonList rows ++ "\x7d"

end RowBatch

namespace TableTarget

def compile (compiler : Compiler) (event record : ShapeId) (node : Section)
    (cache : PlanCache) : Result TableTarget × PlanCache :=
  match node.requireString "table" with
  | .error error => (.error error, cache)
  | .ok table =>
      let (plan, cache) := compiler.compileRows event record node cache
      (plan.map fun plan => ⟨table, plan⟩, cache)

def batch (target : TableTarget) : RowBatch :=
  ⟨target.table, target.plan.plan.names, []⟩

def append (target : TableTarget) (batch : RowBatch) (inputs : Inputs) : RowBatch :=
  { batch with rows := batch.rows ++ [target.plan.plan.build inputs] }

end TableTarget

structure IndexTarget where
  index : String
  id : ValueSource
  body : Shared DocumentPlan
  deriving DecidableEq, Repr

structure RenderedDocument where
  index : String
  id : Value
  body : String
  deriving DecidableEq, Repr

/-- The document as JSON text, its body a string in it. -/
def RenderedDocument.serialize (document : RenderedDocument) : String :=
  "\x7b\"index\":" ++ Json.quoteString document.index ++
    ",\"id\":" ++ document.id.serialize ++
    ",\"body\":" ++ Json.quoteString document.body ++ "\x7d"

namespace IndexTarget

def checkFormat (node : Section) : Result Unit := do
  match ← node.optionalString "format" with
  | none => return ()
  | some name =>
      if OutputFormat.ofName? name = some .json then return ()
      else .error (.unsupportedFormat (node.path.child "format") name)

def parts (compiler : Compiler) (event record : ShapeId) (node : Section) :
    Result (String × ValueSource × Section) := do
  let index ← node.requireString "index"
  checkFormat node
  let id ← compiler.compileField event record (← node.require "id")
  let fields ← node.require "fields"
  return (index, id, fields)

def compile (compiler : Compiler) (event record : ShapeId) (node : Section)
    (cache : PlanCache) : Result IndexTarget × PlanCache :=
  match parts compiler event record node with
  | .error error => (.error error, cache)
  | .ok (index, id, fields) =>
      let (body, cache) := compiler.compileDocument event record fields cache
      (body.map fun body => ⟨index, id, body⟩, cache)

def document (target : IndexTarget) (inputs : Inputs) : RenderedDocument :=
  ⟨target.index, target.id.evaluate inputs, target.body.plan.render inputs⟩

end IndexTarget

end MappingPlan
