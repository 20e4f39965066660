import MappingPlan.Mapping.ObjectSpec
import MappingPlan.Mapping.OutputFormat

/-!
# Row mappings

A row mapping lists columns under `items`.  A column holds one value, or a JSON
document as a string.  Columns come out sorted by their `order`; those without one
follow, and columns that tie keep the order of the document.
-/

namespace MappingPlan

inductive ColumnKind where
  | scalar (source : FieldRef) (type : ScalarType)
  | json (fields : ObjectSpec)

structure ColumnSpec where
  name : String
  path : ConfigPath
  order : Option Int64
  kind : ColumnKind

/-- A mapping with its columns in output order. -/
structure RowMapping where
  path : ConfigPath
  columns : List ColumnSpec

/-- The output format that a mapping declares.  A missing one is unsupported. -/
def OutputFormat.ofSection (node : Section) : Result OutputFormat := do
  let path := node.path.child "format"
  match ← node.optionalString "format" with
  | none => .error (.unsupportedFormat path "<missing>")
  | some name =>
      match OutputFormat.ofName? name with
      | some format => .ok format
      | none => .error (.unsupportedFormat path name)

def OutputFormat.requireRows (node : Section) : Result Unit := do
  match ← OutputFormat.ofSection node with
  | .rows => return ()
  | .json => .error (.unsupportedFormat (node.path.child "format") OutputFormat.json.name)

namespace ColumnSpec

def orderOfSection (node : Section) : Result (Option Int64) :=
  match node.get? "order" with
  | none => .ok none
  | some order =>
      match order.node.int64? with
      | some value => .ok (some value)
      | none => order.invalid .orderNotInteger

def kindOfSection (node : Section) : Result ColumnKind := do
  match ← node.optionalString "format" with
  | some name =>
      if OutputFormat.ofName? name = some .json then
        node.checkKeys ["format", "fields", "order"]
        return .json (← ObjectSpec.ofSection (← node.require "fields"))
      else .error (.unsupportedFormat (node.path.child "format") name)
  | none =>
      node.checkKeys ["source", "type", "order"]
      let source ← FieldRef.ofSection (← node.require "source")
      return .scalar source (← ScalarType.ofSection node)

def ofSection (name : String) (node : Section) : Result ColumnSpec := do
  if node.node.members?.isNone then node.invalid .notAColumn
  else
    let order ← orderOfSection node
    let kind ← kindOfSection node
    return ⟨name, node.path, order, kind⟩

/-- The place of a column among the others: without an `order`, the last one. -/
def rank (column : ColumnSpec) : Int :=
  match column.order with
  | some order => order.toInt
  | none => 2 ^ 63 - 1

end ColumnSpec

namespace RowMapping

def declared (node : Section) : Result (List (String × Section)) := do
  (← node.require "items").children

def columnNames (node : Section) : Result (List String) := do
  return (← declared node).map Prod.fst

def ofSection (node : Section) : Result RowMapping := do
  OutputFormat.requireRows node
  let columns ← (← declared node).mapM fun (name, column) => ColumnSpec.ofSection name column
  return ⟨node.path, columns.mergeSort fun a b => decide (a.rank ≤ b.rank)⟩

def names (mapping : RowMapping) : List String :=
  mapping.columns.map ColumnSpec.name

end RowMapping

end MappingPlan
