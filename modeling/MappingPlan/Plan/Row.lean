import MappingPlan.Mapping.RowMapping
import MappingPlan.Plan.Document

/-!
# Row plans

A row mapping is compiled to a list of columns, each with the source of its value.
A column that holds a JSON document is a string.  A row has one value per column,
in the order of the columns.
-/

namespace MappingPlan

inductive ColumnValue where
  | scalar (source : ValueSource)
  | json (plan : DocumentPlan)
  deriving DecidableEq, Repr

structure Column where
  name : String
  type : ScalarType
  value : ColumnValue
  deriving DecidableEq, Repr

structure RowPlan where
  columns : List Column
  deriving DecidableEq, Repr

def Column.evaluate (column : Column) (inputs : Inputs) : Value :=
  match column.value with
  | .scalar source => source.evaluate inputs
  | .json plan => .string (plan.render inputs)

def Column.compile (binder : Binder) (scopes : Scopes) (spec : ColumnSpec) : Result Column :=
  match spec.kind with
  | .scalar source type => do
      let value ← binder.scalar scopes source (some type) (spec.path.child "source")
      return ⟨spec.name, type, .scalar value⟩
  | .json fields => do
      return ⟨spec.name, .string, .json (← DocumentPlan.compile binder scopes fields)⟩

namespace RowPlan

/-- Compiles a row mapping for some scopes.  One bad column fails the plan. -/
def compile (binder : Binder) (scopes : Scopes) (mapping : RowMapping) : Result RowPlan := do
  return ⟨← mapping.columns.mapM (Column.compile binder scopes)⟩

def names (plan : RowPlan) : List String :=
  plan.columns.map Column.name

def types (plan : RowPlan) : List ScalarType :=
  plan.columns.map Column.type

def size (plan : RowPlan) : Nat :=
  plan.columns.length

def isEmpty (plan : RowPlan) : Bool :=
  plan.columns.isEmpty

def build (plan : RowPlan) (inputs : Inputs) : List Value :=
  plan.columns.map fun column => column.evaluate inputs

@[simp] theorem length_build (plan : RowPlan) (inputs : Inputs) :
    (plan.build inputs).length = plan.size := by
  simp [build, size]

@[simp] theorem length_names (plan : RowPlan) : plan.names.length = plan.size := by
  simp [names, size]

end RowPlan

end MappingPlan
