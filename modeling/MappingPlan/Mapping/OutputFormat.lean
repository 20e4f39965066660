/-!
# Output formats

A mapping gives either one row of column values per input, or one JSON document.
-/

namespace MappingPlan

inductive OutputFormat where
  | rows
  | json
  deriving DecidableEq, Repr

namespace OutputFormat

def name : OutputFormat → String
  | rows => "object[]"
  | json => "json"

def ofName? (name : String) : Option OutputFormat :=
  [rows, json].find? fun format => format.name == name

@[simp] theorem ofName?_name (format : OutputFormat) : ofName? format.name = some format := by
  cases format <;> decide

end OutputFormat

end MappingPlan
