import MappingPlan.Shape.Registry
import MappingPlan.Target

/-!
# Summaries

One-line descriptions of plans, targets and of the state of a compiler, for logs
and for debugging.  A summary names a thing and the parts of it that tell it apart;
two points stand for parts that are left out.
-/

namespace MappingPlan.Summary

def structured (name : String) (parts : List (String × String)) : String :=
  name ++ " \x7b " ++
    Text.joinWith ", " (parts.map fun (label, value) => label ++ ": " ++ value) ++ " \x7d"

def abridged (name : String) (parts : List (String × String)) : String :=
  name ++ " \x7b " ++
    Text.joinWith ", " ((parts.map fun (label, value) => label ++ ": " ++ value) ++ [".."]) ++
    " \x7d"

def wrapped (name value : String) : String :=
  name ++ "(" ++ value ++ ")"

def bool (value : Bool) : String :=
  if value then "true" else "false"

def texts (items : List String) : String :=
  "[" ++ Text.joinWith ", " (items.map Text.quoted) ++ "]"

def rowPlan (plan : RowPlan) : String :=
  structured "RowPlan" [("columns", texts plan.names)]

def mappingPlan (plan : RowPlan) : String :=
  wrapped "Rows" (rowPlan plan)

def documentPlan (plan : DocumentPlan) : String :=
  structured "DocumentPlan" [("ops", toString plan.size)]

def fieldPlan (source : ValueSource) : String :=
  wrapped "FieldPlan" source.display

def tableTarget (target : TableTarget) : String :=
  structured "TableTarget"
    [("table", Text.quoted target.table), ("plan", rowPlan target.plan.plan)]

def indexTarget (target : IndexTarget) : String :=
  structured "IndexTarget"
    [("index", Text.quoted target.index), ("id", fieldPlan target.id),
      ("body", documentPlan target.body.plan)]

def coercions (coercions : Coercions) : String :=
  structured "CompilerConfig"
    [("string_coercion", bool coercions.toString),
      ("decimal_from_int", bool coercions.intToDecimal)]

def cache (cache : PlanCache) : String :=
  structured "PlanCache" [("entries", toString cache.size)]

def compiler (compiler : Compiler) (plans : PlanCache) : String :=
  abridged "PlanCompiler"
    [("config", coercions compiler.coercions), ("cache", cache plans)]

def registry (registry : Registry) : String :=
  abridged "ShapeRegistry" [("shapes", texts registry.shapeNames)]

def inputs (inputs : Inputs) : String :=
  abridged "ExecContext" [("has_item", bool inputs.item.isSome)]

def accessor (accessor : Accessor) : String :=
  wrapped "Accessor" accessor.describe

end MappingPlan.Summary
