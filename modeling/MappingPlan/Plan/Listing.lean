import MappingPlan.Plan.Row

/-!
# Listings of plans

A plan is listed with one numbered line per instruction or column.  Instructions
inside objects and arrays are indented by two spaces for each that is open.
-/

namespace MappingPlan

def Op.display : Op → String
  | .beginObject => "begin-object"
  | .endObject => "end-object"
  | .beginArray source body =>
      "begin-array " ++ source.reference.display ++ " (body " ++ toString body ++ ")"
  | .endArray => "end-array"
  | .propertyName name _ => "property-name " ++ Text.quoted name
  | .emitValue source => "emit-value " ++ source.display

def Op.closes : Op → Bool
  | .endObject | .endArray => true
  | _ => false

def Op.opens : Op → Bool
  | .beginObject | .beginArray _ _ => true
  | _ => false

/-- The depth at which an instruction is listed: a closing one stands where the one that
it closes stands. -/
def Op.shownAt (depth : Nat) (op : Op) : Nat :=
  if op.closes then depth - 1 else depth

def Op.depthAfter (depth : Nat) (op : Op) : Nat :=
  if op.opens then op.shownAt depth + 1 else op.shownAt depth

def lineNumber (index : Nat) : String :=
  String.ofList (Text.padLeft 4 ' ' (Text.digits index))

def indentation (depth : Nat) : String :=
  String.ofList (List.replicate (2 * depth) ' ')

namespace DocumentPlan

/-- The lines of instructions from an index and a depth on. -/
def listFrom (index depth : Nat) : List Op → List String
  | [] => []
  | op :: rest =>
      (lineNumber index ++ " " ++ indentation (op.shownAt depth) ++ op.display ++ "\n") ::
        listFrom (index + 1) (op.depthAfter depth) rest

def listing (plan : DocumentPlan) : String :=
  String.join (listFrom 0 0 plan.ops)

end DocumentPlan

def Column.display (column : Column) : String :=
  match column.value with
  | .scalar source => column.name ++ " " ++ column.type.name ++ " <- " ++ source.display
  | .json plan => column.name ++ " json <- " ++ toString plan.size ++ " ops"

namespace RowPlan

def listFrom (index : Nat) : List Column → List String
  | [] => []
  | column :: rest =>
      (lineNumber index ++ " " ++ column.display ++ "\n") :: listFrom (index + 1) rest

def listing (plan : RowPlan) : String :=
  String.join (listFrom 0 plan.columns)

end RowPlan

end MappingPlan
