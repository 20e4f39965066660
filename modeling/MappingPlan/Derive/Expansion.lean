import MappingPlan.Derive.Shape
import MappingPlan.Text.Quoted

/-!
# Expanding a derived shape

The expansion is the implementation that registers the fields of a shape, one call
for each, written as tokens with blanks between them.
-/

namespace MappingPlan.Derive

def Field.getter (field : Field) : String :=
  let place := "value . " ++ field.ident
  match field.kind, field.nullable with
  | .scalar, _ => ":: core :: clone :: Clone :: clone (& " ++ place ++ ")"
  | .items, false => ":: core :: option :: Option :: Some (& " ++ place ++ " [..])"
  | .items, true => place ++ " . as_deref ()"
  | .object, false => ":: core :: option :: Option :: Some (& " ++ place ++ ")"
  | .object, true => place ++ " . as_ref ()"

def Kind.method : Kind → String
  | .scalar => "field"
  | .items => "items"
  | .object => "object"

def Field.registration (field : Field) : String :=
  "shape . " ++ field.kind.method ++ " (" ++ Text.quotedLiteral field.name ++
    " , | value | " ++ field.getter ++ ") ;"

def block (statements : List String) : String :=
  Text.joinWith " " (["\x7b"] ++ statements ++ ["\x7d"])

def Shape.expansion (shape : Shape) : String :=
  let describe :=
    "fn describe (shape : & mut :: projection_compiler :: ShapeBuilder < Self >) " ++
      block (shape.fields.map Field.registration)
  "impl :: projection_compiler :: Shape for " ++ shape.ident ++ " " ++ block [describe]

end MappingPlan.Derive
