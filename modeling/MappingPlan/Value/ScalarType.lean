/-!
# Scalar types

The types that a column or a leaf may declare, their names, and which of them may
stand in for which.
-/

namespace MappingPlan

inductive ScalarType where
  | string
  | int
  | decimal
  | guid
  | dateTime
  deriving DecidableEq, Repr

structure Coercions where
  toString : Bool := true
  intToDecimal : Bool := true
  deriving DecidableEq, Repr

namespace ScalarType

def all : List ScalarType := [string, int, decimal, guid, dateTime]

def name : ScalarType → String
  | string => "string"
  | int => "int"
  | decimal => "decimal"
  | guid => "Guid"
  | dateTime => "DateTime"

/-- The type with a name, whatever the case of its ASCII letters. -/
def ofName? (name : String) : Option ScalarType :=
  all.find? fun type => type.name.toLower == name.toLower

def coercibleTo (actual target : ScalarType) (coercions : Coercions) : Bool :=
  actual == target ||
    match target, actual with
    | string, _ => coercions.toString
    | decimal, int => coercions.intToDecimal
    | _, _ => false

@[simp] theorem coercibleTo_self (type : ScalarType) (coercions : Coercions) :
    type.coercibleTo type coercions = true := by
  simp [coercibleTo]

end ScalarType

end MappingPlan
