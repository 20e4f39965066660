import MappingPlan.Derive.Grammar.Fault

/-!
# Struct declarations

What a shape is derived from: a struct with its attributes and its fields.  Of a type
only that much is kept that an optional field can be told from others, and of generic
parameters only whether there are any.
-/

namespace MappingPlan.Derive

inductive AttributeValue where
  | string (text : String)
  | other
  | missing
  deriving DecidableEq, Repr

inductive AttributeItem where
  | entry (key : String) (value : Option AttributeValue)
  | broken (fault : SyntaxFault)
  deriving DecidableEq, Repr

inductive AttributeForm where
  | list (items : List AttributeItem)
  | bare
  | assigned
  deriving DecidableEq, Repr

structure Attribute where
  path : String
  form : AttributeForm
  deriving DecidableEq, Repr

/-- A segment of a path, by its name and the number of its arguments if it has angle
brackets. -/
structure PathSegment where
  name : String
  arguments : Option Nat
  deriving DecidableEq, Repr

inductive TypeForm where
  /-- a path of names, which may begin at the root of all names -/
  | path (absolute : Bool) (segments : List PathSegment)
  | traits (single : Bool)
  | other
  deriving DecidableEq, Repr

/-- Whether a type, in parentheses, can be the first of several traits. -/
def TypeForm.isTrait : TypeForm → Bool
  | path _ _ => true
  | traits single => single
  | other => false

def TypeForm.isOption : TypeForm → Bool
  | path _ segments =>
      segments.getLast?.any fun last => last.name == "Option" && last.arguments.isSome
  | _ => false

structure StructField where
  ident : String
  type : TypeForm
  attributes : List Attribute
  deriving DecidableEq, Repr

inductive StructBody where
  | named (fields : List StructField)
  | tuple
  | unit
  deriving DecidableEq, Repr

structure StructDecl where
  ident : String
  isGeneric : Bool
  attributes : List Attribute
  body : StructBody
  deriving DecidableEq, Repr

end MappingPlan.Derive
