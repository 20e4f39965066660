import MappingPlan.Text.Split

/-!
# Field references

A reference names the input it reads from and a dotted path on that input, as in
`record.Customer.Name`, or gives a constant, as in `const.Sample`.
-/

namespace MappingPlan

inductive Scope where
  | event
  | record
  /-- the element of the nearest enclosing array -/
  | item
  deriving DecidableEq, Repr

def Scope.name : Scope → String
  | event => "event"
  | record => "record"
  | item => "item"

inductive FieldRef where
  | field (scope : Scope) (path : String)
  | constant (literal : String)
  deriving DecidableEq, Repr

namespace FieldRef

inductive Fault where
  | noScope (text : String)
  | unknownScope (scope text : String)
  | emptyPath (text : String)
  deriving DecidableEq, Repr

def Fault.message : Fault → String
  | .noScope text =>
      "'" ++ text ++ "' is not a field reference (expected event., record., item. or const.)"
  | .unknownScope scope text => "unknown scope '" ++ scope ++ "' in '" ++ text ++ "'"
  | .emptyPath text => "'" ++ text ++ "' has an empty field path"

def inScope (scope : Scope) (path text : String) : Except Fault FieldRef :=
  if path.isEmpty then .error (.emptyPath text) else .ok (.field scope path)

/-- The reference that a text writes: a scope, a point, and the rest. -/
def parse (text : String) : Except Fault FieldRef :=
  match Text.splitOnceChars '.' text.toList with
  | none => .error (.noScope text)
  | some (before, after) =>
      let path := String.ofList after
      match String.ofList before with
      | "event" => inScope .event path text
      | "record" => inScope .record path text
      | "item" => inScope .item path text
      | "const" => .ok (.constant path)
      | scope => .error (.unknownScope scope text)

def scope? : FieldRef → Option Scope
  | field scope _ => some scope
  | constant _ => none

def display : FieldRef → String
  | field scope path => scope.name ++ "." ++ path
  | constant literal => "const." ++ literal

end FieldRef

end MappingPlan
