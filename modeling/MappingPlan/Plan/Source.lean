import MappingPlan.Error
import MappingPlan.Plan.Inputs

/-!
# Sources of values and collections

Compiling binds every field reference to an accessor, so that a running plan never
fails to resolve anything.  A bound reference is a source: of one value, possibly
converted to the declared type, or of the elements of a collection.
-/

namespace MappingPlan

inductive ValueSource where
  | field (reference : FieldRef) (scope : Scope) (getter : ScalarGetter)
      (coerceTo : Option ScalarType)
  | constant (value : Value)
  deriving DecidableEq, Repr

namespace ValueSource

def type? : ValueSource → Option ScalarType
  | field _ _ getter coerceTo => some (coerceTo.getD getter.type)
  | constant value => value.type?

/-- The value for some inputs.  Without the input of its scope it is null. -/
def evaluate (source : ValueSource) (inputs : Inputs) : Value :=
  match source with
  | constant value => value
  | field _ scope getter coerceTo =>
      match inputs.source? scope with
      | none => .null
      | some input =>
          match coerceTo with
          | some target => (getter.get input).coerce target
          | none => getter.get input

def display : ValueSource → String
  | field reference _ _ (some target) => reference.display ++ " as " ++ target.name
  | field reference _ _ none => reference.display
  | constant value => "const " ++ value.describe

end ValueSource

structure CollectionSource where
  reference : FieldRef
  scope : Scope
  getter : ItemsGetter
  deriving DecidableEq, Repr

def CollectionSource.items? (source : CollectionSource) (inputs : Inputs) :
    Option (List Instance) :=
  (inputs.source? source.scope).bind source.getter.get?

structure Binder where
  resolver : Resolver
  coercions : Coercions

namespace Binder

def lookup (binder : Binder) (scopes : Scopes) (reference : FieldRef) (scope : Scope)
    (field : String) (path : ConfigPath) : Result Accessor :=
  match scopes.shape? scope with
  | none => .error (.invalid path (.itemOutsideArray reference))
  | some shape =>
      match binder.resolver shape field with
      | some accessor => .ok accessor
      | none => .error (.unresolvable path reference shape)

def conversion (binder : Binder) (reference : FieldRef) (getter : ScalarGetter)
    (declared : Option ScalarType) (path : ConfigPath) : Result (Option ScalarType) :=
  match declared with
  | none => .ok none
  | some target =>
      if target = getter.type then .ok none
      else if getter.type.coercibleTo target binder.coercions then .ok (some target)
      else .error (.coercion path reference (.declared target) (.field (.scalar getter)))

def constant (reference : FieldRef) (literal : String) (declared : Option ScalarType)
    (path : ConfigPath) : Result ValueSource :=
  match declared with
  | none => .ok (.constant (.string literal))
  | some type =>
      match Value.ofLiteral? type literal with
      | some value => .ok (.constant value)
      | none => .error (.coercion path reference (.declared type) (.literal literal))

def scalar (binder : Binder) (scopes : Scopes) (reference : FieldRef)
    (declared : Option ScalarType) (path : ConfigPath) : Result ValueSource :=
  match reference with
  | .constant literal => constant reference literal declared path
  | .field scope field => do
      match ← binder.lookup scopes reference scope field path with
      | .scalar getter =>
          return .field reference scope getter
            (← binder.conversion reference getter declared path)
      | accessor =>
          let demand := match declared with
            | some type => Demand.declared type
            | none => Demand.anyScalar
          .error (.coercion path reference demand (.field accessor))

def collection (binder : Binder) (scopes : Scopes) (reference : FieldRef)
    (path : ConfigPath) : Result CollectionSource :=
  match reference with
  | .constant _ => .error (.invalid path .constantContext)
  | .field scope field => do
      match ← binder.lookup scopes reference scope field path with
      | .items getter => return ⟨reference, scope, getter⟩
      | accessor => .error (.coercion path reference .collection (.field accessor))

end Binder

end MappingPlan
