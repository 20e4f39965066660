import MappingPlan.Mapping.FieldRef
import MappingPlan.Shape.Accessor

/-!
# What a mapping can see

At every point of a mapping three scopes are open: the event, the record, and the
element of the nearest enclosing array, if there is one.  `Scopes` holds their
shapes while a plan is compiled, `Inputs` the instances while it runs.  Entering an
array replaces the item and nothing else.
-/

namespace MappingPlan

structure Scopes where
  event : ShapeId
  record : ShapeId
  item : Option ShapeId := none
  deriving DecidableEq, Repr

namespace Scopes

def withItem (scopes : Scopes) (shape : ShapeId) : Scopes :=
  { scopes with item := some shape }

def shape? (scopes : Scopes) : Scope → Option ShapeId
  | .event => some scopes.event
  | .record => some scopes.record
  | .item => scopes.item

end Scopes

structure Inputs where
  event : Instance
  record : Instance
  item : Option Instance := none

namespace Inputs

def withItem (inputs : Inputs) (item : Instance) : Inputs :=
  { inputs with item := some item }

def source? (inputs : Inputs) : Scope → Option Instance
  | .event => some inputs.event
  | .record => some inputs.record
  | .item => inputs.item

def scopes (inputs : Inputs) : Scopes :=
  ⟨inputs.event.shape, inputs.record.shape, inputs.item.map Instance.shape⟩

@[simp] theorem scopes_withItem (inputs : Inputs) (item : Instance) :
    (inputs.withItem item).scopes = inputs.scopes.withItem item.shape := rfl

theorem shape?_scopes (inputs : Inputs) (scope : Scope) :
    inputs.scopes.shape? scope = (inputs.source? scope).map Instance.shape := by
  cases scope <;> rfl

end Inputs

end MappingPlan
