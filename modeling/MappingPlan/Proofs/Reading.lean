import MappingPlan.Plan.Source
import MappingPlan.Proofs.Outcome

/-!
# What references read

The meaning of a mapping is given without plans.  A reader says what the dotted path
of a field stands for on an instance of a shape: a value, or the elements of a
collection.  A reference is then read by its scope alone.  The event and the record
are the same wherever the reference stands; `item` is the element of the innermost of
the arrays around it, and only where there is no array around it the item that was
given from outside.

Binding agrees with reading.  The source that a reference is bound to gives, for any
inputs, what the reference reads there.
-/

namespace MappingPlan

/-- What field paths stand for.  A missing value is null, and a missing collection
has no elements. -/
structure FieldReader where
  value : ShapeId → String → Instance → Value
  elements : ShapeId → String → Instance → List Instance

namespace Accessor

def value (accessor : Accessor) (source : Instance) : Value :=
  match accessor with
  | .scalar getter => getter.get source
  | _ => .null

def elements (accessor : Accessor) (source : Instance) : List Instance :=
  match accessor with
  | .items getter => (getter.get? source).getD []
  | _ => []

end Accessor

def FieldReader.ofResolver (resolver : Resolver) : FieldReader where
  value shape path source := (resolver shape path).elim .null (·.value source)
  elements shape path source := (resolver shape path).elim [] (·.elements source)

/-! ## The innermost element -/

/-- The scopes inside arrays, of which the elements are listed from the innermost
outwards. -/
def Scopes.within (scopes : Scopes) : List Instance → Scopes
  | [] => scopes
  | element :: _ => { scopes with item := some element.shape }

def Inputs.within (inputs : Inputs) : List Instance → Inputs
  | [] => inputs
  | element :: _ => { inputs with item := some element }

theorem Scopes.within_cons (scopes : Scopes) (element : Instance)
    (enclosing : List Instance) :
    scopes.within (element :: enclosing) =
      (scopes.within enclosing).withItem element.shape := by
  cases enclosing <;> rfl

theorem Inputs.within_cons (inputs : Inputs) (element : Instance)
    (enclosing : List Instance) :
    inputs.within (element :: enclosing) = (inputs.within enclosing).withItem element := by
  cases enclosing <;> rfl

theorem Inputs.source?_within (inputs : Inputs) (enclosing : List Instance) :
    (inputs.within enclosing).source? .event = some inputs.event ∧
      (inputs.within enclosing).source? .record = some inputs.record ∧
      (inputs.within enclosing).source? .item = enclosing.head?.or inputs.item := by
  cases enclosing <;> exact ⟨rfl, rfl, rfl⟩

/-! ## References -/

def Value.declaredAs (value : Value) : Option ScalarType → Value
  | none => value
  | some type => value.coerce type

/-- A literal in the type that is declared for its place.  Without a type it is its
own text, and a literal that the type has no value for is null. -/
def Value.ofConstant (literal : String) : Option ScalarType → Value
  | none => .string literal
  | some type => (ofLiteral? type literal).getD .null

namespace FieldRef

variable (reader : FieldReader) (scopes : Scopes) (inputs : Inputs)

def read (declared : Option ScalarType) : FieldRef → Value
  | constant literal => .ofConstant literal declared
  | field scope path =>
      match scopes.shape? scope, inputs.source? scope with
      | some shape, some source => (reader.value shape path source).declaredAs declared
      | _, _ => .null

def readElements : FieldRef → List Instance
  | constant _ => []
  | field scope path =>
      match scopes.shape? scope, inputs.source? scope with
      | some shape, some source => reader.elements shape path source
      | _, _ => []

end FieldRef

/-! ## Bound references -/

theorem Value.coerce_of_type? {value : Value} {type : ScalarType}
    (htype : value.type? = some type) : value.coerce type = value := by
  cases value <;> simp only [type?, Option.some.injEq, reduceCtorEq] at htype <;>
    subst htype <;> rfl

theorem ScalarGetter.coerce_get (getter : ScalarGetter) (source : Instance) :
    (getter.get source).coerce getter.type = getter.get source := by
  rcases getter.type?_get source with hnull | htype
  · rw [hnull, Value.coerce_null]
  · exact Value.coerce_of_type? htype

theorem ItemsGetter.shape_of_mem {getter : ItemsGetter} {source element : Instance}
    {elements : List Instance} (hget : getter.get? source = some elements)
    (hmem : element ∈ elements) : element.shape = getter.element := by
  simp only [get?, Option.bind_eq_bind, Option.bind_eq_some_iff, Option.pure_def,
    Option.some.injEq] at hget
  obtain ⟨record, _, items, _, rfl⟩ := hget
  obtain ⟨item, _, rfl⟩ := List.mem_map.mp hmem
  rfl

namespace Binder

variable {binder : Binder} {scopes : Scopes} {reference : FieldRef} {path : ConfigPath}

theorem lookup_eq_ok_iff {scope : Scope} {field : String} {accessor : Accessor} :
    binder.lookup scopes reference scope field path = .ok accessor ↔
      ∃ shape, scopes.shape? scope = some shape ∧
        binder.resolver shape field = some accessor := by
  unfold lookup
  cases hshape : scopes.shape? scope with
  | none => simp
  | some shape => cases hresolve : binder.resolver shape field <;> simp [hresolve]

theorem declaredAs_of_conversion {getter : ScalarGetter} {declared target : Option ScalarType}
    (hconversion : binder.conversion reference getter declared path = .ok target)
    (source : Instance) :
    (getter.get source).declaredAs target = (getter.get source).declaredAs declared := by
  unfold conversion at hconversion
  cases declared with
  | none => cases hconversion; rfl
  | some type =>
      simp only at hconversion
      split at hconversion
      next hsame =>
        cases hconversion
        rw [hsame]
        exact (getter.coerce_get source).symm
      next =>
        split at hconversion
        next => cases hconversion; rfl
        next => cases hconversion

theorem evaluate_of_constant {literal : String} {declared : Option ScalarType}
    {bound : ValueSource} (hbound : constant reference literal declared path = .ok bound)
    (inputs : Inputs) : bound.evaluate inputs = .ofConstant literal declared := by
  unfold constant at hbound
  cases declared with
  | none => cases hbound; rfl
  | some type =>
      cases hvalue : Value.ofLiteral? type literal with
      | none => simp [hvalue] at hbound
      | some value =>
          simp only [hvalue, Except.ok.injEq] at hbound
          subst bound
          simp [ValueSource.evaluate, Value.ofConstant, hvalue]

theorem evaluate_of_scalar {declared : Option ScalarType} {bound : ValueSource}
    (hbound : binder.scalar scopes reference declared path = .ok bound) (inputs : Inputs) :
    bound.evaluate inputs =
      reference.read (.ofResolver binder.resolver) scopes inputs declared := by
  unfold scalar at hbound
  cases reference with
  | constant literal => exact evaluate_of_constant hbound inputs
  | field scope field =>
      simp only [Outcome.bind_eq_ok_iff, lookup_eq_ok_iff] at hbound
      obtain ⟨accessor, ⟨shape, hshape, hresolve⟩, hbound⟩ := hbound
      cases accessor with
      | items getter => simp at hbound
      | object getter => simp at hbound
      | scalar getter =>
          simp only [Outcome.bind_eq_ok_iff, Outcome.pure_eq_ok_iff] at hbound
          obtain ⟨target, hconversion, rfl⟩ := hbound
          cases hsource : inputs.source? scope with
          | none => simp [ValueSource.evaluate, FieldRef.read, hsource]
          | some source =>
              have hvalue := declaredAs_of_conversion hconversion source
              simp only [FieldRef.read, FieldReader.ofResolver, hshape, hresolve, hsource,
                Option.elim_some, Accessor.value, ← hvalue, ValueSource.evaluate]
              cases target <;> rfl

theorem items?_of_collection {bound : CollectionSource}
    (hbound : binder.collection scopes reference path = .ok bound) (inputs : Inputs) :
    (bound.items? inputs).getD [] =
      reference.readElements (.ofResolver binder.resolver) scopes inputs := by
  unfold collection at hbound
  cases reference with
  | constant literal => simp at hbound
  | field scope field =>
      simp only [Outcome.bind_eq_ok_iff, lookup_eq_ok_iff] at hbound
      obtain ⟨accessor, ⟨shape, hshape, hresolve⟩, hbound⟩ := hbound
      cases accessor with
      | scalar getter => simp at hbound
      | object getter => simp at hbound
      | items getter =>
          simp only [Outcome.pure_eq_ok_iff] at hbound
          subst bound
          cases hsource : inputs.source? scope <;>
            simp [CollectionSource.items?, FieldRef.readElements, FieldReader.ofResolver,
              Accessor.elements, hshape, hresolve, hsource]

end Binder

theorem CollectionSource.shape_of_mem {source : CollectionSource} {inputs : Inputs}
    {element : Instance} (hmem : element ∈ (source.items? inputs).getD []) :
    element.shape = source.getter.element := by
  unfold items? at hmem
  cases hinput : inputs.source? source.scope with
  | none => simp [hinput] at hmem
  | some input =>
      cases hget : source.getter.get? input with
      | none => simp [hinput, hget] at hmem
      | some elements =>
          simp only [hinput, hget, Option.bind_some, Option.getD_some] at hmem
          exact ItemsGetter.shape_of_mem hget hmem

end MappingPlan
