import MappingPlan.Shape.Declaration

/-!
# Accessors

An accessor reads one field of the instances of a shape, possibly through nested
objects.  It is a route, the objects to step through, and the place of the field
on the shape that the route ends at.

Every step checks that it is applied to an instance of the shape it was declared
on.  Applied to anything else, or when an object on the route is missing, a scalar
is null, a collection is absent and an object is not there.
-/

namespace MappingPlan

structure Hop where
  owner : ShapeId
  key : String
  target : ShapeId
  deriving DecidableEq, Repr

def Hop.follow? (hop : Hop) (source : Instance) : Option Instance :=
  if source.shape = hop.owner then
    (source.record.object? hop.key).map fun record => ⟨hop.target, record⟩
  else none

def Hop.followAll? (route : List Hop) (source : Instance) : Option Instance :=
  route.foldlM (fun reached hop => hop.follow? reached) source

/-- A field of a shape, reached by a route of nested objects. -/
structure Place where
  route : List Hop
  owner : ShapeId
  key : String
  deriving DecidableEq, Repr

namespace Place

def holder? (place : Place) (source : Instance) : Option Record := do
  let holder ← Hop.followAll? place.route source
  if holder.shape = place.owner then some holder.record else none

/-- The place seen from the other end of a step. -/
def through (place : Place) (hops : List Hop) : Place :=
  { place with route := hops ++ place.route }

end Place

structure ScalarGetter where
  place : Place
  type : ScalarType
  nullable : Bool
  deriving DecidableEq, Repr

def ScalarGetter.get (getter : ScalarGetter) (source : Instance) : Value :=
  match getter.place.holder? source with
  | some record => record.scalar getter.place.key getter.type getter.nullable
  | none => .null

structure ItemsGetter where
  place : Place
  element : ShapeId
  nullable : Bool
  deriving DecidableEq, Repr

def ItemsGetter.get? (getter : ItemsGetter) (source : Instance) : Option (List Instance) := do
  let record ← getter.place.holder? source
  let items ← record.items? getter.place.key getter.nullable
  return items.map fun item => ⟨getter.element, item⟩

structure ObjectGetter where
  place : Place
  target : ShapeId
  deriving DecidableEq, Repr

def ObjectGetter.hops (getter : ObjectGetter) : List Hop :=
  getter.place.route ++ [⟨getter.place.owner, getter.place.key, getter.target⟩]

def ObjectGetter.get? (getter : ObjectGetter) (source : Instance) : Option Instance :=
  Hop.followAll? getter.hops source

inductive Accessor where
  | scalar (getter : ScalarGetter)
  | items (getter : ItemsGetter)
  | object (getter : ObjectGetter)
  deriving DecidableEq, Repr

theorem Hop.followAll?_append (before after : List Hop) (source : Instance) :
    Hop.followAll? (before ++ after) source =
      (Hop.followAll? before source).bind (Hop.followAll? after) := by
  simp only [Hop.followAll?, List.foldlM_append]
  rfl

theorem ScalarGetter.type?_get (getter : ScalarGetter) (source : Instance) :
    getter.get source = .null ∨ (getter.get source).type? = some getter.type := by
  unfold ScalarGetter.get
  split
  · exact Record.type?_scalar ..
  · exact Or.inl rfl

namespace Accessor

def ofField (shape : ShapeId) (field : FieldDecl) : Accessor :=
  let place : Place := ⟨[], shape, field.key⟩
  match field.type with
  | .scalar type nullable => .scalar ⟨place, type, nullable⟩
  | .items element nullable => .items ⟨place, element, nullable⟩
  | .object target => .object ⟨place, target⟩

/-- The shape of the elements or of the object that an accessor gives. -/
def target? : Accessor → Option ShapeId
  | scalar _ => none
  | items getter => some getter.element
  | object getter => some getter.target

/-- The accessor applied to the object that another accessor gives. -/
def through (accessor : Accessor) (parent : ObjectGetter) : Accessor :=
  match accessor with
  | .scalar getter => .scalar { getter with place := getter.place.through parent.hops }
  | .items getter => .items { getter with place := getter.place.through parent.hops }
  | .object getter => .object { getter with place := getter.place.through parent.hops }

def describe : Accessor → String
  | .scalar getter => getter.type.name
  | .items getter => "enumerable of " ++ getter.element.name
  | .object getter => "object " ++ getter.target.name

theorem target?_ofField_eq_some_iff {shape target : ShapeId} {field : FieldDecl} :
    (ofField shape field).target? = some target ↔
      (∃ nullable, field.type = .items target nullable) ∨ field.type = .object target := by
  cases htype : field.type <;> simp [ofField, target?, htype]

end Accessor

abbrev Resolver := ShapeId → String → Option Accessor

end MappingPlan
