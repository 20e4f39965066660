import MappingPlan.Shape.Accessor

/-!
# Building shapes

A shape describes itself to a builder, one field after the other.  The builder gathers two
lists: the accessors by the names of their fields, and the shapes that are to be registered
after it.  A field that leads to another shape adds to both at once, so what is registered
later is exactly what the accessors lead to, in their order.

The type that a scalar accessor announces is the one of the members that its field has.
-/

namespace MappingPlan

structure ShapeBuilder where
  shape : ShapeId
  fields : List (String × Accessor)
  nested : List ShapeId

namespace ShapeBuilder

def start (shape : ShapeId) : ShapeBuilder := ⟨shape, [], []⟩

def place (builder : ShapeBuilder) (key : String) : Place :=
  ⟨[], builder.shape, key⟩

def push (builder : ShapeBuilder) (name : String) (accessor : Accessor) : ShapeBuilder :=
  { builder with fields := builder.fields ++ [(name, accessor)] }

def registerNested (builder : ShapeBuilder) (target : ShapeId) : ShapeBuilder :=
  { builder with nested := builder.nested ++ [target] }

def field (builder : ShapeBuilder) (name key : String) (type : ScalarType) (nullable : Bool) :
    ShapeBuilder :=
  let announced := IntoValue.scalarType (type.Member nullable)
  builder.push name (.scalar ⟨builder.place key, announced, nullable⟩)

def items (builder : ShapeBuilder) (name key : String) (element : ShapeId) (nullable : Bool) :
    ShapeBuilder :=
  (builder.push name (.items ⟨builder.place key, element, nullable⟩)).registerNested element

def object (builder : ShapeBuilder) (name key : String) (target : ShapeId) : ShapeBuilder :=
  (builder.push name (.object ⟨builder.place key, target⟩)).registerNested target

def declare (builder : ShapeBuilder) (field : FieldDecl) : ShapeBuilder :=
  match field.type with
  | .scalar type nullable => builder.field field.name field.key type nullable
  | .items element nullable => builder.items field.name field.key element nullable
  | .object target => builder.object field.name field.key target

def describe (shape : ShapeId) (fields : List FieldDecl) : ShapeBuilder :=
  fields.foldl declare (start shape)

theorem declare_eq (builder : ShapeBuilder) (field : FieldDecl) :
    builder.declare field =
      { builder with
        fields := builder.fields ++ [(field.name, Accessor.ofField builder.shape field)]
        nested := builder.nested ++ (Accessor.ofField builder.shape field).target?.toList } := by
  obtain ⟨name, type, key⟩ := field
  cases type with
  | scalar type nullable =>
      simp [declare, ShapeBuilder.field, push, place, Accessor.ofField, Accessor.target?]
  | items element nullable => rfl
  | object target => rfl

theorem foldl_declare (builder : ShapeBuilder) (fields : List FieldDecl) :
    fields.foldl declare builder =
      { builder with
        fields := builder.fields ++
          fields.map fun field => (field.name, Accessor.ofField builder.shape field)
        nested := builder.nested ++
          fields.filterMap fun field => (Accessor.ofField builder.shape field).target? } := by
  induction fields generalizing builder with
  | nil => simp
  | cons field rest ih =>
      rw [List.foldl_cons, ih, declare_eq]
      cases htarget : (Accessor.ofField builder.shape field).target? <;> simp [htarget]

theorem fields_describe (shape : ShapeId) (fields : List FieldDecl) :
    (describe shape fields).fields =
      fields.map fun field => (field.name, Accessor.ofField shape field) := by
  simp [describe, foldl_declare, start]

/-- The shapes registered after a shape are those that its accessors lead to. -/
theorem nested_describe (shape : ShapeId) (fields : List FieldDecl) :
    (describe shape fields).nested =
      (describe shape fields).fields.filterMap fun entry => entry.2.target? := by
  rw [fields_describe, List.filterMap_map, describe, foldl_declare]
  rfl

end ShapeBuilder

def ShapeFamily.nested (family : ShapeFamily) (shape : ShapeId) : List ShapeId :=
  (ShapeBuilder.describe shape (family.fields shape)).nested

end MappingPlan
