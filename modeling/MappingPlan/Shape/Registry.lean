import MappingPlan.Pairs
import MappingPlan.Shape.Builder
import MappingPlan.Text.Split

/-!
# The registry of shapes

Registering a shape also registers every shape that its fields mention, and so on.
A shape is entered before the shapes that it mentions, so shapes may mention each
other in a circle: each step either enters a declared shape that was not yet there
or shortens the list of shapes still to enter.

Field paths are resolved against the registered shapes.  Answers, negative ones
included, are remembered; a new shape can turn any of them into something else, so
entering one forgets them all.
-/

namespace MappingPlan

structure Registry where
  shapes : List (ShapeId × List (String × Accessor))
  resolved : List ((ShapeId × String) × Option Accessor)

namespace Registry

def empty : Registry := ⟨[], []⟩

def contains (registry : Registry) (shape : ShapeId) : Bool :=
  registry.shapes.any fun entry => entry.1 == shape

def size (registry : Registry) : Nat :=
  registry.shapes.length

def isEmpty (registry : Registry) : Bool :=
  registry.shapes.isEmpty

/-- The accessors of declared fields by name; of two fields with one name the later
counts. -/
def fieldTable (shape : ShapeId) (fields : List FieldDecl) : List (String × Accessor) :=
  Pairs.collect (ShapeBuilder.describe shape fields).fields

theorem fieldTable_eq (shape : ShapeId) (fields : List FieldDecl) :
    fieldTable shape fields =
      Pairs.collect (fields.map fun field => (field.name, Accessor.ofField shape field)) := by
  rw [fieldTable, ShapeBuilder.fields_describe]

def enter (registry : Registry) (shape : ShapeId) (fields : List FieldDecl) : Registry :=
  ⟨(shape, fieldTable shape fields) :: registry.shapes, []⟩

def unregistered (registry : Registry) (family : ShapeFamily) : Nat :=
  family.countP fun declared => !registry.contains declared.1

@[simp] theorem contains_enter (registry : Registry) (shape other : ShapeId)
    (fields : List FieldDecl) :
    (registry.enter shape fields).contains other =
      (shape == other || registry.contains other) := by
  simp [contains, enter]

theorem unregistered_cons (registry : Registry) (declared : ShapeId × List FieldDecl)
    (family : ShapeFamily) :
    registry.unregistered (declared :: family) =
      registry.unregistered family + (if registry.contains declared.1 then 0 else 1) := by
  cases h : registry.contains declared.1 <;> simp [unregistered, h]

theorem unregistered_enter_le (registry : Registry) (family : ShapeFamily) (shape : ShapeId)
    (fields : List FieldDecl) :
    (registry.enter shape fields).unregistered family ≤ registry.unregistered family := by
  refine List.countP_mono_left fun declared _ hnew => ?_
  cases h : registry.contains declared.1 <;> simp_all

theorem unregistered_enter_lt {registry : Registry} {family : ShapeFamily} {shape : ShapeId}
    (fields : List FieldDecl)
    (hdeclared : shape ∈ family.map Prod.fst)
    (hnew : registry.contains shape = false) :
    (registry.enter shape fields).unregistered family < registry.unregistered family := by
  induction family with
  | nil => simp at hdeclared
  | cons declared rest ih =>
      have hle := unregistered_enter_le registry rest shape fields
      rw [unregistered_cons, unregistered_cons, contains_enter]
      by_cases hshape : shape = declared.1
      · subst hshape
        simp [hnew]
        omega
      · have hrest : shape ∈ rest.map Prod.fst := by
          simpa [hshape] using hdeclared
        have hlt := ih hrest
        have hne : (shape == declared.1) = false := by simpa using hshape
        simp only [hne, Bool.false_or]
        omega

theorem nested_of_not_declared {family : ShapeFamily} {shape : ShapeId}
    (hundeclared : shape ∉ family.map Prod.fst) :
    family.nested shape = [] := by
  have hlookup : family.lookup shape = none :=
    Pairs.lookup_eq_none_iff_not_mem.mpr hundeclared
  simp [ShapeFamily.nested, ShapeFamily.fields, hlookup, ShapeBuilder.nested_describe,
    ShapeBuilder.fields_describe]

def registerAll (family : ShapeFamily) : List ShapeId → Registry → Registry
  | [], registry => registry
  | shape :: pending, registry =>
      if registry.contains shape then registerAll family pending registry
      else
        registerAll family (family.nested shape ++ pending)
          (registry.enter shape (family.fields shape))
termination_by pending registry => (registry.unregistered family, pending.length)
decreasing_by
  · exact Prod.Lex.right _ (by simp)
  · rename_i hnew
    by_cases hdeclared : shape ∈ family.map Prod.fst
    · exact Prod.Lex.left _ _ (unregistered_enter_lt _ hdeclared (by simpa using hnew))
    · rw [nested_of_not_declared hdeclared]
      rcases Nat.lt_or_eq_of_le
        (unregistered_enter_le registry family shape (family.fields shape)) with hlt | heq
      · exact Prod.Lex.left _ _ hlt
      · rw [heq]
        exact Prod.Lex.right _ (by simp)

def register (registry : Registry) (family : ShapeFamily) (shape : ShapeId) : Registry :=
  registerAll family [shape] registry

def field? (registry : Registry) (shape : ShapeId) (name : String) : Option Accessor := do
  let fields ← registry.shapes.lookup shape
  fields.lookup name

def step? (registry : Registry) (current : Accessor) (name : String) : Option Accessor :=
  match current with
  | .object parent =>
      (registry.field? parent.target name).map fun accessor => accessor.through parent
  | _ => none

def fieldSeparator : Char := '.'

def resolve (registry : Registry) : Resolver := fun shape path =>
  match Text.split fieldSeparator path with
  | [] => none
  | first :: rest => do
      let start ← registry.field? shape first
      rest.foldlM registry.step? start

/-- The answer to a path, remembered or found now, and the registry that
remembers it. -/
def remember (registry : Registry) (shape : ShapeId) (path : String) :
    Option Accessor × Registry :=
  match registry.resolved.lookup (shape, path) with
  | some answer => (answer, registry)
  | none =>
      let answer := registry.resolve shape path
      (answer, { registry with resolved := ((shape, path), answer) :: registry.resolved })

def sorted (texts : List String) : List String :=
  texts.mergeSort fun a b => decide (a ≤ b)

def fieldNames (registry : Registry) (shape : ShapeId) : List String :=
  sorted (((registry.shapes.lookup shape).getD []).map Prod.fst)

def shapeNames (registry : Registry) : List String :=
  sorted (registry.shapes.map fun entry => entry.1.name)

end Registry

end MappingPlan
