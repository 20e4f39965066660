import MappingPlan.Value.IntoValue

/-!
# Shapes and their data

A shape is a kind of record whose fields mappings can refer to.  It is declared by
a list of fields: the name that mappings use, what the field holds, and the key
under which instances keep it.

Instance data is a table from keys to data.  Reading a field always gives
something of the declared kind: where the data has nothing suitable, a nullable
field is missing and a plain one has the initial value of its type.  A scalar field is
first read as a member of its own type, and only then becomes a value.
-/

namespace MappingPlan

/-- The identity of a shape, which is also its name in messages. -/
structure ShapeId where
  name : String
  deriving DecidableEq, Repr

inductive FieldType where
  | scalar (type : ScalarType) (nullable : Bool)
  | items (element : ShapeId) (nullable : Bool)
  | object (target : ShapeId)
  deriving DecidableEq, Repr

structure FieldDecl where
  name : String
  type : FieldType
  key : String
  deriving DecidableEq, Repr

/-- Shapes with their fields.  A shape that is not listed has no fields. -/
abbrev ShapeFamily := List (ShapeId × List FieldDecl)

namespace ShapeFamily

def fields (family : ShapeFamily) (shape : ShapeId) : List FieldDecl :=
  (family.lookup shape).getD []

end ShapeFamily

mutual

structure Record where
  members : List (String × Datum)

/-- What instance data keeps under one key. -/
inductive Datum where
  | value (value : Value)
  | items (items : List Record)
  | object (record : Record)

end

namespace Record

def empty : Record := ⟨[]⟩

instance : Inhabited Record := ⟨empty⟩

def member? (record : Record) (key : String) : Option Datum :=
  record.members.lookup key

/-- The member of a scalar field. -/
def typed (record : Record) (key : String) (type : ScalarType) (nullable : Bool) :
    type.Member nullable :=
  match record.member? key with
  | some (.value value) => type.member (type.native? value) nullable
  | _ => type.member none nullable

def scalar (record : Record) (key : String) (type : ScalarType) (nullable : Bool) : Value :=
  IntoValue.intoValue (record.typed key type nullable)

/-- The records of a list field, if it is present.  A plain list is always
present. -/
def items? (record : Record) (key : String) (nullable : Bool) : Option (List Record) :=
  match record.member? key with
  | some (.items items) => some items
  | _ => if nullable then none else some []

def object? (record : Record) (key : String) : Option Record :=
  match record.member? key with
  | some (.object object) => some object
  | _ => none

theorem type?_scalar (record : Record) (key : String) (type : ScalarType) (nullable : Bool) :
    record.scalar key type nullable = .null ∨
      (record.scalar key type nullable).type? = some type := by
  have htyped := IntoValue.type?_intoValue (record.typed key type nullable)
  rwa [ScalarType.scalarType_member] at htyped

end Record

structure Instance where
  shape : ShapeId
  record : Record

end MappingPlan
