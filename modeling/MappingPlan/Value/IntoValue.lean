import MappingPlan.Value.Basic

/-!
# Members as values

A field of a struct has a type of its own, and a type whose members a mapping may read
says which scalar type they have and how one of them becomes a value.  The two agree: the
value has the announced type, unless it is null.  The law is part of the class, so that
whoever reads a field knows the type of what is read from the type of the field alone.
-/

namespace MappingPlan

class IntoValue (α : Type) where
  scalarType : ScalarType
  intoValue : α → Value
  type?_intoValue (member : α) :
    intoValue member = .null ∨ (intoValue member).type? = some scalarType

namespace IntoValue

instance : IntoValue String where
  scalarType := .string
  intoValue := .string
  type?_intoValue _ := Or.inr rfl

/-- Integers of any width that 64 bits can hold. -/
@[reducible] def ofInteger {α : Type} (widen : α → Int64) : IntoValue α where
  scalarType := .int
  intoValue member := .int (widen member)
  type?_intoValue _ := Or.inr rfl

instance : IntoValue Int64 := ofInteger id
instance : IntoValue Int32 := ofInteger Int32.toInt64
instance : IntoValue Int16 := ofInteger Int16.toInt64
instance : IntoValue Int8 := ofInteger Int8.toInt64
instance : IntoValue UInt32 := ofInteger fun member => member.toUInt64.toInt64
instance : IntoValue UInt16 := ofInteger fun member => member.toUInt64.toInt64
instance : IntoValue UInt8 := ofInteger fun member => member.toUInt64.toInt64

instance : IntoValue Decimal where
  scalarType := .decimal
  intoValue := .decimal
  type?_intoValue _ := Or.inr rfl

instance : IntoValue Guid where
  scalarType := .guid
  intoValue := .guid
  type?_intoValue _ := Or.inr rfl

instance : IntoValue Instant where
  scalarType := .dateTime
  intoValue := .dateTime
  type?_intoValue _ := Or.inr rfl

/-- A member that may be missing has the type of one that is there. -/
instance {α : Type} [IntoValue α] : IntoValue (Option α) where
  scalarType := scalarType α
  intoValue
    | some member => intoValue member
    | none => .null
  type?_intoValue
    | some member => type?_intoValue member
    | none => Or.inl rfl

end IntoValue

namespace ScalarType

/-- The type of the members that stand for a scalar type. -/
def Native : ScalarType → Type
  | string => String
  | int => Int64
  | decimal => Decimal
  | guid => Guid
  | dateTime => Instant

/-- The type of a field of a struct. -/
def Member (type : ScalarType) : (nullable : Bool) → Type
  | true => Option type.Native
  | false => type.Native

instance : (type : ScalarType) → IntoValue type.Native
  | string => inferInstanceAs (IntoValue String)
  | int => inferInstanceAs (IntoValue Int64)
  | decimal => inferInstanceAs (IntoValue Decimal)
  | guid => inferInstanceAs (IntoValue Guid)
  | dateTime => inferInstanceAs (IntoValue Instant)

instance (type : ScalarType) : (nullable : Bool) → IntoValue (type.Member nullable)
  | true => inferInstanceAs (IntoValue (Option type.Native))
  | false => inferInstanceAs (IntoValue type.Native)

@[simp] theorem scalarType_member (type : ScalarType) (nullable : Bool) :
    IntoValue.scalarType (type.Member nullable) = type := by
  cases nullable <;> cases type <;> rfl

/-- The member that a value came from. -/
def native? : (type : ScalarType) → Value → Option type.Native
  | string, .string text => some text
  | int, .int value => some value
  | decimal, .decimal value => some value
  | guid, .guid value => some value
  | dateTime, .dateTime value => some value
  | _, _ => none

def initial : (type : ScalarType) → type.Native
  | string => ""
  | int => (0 : Int64)
  | decimal => Decimal.zero
  | guid => Guid.zero
  | dateTime => Instant.epoch

/-- The member of a field that may have been given none: it is missing where the field
allows for it, and has the initial value of its type elsewhere. -/
def member (type : ScalarType) (found : Option type.Native) :
    (nullable : Bool) → type.Member nullable
  | true => found
  | false => found.getD type.initial

end ScalarType

end MappingPlan
