import MappingPlan.Json.StringText
import MappingPlan.Text.Quoted
import MappingPlan.Value.Decimal
import MappingPlan.Value.Guid
import MappingPlan.Value.Instant
import MappingPlan.Value.ScalarType

/-!
# Scalar values

A value is null or belongs to one of the scalar types.  It has a literal form from
which constants are read, a display text, and two JSON forms: a document holds
decimals as numbers, while a serialized row holds them as strings.
-/

namespace MappingPlan

inductive Value where
  | null
  | string (text : String)
  | int (value : Int64)
  | decimal (value : Decimal)
  | guid (value : Guid)
  | dateTime (value : Instant)
  deriving DecidableEq, Repr

namespace Value

def isNull : Value → Bool
  | null => true
  | _ => false

def type? : Value → Option ScalarType
  | null => none
  | string _ => some .string
  | int _ => some .int
  | decimal _ => some .decimal
  | guid _ => some .guid
  | dateTime _ => some .dateTime

def string? : Value → Option String
  | string text => some text
  | _ => none

def int? : Value → Option Int64
  | int value => some value
  | _ => none

def readInt64? (literal : String) : Option Int64 := do
  let (negative, rest) :=
    match literal.toList with
    | '-' :: rest => (true, rest)
    | '+' :: rest => (false, rest)
    | rest => (false, rest)
  let magnitude ← Text.readDigits? rest
  let value : Int := if negative then -magnitude else magnitude
  if -2 ^ 63 ≤ value ∧ value < 2 ^ 63 then some (Int64.ofInt value) else none

def ofLiteral? (type : ScalarType) (literal : String) : Option Value :=
  match type with
  | .string => some (string literal)
  | .int => (readInt64? literal).map int
  | .decimal => (Decimal.ofLiteral? literal).map decimal
  | .guid => (Guid.ofLiteral? literal).map guid
  | .dateTime => (Instant.ofLiteral? literal).map dateTime

def displayInt (value : Int64) : String :=
  let sign := if value.toInt < 0 then ['-'] else []
  String.ofList (sign ++ Text.digits value.toInt.natAbs)

def display : Value → String
  | null => ""
  | string text => text
  | int value => displayInt value
  | decimal value => value.display
  | guid value => value.display
  | dateTime value => value.display

/-- The value converted to a type.  Every scalar becomes its display text as a
string, an integer becomes a decimal, and anything else stays as it is. -/
def coerce (value : Value) (target : ScalarType) : Value :=
  match value, target with
  | null, _ => null
  | string text, .string => string text
  | other, .string => string other.display
  | int value, .decimal => decimal (.ofInt64 value)
  | other, _ => other

/-- Text between double quotes, nothing escaped. -/
def enclose (text : String) : String :=
  "\"" ++ text ++ "\""

def toJson : Value → String
  | null => "null"
  | string text => Json.quoteString text
  | int value => displayInt value
  | decimal value => value.display
  | guid value => enclose value.display
  | dateTime value => enclose value.display

/-- The value as a cell of a serialized row: a number only if it is an integer. -/
def serialize : Value → String
  | null => "null"
  | string text => Json.quoteString text
  | int value => displayInt value
  | decimal value => Json.quoteString value.display
  | guid value => Json.quoteString value.display
  | dateTime value => Json.quoteString value.display

def describe : Value → String
  | null => "Null"
  | string text => "String(" ++ Text.quoted text ++ ")"
  | int value => "Int(" ++ displayInt value ++ ")"
  | decimal value => "Decimal(" ++ value.display ++ ")"
  | guid value => "Guid(" ++ value.display ++ ")"
  | dateTime value => "DateTime(" ++ value.display ++ ")"

@[simp] theorem coerce_null (target : ScalarType) : null.coerce target = null := rfl

/-- A value of a type that may feed a place of another is null or of that type
after the conversion. -/
theorem type?_coerce {value : Value} {actual target : ScalarType} {coercions : Coercions}
    (htype : value.type? = some actual)
    (hcoercible : actual.coercibleTo target coercions = true) :
    (value.coerce target).type? = some target := by
  cases value <;> cases target <;> simp_all [type?, coerce] <;>
    subst htype <;> simp_all [ScalarType.coercibleTo]

end Value

end MappingPlan
