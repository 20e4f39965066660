import MappingPlan.Json.Fault
import MappingPlan.Json.Tree

/-!
# Reading a number

A number is read one character at a time.  Its digits are collected in a
significand for as long as that fits 64 bits; later digits no longer change the
value that is read, but those before the point still move the exponent.  At the
end the number is whole, when it has neither point nor exponent and fits 64 bits,
or a fraction, when its double-precision value is finite.
-/

namespace MappingPlan.Json

inductive NumberPart where
  | sign
  | leadingZero
  | whole
  /-- in the whole part, after digits were dropped -/
  | wholeDropped
  | point
  | decimals
  /-- in the digits after the point, after digits were dropped -/
  | decimalsDropped
  | exponentMark
  | exponentSign (negative : Bool)
  | exponent (negative : Bool) (value : Nat)
  /-- in an exponent too large to count, of a value known to be zero -/
  | exponentDropped
  deriving DecidableEq, Repr

/-- A number read so far: the value is `significand * 10 ^ scale`. -/
structure NumberText where
  negative : Bool
  significand : Nat
  scale : Int
  part : NumberPart
  deriving DecidableEq, Repr

inductive NumberStep where
  | more (number : NumberText)
  | finished
  | faulty (cause : FaultCause)

namespace NumberText

def significandLimit : Nat := 2 ^ 64 - 1

def exponentLimit : Nat := 2 ^ 31 - 1

def begin? (c : Char) : Option NumberText :=
  if c = '-' then some ⟨true, 0, 0, .sign⟩
  else if c = '0' then some ⟨false, 0, 0, .leadingZero⟩
  else if c.isDigit then some ⟨false, c.toNat - '0'.toNat, 0, .whole⟩
  else none

def endDigits (number : NumberText) (pointAllowed : Bool) (c : Char) : NumberStep :=
  if c = '.' ∧ pointAllowed then .more { number with part := .point }
  else if c = 'e' ∨ c = 'E' then .more { number with part := .exponentMark }
  else .finished

def pushDigit? (number : NumberText) (digit : Nat) : Option Nat :=
  let grown := number.significand * 10 + digit
  if grown ≤ significandLimit then some grown else none

def pushExponent (number : NumberText) (negative : Bool) (value digit : Nat) : NumberStep :=
  let grown := value * 10 + digit
  if grown ≤ exponentLimit then .more { number with part := .exponent negative grown }
  else if number.significand ≠ 0 ∧ !negative then .faulty .numberOutOfRange
  else .more { number with significand := 0, part := .exponentDropped }

def step (number : NumberText) (c : Char) : NumberStep :=
  let digit := c.toNat - '0'.toNat
  match number.part with
  | .sign =>
      if c = '0' then .more { number with part := .leadingZero }
      else if c.isDigit then .more { number with significand := digit, part := .whole }
      else .faulty .invalidNumber
  | .leadingZero =>
      if c.isDigit then .faulty .invalidNumber else number.endDigits true c
  | .whole =>
      if c.isDigit then
        match number.pushDigit? digit with
        | some grown => .more { number with significand := grown }
        | none => .more { number with scale := number.scale + 1, part := .wholeDropped }
      else number.endDigits true c
  | .wholeDropped =>
      if c.isDigit then .more { number with scale := number.scale + 1 }
      else number.endDigits true c
  | .point =>
      if c.isDigit then
        match number.pushDigit? digit with
        | some grown =>
            .more { number with
              significand := grown, scale := number.scale - 1, part := .decimals }
        | none => .more { number with part := .decimalsDropped }
      else .faulty .invalidNumber
  | .decimals =>
      if c.isDigit then
        match number.pushDigit? digit with
        | some grown =>
            .more { number with significand := grown, scale := number.scale - 1 }
        | none => .more { number with part := .decimalsDropped }
      else number.endDigits false c
  | .decimalsDropped =>
      if c.isDigit then .more number else number.endDigits false c
  | .exponentMark =>
      if c = '+' then .more { number with part := .exponentSign false }
      else if c = '-' then .more { number with part := .exponentSign true }
      else if c.isDigit then .more { number with part := .exponent false digit }
      else .faulty .invalidNumber
  | .exponentSign negative =>
      if c.isDigit then .more { number with part := .exponent negative digit }
      else .faulty .invalidNumber
  | .exponent negative value =>
      if c.isDigit then number.pushExponent negative value digit else .finished
  | .exponentDropped =>
      if c.isDigit then .more number else .finished

/-- A natural number rounded to 53 significant bits, a tie going to the even
neighbour. -/
def roundToDouble (n : Nat) : Nat :=
  if n < 2 ^ 53 then n
  else
    let unit := 2 ^ (n.log2 - 52)
    let kept := n / unit
    let rest := n % unit
    let up := unit < 2 * rest ∨ (2 * rest = unit ∧ kept % 2 = 1)
    (if up then kept + 1 else kept) * unit

/-- Whether `significand * 10 ^ scale`, computed in double precision from the
rounded significand and the rounded power, is finite. -/
def isFinite (significand : Nat) (scale : Int) : Bool :=
  match scale with
  | .negSucc _ => true
  | .ofNat power =>
      significand == 0 ||
        (power ≤ 308 &&
          roundToDouble significand * roundToDouble (10 ^ power) < 2 ^ 1024 - 2 ^ 970)

def fraction (significand : Nat) (scale : Int) : Except FaultCause Json :=
  if isFinite significand scale then .ok .fraction else .error .numberOutOfRange

def finish (number : NumberText) : Except FaultCause Json :=
  match number.part with
  | .leadingZero | .whole =>
      if !number.negative then .ok (.integer number.significand)
      else if 0 < number.significand ∧ number.significand ≤ 2 ^ 63 then
        .ok (.integer (-number.significand))
      else .ok .fraction
  | .wholeDropped | .decimals | .decimalsDropped =>
      fraction number.significand number.scale
  | .exponent negative value =>
      fraction number.significand
        (if negative then number.scale - value else number.scale + value)
  | .exponentDropped => .ok .fraction
  | .sign | .point | .exponentMark | .exponentSign _ => .error .endInValue

end NumberText

end MappingPlan.Json
