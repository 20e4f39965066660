import MappingPlan.Text.Digits
import MappingPlan.Text.Split

/-!
# Decimal numbers

A decimal is a sign, a mantissa of at most 96 bits and a scale of at most 28: the
number of digits after the point.  The scale is part of the value as written, so
`1.50` stays distinct from `1.5`.

A literal is read digit by digit for as long as the mantissa and the scale have
room.  The first digit of the fraction that has none rounds the mantissa, half
going away from zero, and the digits after it are only checked.  A literal in
scientific notation moves the point of its base.

A zero that is written as such has no sign.  A negative number that loses its last
digit to its exponent keeps the sign, and becomes a negative zero.
-/

namespace MappingPlan

structure Decimal where
  negative : Bool
  mantissa : Nat
  scale : Nat
  mantissa_lt : mantissa < 2 ^ 96 := by omega
  scale_le : scale ≤ 28 := by omega
  deriving DecidableEq, Repr

namespace Decimal

def mantissaLimit : Nat := 2 ^ 96

def maxScale : Nat := 28

def make? (negative : Bool) (mantissa scale : Nat) : Option Decimal :=
  if hmantissa : mantissa < 2 ^ 96 then
    if hscale : scale ≤ 28 then some ⟨negative, mantissa, scale, hmantissa, hscale⟩
    else none
  else none

def zero : Decimal :=
  { negative := false, mantissa := 0, scale := 0 }

def ofInt64 (value : Int64) : Decimal :=
  { negative := decide (value.toInt < 0)
    mantissa := value.toInt.natAbs
    scale := 0
    mantissa_lt := by
      have hlow := value.le_toInt
      have hhigh := value.toInt_lt
      omega }

def magnitude (mantissa scale : Nat) : List Char :=
  if scale = 0 then Text.digits mantissa
  else
    Text.digits (mantissa / 10 ^ scale) ++
      '.' :: Text.digitsPadded scale (mantissa % 10 ^ scale)

/-- The decimal as text, with as many digits after the point as its scale. -/
def display (value : Decimal) : String :=
  String.ofList ((if value.negative then ['-'] else []) ++ magnitude value.mantissa value.scale)

structure Digits where
  mantissa : Nat
  scale : Nat
  fractional : Bool
  started : Bool

/-- Whether the rest of a literal, which no longer counts, is made of digits and
underscores. -/
def isIgnorable (rest : List Char) : Bool :=
  rest.all fun c => c.isDigit || c == '_'

/-- The mantissa and the scale once the next digit has no room.  A mantissa that
outgrows its bound by rounding gives up its last digit. -/
def roundWith (mantissa scale digit : Nat) : Option (Nat × Nat) :=
  if digit < 5 then some (mantissa, scale)
  else if mantissa + 1 < mantissaLimit then some (mantissa + 1, scale)
  else if scale = 0 then none
  else some ((mantissa + 5) / 10, scale - 1)

/-- A mantissa below this bound can take one more digit within 64 bits, with room to
spare. -/
def shortLimit : Nat := (2 ^ 64 - 1) / 10 - 255

/-- The mantissa and the scale of a literal whose short mantissa fills all places.
The next character rounds even if it is an underscore, which counts as a zero. -/
def closeShort (mantissa : Nat) : List Char → Option (Nat × Nat)
  | [] => some (mantissa, maxScale)
  | c :: rest =>
      if isIgnorable (c :: rest) then
        roundWith mantissa maxScale (if c = '_' then 0 else c.toNat - '0'.toNat)
      else none

def readMagnitude (read : Digits) : List Char → Option (Nat × Nat)
  | [] => if read.started then some (read.mantissa, read.scale) else none
  | c :: rest =>
      if c.isDigit then
        let digit := c.toNat - '0'.toNat
        let grown := read.mantissa * 10 + digit
        if read.fractional ∧ read.scale + 1 = maxScale ∧ read.mantissa < shortLimit then
          closeShort grown rest
        else if grown < mantissaLimit ∧ (!read.fractional ∨ read.scale < maxScale) then
          readMagnitude {
            mantissa := grown
            scale := if read.fractional then read.scale + 1 else read.scale
            fractional := read.fractional
            started := true } rest
        else if !read.fractional then none
        else if isIgnorable rest then roundWith read.mantissa read.scale digit
        else none
      else if c = '.' ∧ !read.fractional then readMagnitude { read with fractional := true } rest
      else if c = '_' ∧ read.started then readMagnitude read rest
      else none

def takeSign : List Char → Bool × List Char
  | '-' :: rest => (true, rest)
  | '+' :: rest => (false, rest)
  | rest => (false, rest)

def readPlain? (text : List Char) : Option Decimal := do
  let (negative, rest) := takeSign text
  let (mantissa, scale) ← readMagnitude ⟨0, 0, false, false⟩ rest
  make? (negative && mantissa != 0) mantissa scale

/-- The quotient by a power of ten, half going up. -/
def divideRounded (mantissa power : Nat) : Nat :=
  if power = 0 then mantissa else (mantissa + 10 ^ power / 2) / 10 ^ power

def shiftLeft? (value : Decimal) (places : Nat) : Option Decimal :=
  if maxScale < places then none
  else if value.scale + places ≤ maxScale then
    make? value.negative value.mantissa (value.scale + places)
  else
    make? value.negative
      (divideRounded value.mantissa (value.scale + places - maxScale)) maxScale

def shiftRight? (value : Decimal) (places : Nat) : Option Decimal :=
  if places ≤ value.scale then make? value.negative value.mantissa (value.scale - places)
  else if maxScale < places then none
  else make? value.negative (value.mantissa * 10 ^ (places - value.scale)) 0

def exponentLimit : Nat := 2 ^ 32

/-- The value of an unsigned exponent; a plus sign before it is allowed. -/
def readExponent? (text : List Char) : Option Nat := do
  let digits := match text with
    | '+' :: rest => rest
    | rest => rest
  let value ← Text.readDigits? digits
  if value < exponentLimit then some value else none

def readScientific? (text : List Char) : Option Decimal := do
  let base := text.takeWhile fun c => c != 'e' && c != 'E'
  let value ← readPlain? base
  match text.drop (base.length + 1) with
  | '-' :: digits => value.shiftLeft? (← readExponent? digits)
  | digits => value.shiftRight? (← readExponent? digits)

def ofLiteral? (literal : String) : Option Decimal :=
  let text := literal.toList
  match readPlain? text with
  | some value => some value
  | none =>
      if text.any fun c => c == 'e' || c == 'E' then readScientific? text else none

end Decimal

end MappingPlan
