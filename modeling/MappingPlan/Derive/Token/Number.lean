import MappingPlan.Derive.Token.OfText

/-!
# Numbers as indexes

A field without a name is selected by a whole number without a suffix.  Two selections
in a row are read as one number with a point.
-/

namespace MappingPlan.Derive

inductive IndexForm where
  | whole (value : Nat) (suffixed : Bool)
  | fraction
  deriving DecidableEq, Repr

/-- Whether an exponent follows the letter for it: digits, and nothing but a suffix after
them. -/
def beginsExponent (valued : Bool) : List Char → Bool
  | [] => valued
  | c :: rest =>
      if c = '_' then beginsExponent valued rest
      else if c = '-' ∨ c = '+' then true
      else if c.isDigit then beginsExponent true rest
      else valued

/-- The value of a whole number in some base, and whether a suffix follows. -/
def IndexForm.ofDigits (base value : Nat) : List Char → IndexForm
  | [] => whole value false
  | c :: rest =>
      if c = '_' then ofDigits base value rest
      else if base = 10 ∧ c = '.' then fraction
      else if base = 10 ∧ (c = 'e' ∨ c = 'E') ∧ beginsExponent false rest then fraction
      else
        match Text.hexValue? c with
        | some digit =>
            if digit < base then ofDigits base (value * base + digit) rest
            else whole value true
        | none => whole value true

def IndexForm.ofNumber (text : List Char) : IndexForm :=
  let (base, digits) := baseOf text
  ofDigits base 0 digits

def IndexForm.ofText? (text : List Char) : Option IndexForm :=
  match numberOfText? text with
  | some (_, []) => some (ofNumber text)
  | _ => none

end MappingPlan.Derive
