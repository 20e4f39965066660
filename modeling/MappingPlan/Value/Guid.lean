import MappingPlan.Text.Digits

/-!
# Globally unique identifiers

A guid is 32 hexadecimal digits.  It is written in small letters, in five groups
joined by hyphens; it is read in either case, with the hyphens or without any, and
the hyphenated form also in braces or after the `urn:uuid:` of a resource name, which
may be in either case as well.
-/

namespace MappingPlan

structure Guid where
  nibbles : List (Fin 16)
  length_eq : nibbles.length = 32
  deriving DecidableEq, Repr

namespace Guid

def groupSizes : List Nat := [8, 4, 4, 4, 12]

def zero : Guid := ⟨List.replicate 32 0, by simp⟩

def hyphenate : List Nat → List Char → List Char
  | size :: next :: sizes, text =>
      text.take size ++ '-' :: hyphenate (next :: sizes) (text.drop size)
  | _, text => text

def unhyphenate? : List Nat → List Char → Option (List Char)
  | size :: next :: sizes, text =>
      match text.drop size with
      | '-' :: rest => (unhyphenate? (next :: sizes) rest).map (text.take size ++ ·)
      | _ => none
  | _, text => some text

def display (guid : Guid) : String :=
  String.ofList (hyphenate groupSizes (guid.nibbles.map fun nibble => Nat.digitChar nibble.val))

def nibble? (c : Char) : Option (Fin 16) := do
  let value ← Text.hexValue? c
  if bound : value < 16 then some ⟨value, bound⟩ else none

def ofDigits? (text : List Char) : Option Guid := do
  let nibbles ← text.mapM nibble?
  if length : nibbles.length = 32 then some ⟨nibbles, length⟩ else none

def ofHyphenated? (text : List Char) : Option Guid :=
  (unhyphenate? groupSizes text).bind ofDigits?

def resourcePrefix : List Char := "urn:uuid:".toList

/-- The text after the beginning of a resource name, in either case. -/
def afterResourcePrefix? (text : List Char) : Option (List Char) :=
  if (text.take resourcePrefix.length).map Char.toLower = resourcePrefix then
    some (text.drop resourcePrefix.length)
  else none

def unbraced? (text : List Char) : Option (List Char) :=
  match text with
  | '\x7b' :: rest => if rest.getLast? = some '\x7d' then some rest.dropLast else none
  | _ => none

def ofLiteral? (literal : String) : Option Guid :=
  let text := literal.toList
  let hyphenated := (unbraced? text <|> afterResourcePrefix? text).getD text
  ofHyphenated? hyphenated <|> ofDigits? text

end Guid

end MappingPlan
