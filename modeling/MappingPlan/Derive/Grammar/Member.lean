import MappingPlan.Derive.Grammar.Path

/-!
# Reading members

A member of a struct is selected by its name or by a number.  After a point, a number
with a point of its own selects twice.
-/

namespace MappingPlan.Derive

def indexLimit : Nat := 2 ^ 32

def IndexForm.fault? (negative : Bool) : IndexForm → Option SyntaxFault
  | fraction => some (.expected [.integerLiteral] false)
  | whole _ true => some (.expected [.unsuffixedInteger] false)
  | whole value false =>
      if negative then some .negativeIndex
      else if value < indexLimit then none
      else some .hugeIndex

def indexFault? (negative : Bool) (text : List Char) : Option SyntaxFault :=
  match IndexForm.ofText? text with
  | some form => form.fault? negative
  | none => some .notTokens

/-- The indexes that a number with a point stands for, and whether a point comes after
the last. -/
def indexTexts (text : List Char) : List (List Char) × Bool :=
  let parts := Text.splitChars '.' text
  if parts.getLast? = some [] then (parts.dropLast, true) else (parts, false)

namespace Ahead

def fraction? (tokens : List Token) : Option (List Char × Bool × List Token) := do
  let (text, negative, rest) ← number? tokens
  if IndexForm.ofNumber text.toList = .fraction then some (text.toList, negative, rest)
  else none

end Ahead

namespace Reading

/-- Takes a member; whether it has a name. -/
def member : Reading Bool := do
  if ← sees Ahead.name then
    discard name
    return true
  else
    match Ahead.number? (← get).rest with
    | some (text, negative, rest) =>
        match IndexForm.ofNumber text.toList with
        | .fraction => expected [.identifier, .integer]
        | form =>
            moveTo rest
            if let some fault := form.fault? negative then throw fault
            return false
    | none => expected [.identifier, .integer]

/-- Checks that some numbers are indexes, the first of which may be below zero. -/
def indexes (negative : Bool) : List (List Char) → Reading Unit
  | [] => return ()
  | text :: others => do
      if let some fault := indexFault? negative text then throw fault
      indexes false others

/-- Takes a number with a point as indexes, if there is one; whether that ends the
selection. -/
def fraction? : Reading Bool := do
  match Ahead.fraction? (← get).rest with
  | some (text, negative, rest) =>
      moveTo rest
      let (texts, pointed) := indexTexts text
      indexes negative texts
      return !pointed
  | none => return false

end Reading

end MappingPlan.Derive
