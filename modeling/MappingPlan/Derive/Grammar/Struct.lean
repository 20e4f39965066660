import MappingPlan.Derive.Grammar.Statement

/-!
# Reading struct declarations

The grammar of all phrases, and the struct declaration that a text writes.  The text must
hold one declaration and nothing else.
-/

namespace MappingPlan.Derive

namespace Reading

def phrase (g : Grammar) {α : Type} : Phrase α → Reading α
  | .type plus => typePhrase g plus
  | .argument => argumentPhrase g
  | .parameter declared => parameterPhrase g declared
  | .expression structs => expressionPhrase g structs
  | .operand structs => operandPhrase g structs
  | .standing => standingPhrase g
  | .operations left structs level => operationsPhrase g left structs level
  | .pattern => patternPhrase g
  | .statements => statementsFrom g g.fuel
  | .fields => fieldsPhrase g
  | .item => itemPhrase g
  | .imports rooted => importsPhrase g rooted

end Reading

/-- The reading of phrases that are nested less deeply than the fuel tells. -/
def Phrase.readWithin : Nat → {α : Type} → Phrase α → Reading α
  | 0, _, _ => Reading.exhausted
  | fuel + 1, _, phrase => Reading.phrase ⟨fuel, readWithin fuel⟩ phrase

def Grammar.ofFuel (fuel : Nat) : Grammar :=
  ⟨fuel, Phrase.readWithin fuel⟩

namespace Reading

def structDecl (g : Grammar) : Reading StructDecl := do
  let attributes ← attributes g
  discard <| visibility? g
  structFrom g attributes

end Reading

/-- Phrases that may begin at one character of a text. -/
def phrasesPerCharacter : Nat := 16

def StructDecl.parse (text : String) : Except SyntaxFault StructDecl :=
  match Token.listOfText? text.toList with
  | none => .error .notTokens
  | some tokens =>
      (Reading.structDecl (.ofFuel (phrasesPerCharacter * (text.length + 1)))).run tokens

end MappingPlan.Derive
