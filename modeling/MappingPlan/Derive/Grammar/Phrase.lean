import MappingPlan.Derive.Declaration
import MappingPlan.Derive.Grammar.Cursor

/-!
# Phrases

Types, expressions, patterns and items contain each other.  What reads one of them is
written for any grammar, a way to read the phrases inside it; the grammar of all phrases
is the one that reads each phrase so.
-/

namespace MappingPlan.Derive

/-- How tightly an operator binds, from loose to tight. -/
inductive Precedence where
  | jump
  | assign
  | range
  | or
  | and
  | compare
  | bitOr
  | bitXor
  | bitAnd
  | shift
  | sum
  | product
  | cast
  deriving DecidableEq, Repr

def Precedence.rank : Precedence → Nat
  | jump => 0
  | assign => 1
  | range => 2
  | or => 3
  | and => 4
  | compare => 5
  | bitOr => 6
  | bitXor => 7
  | bitAnd => 8
  | shift => 9
  | sum => 10
  | product => 11
  | cast => 12

/-- What an expression is to what stands around it. -/
inductive ExpressionForm where
  /-- a block, or what ends in one, which needs no sign to end it -/
  | block
  | macroBlock
  | comparison
  | range
  | other
  deriving DecidableEq, Repr

inductive PatternForm where
  | rest
  | openRange
  | other
  deriving DecidableEq, Repr

/-- The phrases that contain each other, by what is kept of them. -/
inductive Phrase : Type → Type where
  /-- a type, which may consist of several traits only where plus signs are allowed -/
  | type (plus : Bool) : Phrase TypeForm
  | argument : Phrase Unit
  | parameter (declared : Bool) : Phrase Unit
  /-- an expression, in which a brace may follow a path as a struct -/
  | expression (structs : Bool) : Phrase ExpressionForm
  | operand (structs : Bool) : Phrase ExpressionForm
  /-- an expression that stands as a statement or in a match arm -/
  | standing : Phrase ExpressionForm
  | operations (left : ExpressionForm) (structs : Bool) (level : Precedence) :
      Phrase ExpressionForm
  | pattern : Phrase PatternForm
  | statements : Phrase Unit
  | fields : Phrase (List StructField)
  | item : Phrase Unit
  | imports (rooted : Bool) : Phrase Unit

/-- A way to read phrases.  The fuel bounds the lists in a phrase. -/
structure Grammar where
  fuel : Nat
  read : {α : Type} → Phrase α → Reading α

namespace Grammar

def type (g : Grammar) (plus : Bool) : Reading TypeForm :=
  g.read (.type plus)

def anyType (g : Grammar) : Reading Unit :=
  discard <| g.type true

def expression (g : Grammar) (structs : Bool) : Reading Unit :=
  discard <| g.read (.expression structs)

def pattern (g : Grammar) : Reading PatternForm :=
  g.read .pattern

def list {α : Type} (g : Grammar) (member : Reading α) : Reading (List α) :=
  Reading.list member g.fuel

end Grammar

end MappingPlan.Derive
