import MappingPlan.Derive.Grammar.Pattern

/-!
# Reading operators

Operators between operands bind more or less tightly.  An operator takes as its right
operand all that binds more tightly than itself; an assignment also takes another
assignment.  Comparisons do not follow each other, and nothing follows a range.
-/

namespace MappingPlan.Derive

/-- The signs between two operands; longer ones come before those that begin them. -/
def operators : List (String × Precedence) :=
  ["+=", "-=", "*=", "/=", "%=", "^=", "&=", "|=", "<<=", ">>="].map (·, .assign) ++
    [("&&", .and), ("||", .or), ("<<", .shift), (">>", .shift)] ++
    ["==", "<=", "!=", ">="].map (·, .compare) ++
    [("+", .sum), ("-", .sum), ("*", .product), ("/", .product), ("%", .product),
      ("^", .bitXor), ("&", .bitAnd), ("|", .bitOr), ("<", .compare), (">", .compare)]

namespace Ahead

def operator? (tokens : List Token) : Option (String × Precedence) :=
  operators.find? fun (text, _) => sign text tokens

def precedence (tokens : List Token) : Precedence :=
  match operator? tokens with
  | some (_, level) => level
  | none =>
      if assignment tokens then .assign
      else if sign ".." tokens then .range
      else if word ["as"] tokens then .cast
      else .jump

end Ahead

namespace Reading

def endsRange (structs : Bool) (tokens : List Token) : Bool :=
  tokens.isEmpty || (Ahead.sign "." tokens && !Ahead.sign ".." tokens) ||
    (!structs && Ahead.group .brace tokens) || Ahead.word ["as"] tokens ||
    [",", ";", "?", "=>", "=", "+", "/", "%", "^", ">", "<=", "!=", "-=", "*=", "&=", "|=",
      "<<="].any fun text => Ahead.sign text tokens

def afterCast? (tokens : List Token) : Option AfterCast :=
  let second := tokens.drop 1
  let third := tokens.drop 2
  if Ahead.sign "." tokens && !Ahead.sign ".." tokens then
    if Ahead.word ["await"] second then some .await
    else if Ahead.name second && (Ahead.group .parenthesis third || Ahead.sign "::" third) then
      some .methodCall
    else some .field
  else if Ahead.sign "?" tokens then some .question
  else if Ahead.group .bracket tokens then some .index
  else if Ahead.group .parenthesis tokens then some .call
  else none

variable (g : Grammar)

def tighterOperations (structs : Bool) (level : Precedence) (left : ExpressionForm) :
    Nat → Reading Unit
  | 0 => exhausted
  | fuel + 1 => do
      let next := Ahead.precedence (← get).rest
      let tighter := level.rank < next.rank || (next == level && level == .assign)
      if tighter && left != .range then
        let left ← g.read (.operations left structs next)
        tighterOperations structs level left fuel

def rightOperand (structs : Bool) (level : Precedence) : Reading Unit := do
  let first ← g.read (.operand structs)
  tighterOperations g structs level first g.fuel

/-- The sign of a range and its upper end, which a closed range needs. -/
def rangeRest (structs : Bool) : Reading Unit := do
  let openEnded ← rangeSign false
  let ended ← sees (endsRange structs)
  unless openEnded && ended do rightOperand g structs .range

def castType : Reading Unit := do
  word "as"
  discard <| g.type false
  if let some what := afterCast? (← get).rest then throw (.castFollowed what)

def operationsFrom (structs : Bool) (level : Precedence) (left : ExpressionForm) :
    Nat → Reading ExpressionForm
  | 0 => exhausted
  | fuel + 1 => do
      let tokens := (← get).rest
      if left = .range then return left
      match Ahead.operator? tokens with
      | some (text, next) =>
          if next.rank < level.rank then return left
          if next = .compare ∧ left = .comparison then throw .chainedComparison
          sign text
          rightOperand g structs next
          let left := if next = .compare then .comparison else .other
          operationsFrom structs level left fuel
      | none =>
          if level.rank ≤ Precedence.assign.rank && Ahead.assignment tokens then
            sign "="
            rightOperand g structs .assign
            operationsFrom structs level .other fuel
          else if level.rank ≤ Precedence.range.rank && Ahead.sign ".." tokens then
            rangeRest g structs
            return .range
          else if Ahead.word ["as"] tokens then
            castType g
            operationsFrom structs level .other fuel
          else return left

def operationsPhrase (left : ExpressionForm) (structs : Bool) (level : Precedence) :
    Reading ExpressionForm :=
  operationsFrom g structs level left g.fuel

def expressionPhrase (structs : Bool) : Reading ExpressionForm := do
  let first ← g.read (.operand structs)
  g.read (.operations first structs .jump)

end Reading

end MappingPlan.Derive
