import MappingPlan.Derive.Grammar.Operator

/-!
# Reading blocks and jumps

Expressions that begin with a keyword or a brace: conditions, loops, matches and blocks,
which end with a block, and jumps, which may have a value.
-/

namespace MappingPlan.Derive

namespace Reading

def beginsValue (tokens : List Token) : Bool :=
  (Ahead.anyName tokens && !Ahead.word ["as"] tokens) || Ahead.anyGroup tokens ||
    Ahead.literal tokens ||
    (Ahead.sign "!" tokens && !Ahead.sign "!=" tokens) ||
    (Ahead.sign "-" tokens && !Ahead.sign "-=" tokens && !Ahead.sign "->" tokens) ||
    (Ahead.sign "*" tokens && !Ahead.sign "*=" tokens) ||
    (Ahead.sign "|" tokens && !Ahead.sign "|=" tokens) ||
    (Ahead.sign "&" tokens && !Ahead.sign "&=" tokens) || Ahead.sign ".." tokens ||
    (Ahead.sign "<" tokens && !Ahead.sign "<=" tokens && !Ahead.sign "<<=" tokens) ||
    Ahead.sign "::" tokens || Ahead.lifetime tokens || Ahead.sign "#" tokens

def beginsConstantBlock (tokens : List Token) : Bool :=
  Ahead.word ["const"] tokens && Ahead.group .brace (tokens.drop 1)

def beginsBlock (tokens : List Token) : Bool :=
  Ahead.word ["if", "while", "loop", "match", "unsafe"] tokens ||
    (Ahead.word ["for"] tokens && !beginsParameters (tokens.drop 1)) ||
    (Ahead.word ["try"] tokens && Ahead.group .brace (tokens.drop 1)) ||
    beginsConstantBlock tokens || Ahead.group .brace tokens

def label : Reading Unit := do
  lifetime
  sign ":"

variable (g : Grammar)

def conditional : Nat → Reading Unit
  | 0 => exhausted
  | fuel + 1 => do
      word "if"
      g.expression false
      block g
      if ← word? ["else"] then
        if ← sees (Ahead.word ["if"]) then conditional fuel
        else if ← sees (Ahead.group .brace) then block g
        else expected [.mark "if", .group .brace]

/-- An arm of a match, which needs a comma after it unless it ends with a block or is the
last. -/
def arm : Reading Unit := do
  discard <| attributes g
  discard <| alternatives g
  if ← word? ["if"] then g.expression true
  sign "=>"
  let form ← g.read .standing
  if form != .block && !(← atEnd) then sign "," else discard <| sign? ","

def blockExpression : Reading ExpressionForm := do
  if ← sees (Ahead.word ["if"]) then conditional g g.fuel
  else if ← word? ["while"] then
    g.expression false
    attributedBlock g
  else if ← word? ["for"] then
    discard <| alternatives g
    word "in"
    g.expression false
    attributedBlock g
  else if ← word? ["match"] then
    g.expression false
    inside .brace do
      innerAttributes g
      untilEnd (arm g) g.fuel
  else if ← word? ["try"] then block g
  else
    discard <| word? ["loop", "unsafe", "const"]
    attributedBlock g
  return .block

def labelledExpression : Reading ExpressionForm := do
  label
  if (← sees (Ahead.word ["while", "for", "loop"])) || (← sees (Ahead.group .brace)) then
    blockExpression g
  else expected [.labelled]

def value? : Reading Unit := do
  if ← sees beginsValue then g.expression true

/-- What leaves a loop, after its word.  A label that belongs to the value needs
parentheses. -/
def breakValue (structs : Bool) : Reading Unit := do
  let labelled ← sees fun tokens => Ahead.lifetime tokens && Ahead.sign ":" (tokens.drop 1)
  if labelled then
    g.expression true
    throw .bareBreakLabel
  if ← sees Ahead.lifetime then lifetime
  let braced ← sees (Ahead.group .brace)
  if structs || !braced then value? g

def letCondition (structs : Bool) : Reading Unit := do
  discard <| alternatives g
  sign "="
  let first ← g.read (.operand structs)
  discard <| g.read (.operations first structs .compare)

end Reading

end MappingPlan.Derive
