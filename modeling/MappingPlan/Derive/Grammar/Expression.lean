import MappingPlan.Derive.Grammar.Control

/-!
# Reading expressions

An operand is a primary expression with the signs before it and the selections, calls
and indexes after it.
-/

namespace MappingPlan.Derive

namespace Reading

def beginsAsyncBlock (tokens : List Token) : Bool :=
  let second := tokens.drop 1
  Ahead.word ["async"] tokens &&
    (Ahead.group .brace second ||
      (Ahead.word ["move"] second && Ahead.group .brace (tokens.drop 2)))

def beginsClosure (tokens : List Token) : Bool :=
  let second := tokens.drop 1
  Ahead.sign "|" tokens || Ahead.word ["move", "static"] tokens ||
    (Ahead.word ["for"] tokens && beginsParameters second) ||
    (Ahead.word ["const"] tokens && !Ahead.group .brace second) ||
    (Ahead.word ["async"] tokens && (Ahead.sign "|" second || Ahead.word ["move"] second))

def beginsPathExpression (tokens : List Token) : Bool :=
  let second := tokens.drop 1
  beginsPath tokens ||
    (Ahead.word ["try"] tokens && (Ahead.sign "!" second || Ahead.sign "::" second))

/-- Whether the address of a place is taken as it is. -/
def beginsRaw (tokens : List Token) : Bool :=
  Ahead.word ["raw"] tokens && Ahead.word ["mut", "const"] (tokens.drop 1)

variable (g : Grammar)

def callArguments : Reading Unit :=
  discard <| inside .parenthesis (g.list (g.expression true))

/-- What is selected after a point: members by number, what is waited for, or a member
with its arguments. -/
def selection : Reading Unit := do
  unless ← fraction? do
    unless ← word? ["await"] do
      let named ← member
      let applied ← if named then sees (Ahead.sign "::") else pure false
      if applied then
        sign "::"
        discard <| arguments g
      if applied || (named && (← sees (Ahead.group .parenthesis))) then callArguments g

def trailersFrom (form : ExpressionForm) : Nat → Reading ExpressionForm
  | 0 => exhausted
  | fuel + 1 => do
      if ← sees (Ahead.group .parenthesis) then
        callArguments g
        trailersFrom .other fuel
      else if (← sees (Ahead.sign ".")) && !(← sees (Ahead.sign "..")) && form != .range then
        sign "."
        selection g
        trailersFrom .other fuel
      else if ← sees (Ahead.group .bracket) then
        inside .bracket (g.expression true)
        trailersFrom .other fuel
      else if (← sees (Ahead.sign "?")) && form != .range then
        sign "?"
        trailersFrom .other fuel
      else return form

def trailers (form : ExpressionForm) : Reading ExpressionForm :=
  trailersFrom g form g.fuel

def closureArgument : Reading Unit := do
  discard <| attributes g
  discard g.pattern
  if ← sign? ":" then g.anyType

/-- A function without a name; one with a type for its result has a block. -/
def closure (structs : Bool) : Reading Unit := do
  discard <| quantifier? g
  discard <| word? ["const"]
  discard <| word? ["static"]
  discard <| word? ["async"]
  discard <| word? ["move"]
  sign "|"
  discard <| separated "," (sees (Ahead.sign "|")) (closureArgument g) g.fuel
  sign "|"
  if ← sees (Ahead.sign "->") then
    result g true
    block g
  else g.expression structs

def fieldValue : Reading Unit := do
  discard <| attributes g
  let named ← member
  if (← sees (Ahead.sign ":")) || !named then
    sign ":"
    g.expression true

/-- The values of the members of a struct, after which another struct may give the
others. -/
def fieldValues : Nat → Reading Unit
  | 0 => exhausted
  | fuel + 1 => do
      unless ← atEnd do
        if ← sign? ".." then
          unless ← atEnd do g.expression true
        else
          fieldValue g
          unless ← atEnd do
            sign ","
            fieldValues fuel

def pathExpression (structs : Bool) : Reading ExpressionForm := do
  let path ← qualifiedPath g false
  match ← macroCall? path with
  | some delimiter => return if delimiter = .brace then .macroBlock else .other
  | none =>
      if structs && (← sees (Ahead.group .brace)) then
        inside .brace (fieldValues g g.fuel)
      return .other

def arrayElements : Reading Unit := do
  unless ← atEnd do
    g.expression true
    if ← sign? ";" then g.expression true
    else if ← sign? "," then discard <| g.list (g.expression true)
    else unless ← atEnd do expected [.mark ",", .mark ";"]

def builtinCall : Reading Unit := do
  word "builtin"
  sign "#"
  discard name
  inside .parenthesis (moveTo [])

def primary (structs : Bool) : Reading ExpressionForm := do
  if ← sees Ahead.literal then
    constant g
    return .other
  else if ← sees beginsAsyncBlock then
    word "async"
    discard <| word? ["move"]
    block g
    return .other
  else if ← sees beginsClosure then
    closure g structs
    return .other
  else if ← sees fun tokens =>
      Ahead.word ["builtin"] tokens && Ahead.sign "#" (tokens.drop 1) then
    builtinCall
    return .other
  else if ← sees beginsPathExpression then pathExpression g structs
  else if ← sees (Ahead.group .parenthesis) then
    callArguments g
    return .other
  else if ← word? ["break"] then
    breakValue g structs
    return .other
  else if ← word? ["continue"] then
    if ← sees Ahead.lifetime then lifetime
    return .other
  else if ← word? ["return", "yield"] then
    value? g
    return .other
  else if ← word? ["become"] then
    g.expression true
    return .other
  else if ← sees (Ahead.group .bracket) then
    inside .bracket (arrayElements g)
    return .other
  else if ← word? ["let"] then
    letCondition g structs
    return .other
  else if ← sees beginsBlock then blockExpression g
  else if ← sees (Ahead.sign "..") then
    rangeRest g structs
    return .range
  else if ← word? ["_"] then return .other
  else if ← sees Ahead.lifetime then labelledExpression g
  else expected [.expression]

def operandPhrase (structs : Bool) : Reading ExpressionForm := do
  let attributed := !(← attributes g).isEmpty
  if ← sign? "&" then
    if ← sees beginsRaw then
      word "raw"
      discard anyName
    else discard <| word? ["mut"]
    discard <| g.read (.operand structs)
    return .other
  else if (← signOf? ["*", "!", "-"]).isSome then
    discard <| g.read (.operand structs)
    return .other
  else
    let form ← trailers g (← primary g structs)
    if attributed && form = .range then throw .attributesOnRange
    return form

/-- An expression that stands as a statement or in a match arm.  One that ends with a
block is an operand only if something of it is selected. -/
def standingPhrase : Reading ExpressionForm := do
  discard <| attributes g
  let first ←
    if ← sees beginsBlock then blockExpression g
    else if ← sees Ahead.lifetime then labelledExpression g
    else g.read (.operand true)
  let selects ← sees fun tokens =>
    (Ahead.sign "." tokens && !Ahead.sign ".." tokens) || Ahead.sign "?" tokens
  if first != .block then g.read (.operations first true .jump)
  else if selects then g.read (.operations (← trailers g first) true .jump)
  else return first

end Reading

end MappingPlan.Derive
