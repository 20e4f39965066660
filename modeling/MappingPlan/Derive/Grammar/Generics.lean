import MappingPlan.Derive.Grammar.Type

/-!
# Reading generic parameters

Parameters in angle brackets are lifetimes, types and constants, each with bounds or a
default; conditions on them follow a word of their own.
-/

namespace MappingPlan.Derive

namespace Reading

def endsCondition (tokens : List Token) : Bool :=
  tokens.isEmpty || Ahead.group .brace tokens || Ahead.sign "," tokens ||
    Ahead.sign ";" tokens || (Ahead.sign ":" tokens && !Ahead.sign "::" tokens) ||
    Ahead.sign "=" tokens

def endsParameter (tokens : List Token) : Bool :=
  Ahead.sign "," tokens || Ahead.sign ">" tokens

def lifetimesUntil (stop : List Token → Bool) : Nat → Reading Unit
  | 0 => exhausted
  | fuel + 1 => do
      unless ← sees stop do
        lifetime
        if ← sign? "+" then lifetimesUntil stop fuel

variable (g : Grammar)

def lifetimeParameter : Reading Unit := do
  lifetime
  if ← sign? ":" then lifetimesUntil endsParameter g.fuel

def typeParameter : Reading Unit := do
  discard name
  if ← sign? ":" then
    conditionBounds g fun tokens => endsParameter tokens || Ahead.sign "=" tokens
  if ← sign? "=" then g.anyType

def constantParameter : Reading Unit := do
  word "const"
  discard name
  sign ":"
  g.anyType
  if ← sign? "=" then constant g

/-- A generic parameter.  That of a declaration may be an underscore, and the fault
lists the kinds of parameters in another order. -/
def parameterPhrase (declared : Bool) : Reading Unit := do
  discard <| attributes g
  if ← sees Ahead.lifetime then lifetimeParameter g
  else if ← sees Ahead.name then typeParameter g
  else if ← sees (Ahead.word ["const"]) then constantParameter g
  else if declared && (← sees (Ahead.word ["_"])) then discard anyName
  else if declared then expected [.lifetime, .identifier, .mark "const"]
  else expected [.identifier, .lifetime, .mark "const"]

def argumentPhrase : Reading Unit := do
  if (← sees Ahead.lifetime) && !(← sees fun tokens => Ahead.sign "+" (tokens.drop 1)) then
    lifetime
  else if ← sees beginsConstant then constant g
  else
    match ← g.type true with
    | .path false [_] =>
        if ← sign? "=" then
          if ← sees beginsConstant then constant g else g.anyType
        else if ← sign? ":" then conditionBounds g endsParameter
    | _ => return ()

def generics : Reading Bool := do
  if ← sign? "<" then
    let parameters ←
      separated "," (sees (Ahead.sign ">")) (g.read (.parameter true)) g.fuel
    sign ">"
    return !parameters.isEmpty
  else return false

def condition : Reading Unit := do
  let onLifetime ← sees fun tokens => Ahead.lifetime tokens && Ahead.sign ":" (tokens.drop 1)
  if onLifetime then
    lifetime
    sign ":"
    lifetimesUntil (fun tokens => endsCondition tokens || Ahead.sign ":" tokens) g.fuel
  else
    discard <| quantifier? g
    g.anyType
    sign ":"
    conditionBounds g endsCondition

def conditions : Nat → Reading Unit
  | 0 => exhausted
  | fuel + 1 => do
      unless ← sees endsCondition do
        condition g
        if ← sign? "," then conditions fuel

def conditions? : Reading Bool := do
  if ← word? ["where"] then
    if ← sees beginsParameters then throw .parametersAfterWhere
    conditions g g.fuel
    return true
  else return false

end Reading

end MappingPlan.Derive
