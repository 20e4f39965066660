import MappingPlan.Derive.Grammar.Bound

/-!
# Reading types

A type is read to its end so that what follows it is found; only its outermost form is
kept.
-/

namespace MappingPlan.Derive

namespace Reading

def typeBeginnings : List Wanted :=
  [.mark "for", .group .parenthesis, .mark "fn", .mark "unsafe", .mark "extern", .identifier,
    .mark "::", .mark "<", .mark "dyn", .group .bracket, .mark "*", .mark "&", .mark "!",
    .mark "impl", .mark "_", .lifetime]

def quantifiedBeginnings : List Wanted :=
  [.identifier, .mark "fn", .mark "unsafe", .mark "extern", .mark "super", .mark "self",
    .mark "Self", .mark "crate"]

def functionWords : List String := ["fn", "unsafe", "extern"]

def beginsNamed (words : List String) (tokens : List Token) : Bool :=
  (Ahead.name tokens || Ahead.word words tokens) && Ahead.sign ":" (tokens.drop 1) &&
    !Ahead.sign "::" (tokens.drop 1)

def beginsVariadic (tokens : List Token) : Bool :=
  Ahead.sign "..." tokens ||
    ((Ahead.name tokens || Ahead.word ["_"] tokens) && Ahead.sign ":" (tokens.drop 1) &&
      Ahead.sign "..." (tokens.drop 2))

def beginsMutableSelf (tokens : List Token) : Bool :=
  Ahead.word ["mut"] tokens && Ahead.word ["self"] (tokens.drop 1)

inductive Parenthesised where
  | complete
  /-- a trait that may be left out -/
  | optionalTrait
  | single (type : TypeForm)

variable (g : Grammar)

/-- An argument of a function type; the first one may be the receiver. -/
def functionArgument (first : Bool) : Reading Unit := do
  let mutable ← if first then sees beginsMutableSelf else pure false
  if mutable then word "mut"
  let named ← sees (beginsNamed (if first then ["_", "self"] else ["_"]))
  let receiver ← sees (Ahead.word ["self"])
  if named then
    discard anyName
    sign ":"
  if first && !(named && receiver) && (← sees beginsMutableSelf) then
    word "mut"
    word "self"
  else if mutable && !named then word "self"
  else g.anyType

/-- The arguments of a function type, the last of which may stand for any number. -/
def functionArguments (first : Bool) : Nat → Reading Unit
  | 0 => exhausted
  | fuel + 1 => do
      unless ← atEnd do
        discard <| attributes g
        if ← sees beginsVariadic then
          unless ← sees (Ahead.sign "...") do
            discard anyName
            sign ":"
          sign "..."
          discard <| sign? ","
        else
          functionArgument g first
          unless ← atEnd do
            sign ","
            functionArguments false fuel

def convention? : Reading Bool := do
  if ← word? ["extern"] then
    discard string?
    return true
  else return false

def functionType : Reading Unit := do
  discard <| word? ["unsafe"]
  discard convention?
  word "fn"
  insideThen .parenthesis (functionArguments g true g.fuel) fun _ => result g false

def arrayContent : Reading Unit := do
  g.anyType
  if ← sign? ";" then g.expression true

def parenthesisedContent : Reading Parenthesised := do
  if ← atEnd then return .complete
  else if ← sees Ahead.lifetime then
    traits g .object true
    return .complete
  else if ← sees (Ahead.sign "?") then
    traitBound g .object
    return .optionalTrait
  else
    let first ← g.type true
    if ← sign? "," then
      discard <| g.list g.anyType
      return .complete
    else return .single first

def Parenthesised.extend (plus : Bool) (content : Parenthesised) : Reading TypeForm := do
  let joined ← sees (Ahead.sign "+")
  match content with
  | complete => return .other
  | optionalTrait =>
      moreTraits g
      return .traits !joined
  | single first =>
      if plus && first.isTrait && joined then
        moreTraits g
        return .traits false
      else return .other

def parenthesised (plus : Bool) : Reading TypeForm :=
  insideThen .parenthesis (parenthesisedContent g) (Parenthesised.extend g plus)

/-- Bounds that each follow a plus sign, of which the last may have none after it. -/
def openBounds : Nat → Reading Unit
  | 0 => exhausted
  | fuel + 1 => do
      if ← sign? "+" then
        if ← sees (beginsBound .object) then
          discard <| bound g .object
          openBounds fuel

def pathType (plus quantified : Bool) : Reading TypeForm := do
  let path ← qualifiedPath g true
  match path, ← macroCall? path with
  | none, _ | _, some _ => return .other
  | some (absolute, segments), none =>
      if plus && (← sees (Ahead.sign "+")) then
        openBounds g g.fuel
        return .traits false
      else if quantified then return .traits true
      else return .path absolute segments

/-- The lifetimes that a type is quantified over, and a look at what they belong to. -/
def typeQuantifier : Reading Bool := do
  let quantified ← quantifier? g
  let begins ← sees fun tokens =>
    Ahead.name tokens || Ahead.word (functionWords ++ pathWords) tokens
  if quantified && !begins then expected quantifiedBeginnings
  return quantified

def typePhrase (plus : Bool) : Reading TypeForm := do
  let quantified ← typeQuantifier g
  if ← sees (Ahead.group .parenthesis) then parenthesised g plus
  else if ← sees (Ahead.word functionWords) then
    functionType g
    return .other
  else if ← sees beginsPath then pathType g plus quantified
  else if ← word? ["dyn"] then
    discard <| sign? "*"
    traits g .object plus
    return .other
  else if ← sees (Ahead.group .bracket) then
    inside .bracket (arrayContent g)
    return .other
  else if ← sign? "*" then
    unless ← word? ["const", "mut"] do expected [.mark "const", .mark "mut"]
    discard <| g.type false
    return .other
  else if ← sign? "&" then
    if ← sees Ahead.lifetime then lifetime
    discard <| word? ["mut"]
    discard <| g.type false
    return .other
  else if ← sign? "!" then return .other
  else if ← word? ["impl"] then
    traits g .hidden plus
    return .other
  else if ← word? ["_"] then return .other
  else if ← sees Ahead.lifetime then
    traits g .object true
    return .other
  else expected typeBeginnings

end Reading

end MappingPlan.Derive
