import MappingPlan.Derive.Grammar.Path

/-!
# Reading bounds

A bound is a lifetime, a trait, or the names that a hidden type captures.  What a trait
may have before it depends on where the bound stands.
-/

namespace MappingPlan.Derive

/-- Where a bound stands. -/
inductive BoundPlace where
  | object
  | condition
  /-- among the traits of a hidden type -/
  | hidden
  deriving DecidableEq, Repr

inductive BoundForm where
  | lifetime
  | capture
  | trait
  deriving DecidableEq, Repr

namespace Reading

/-- Names and lifetimes up to the closing bracket. -/
def captured : Nat → Reading Unit
  | 0 => exhausted
  | fuel + 1 => do
      if (← sees Ahead.lifetime) || (← sees Ahead.name) || (← sees (Ahead.word ["Self"])) then
        moveTo ((← get).rest.drop 1)
        if ← sign? "," then captured fuel
        else unless ← sees (Ahead.sign ">") do expected [.mark ",", .mark ">"]
      else unless ← sees (Ahead.sign ">") do expected [.lifetime, .identifier, .mark ">"]

def capture (fuel : Nat) : Reading Unit := do
  word "use"
  sign "<"
  captured fuel
  sign ">"

def beginsBound (place : BoundPlace) (tokens : List Token) : Bool :=
  Ahead.anyName tokens || Ahead.sign "::" tokens || Ahead.sign "?" tokens ||
    Ahead.lifetime tokens || Ahead.group .parenthesis tokens ||
    (place != .object && Ahead.group .bracket tokens)

variable (g : Grammar)

def quantifier? : Reading Bool := do
  if ← word? ["for"] then
    sign "<"
    discard <|
      separated "," (sees (Ahead.sign ">")) (g.read (.parameter false)) g.fuel
    sign ">"
    return true
  else return false

def result (plus : Bool) : Reading Unit := do
  if ← sign? "->" then discard <| g.type plus

/-- Whether a trait has to be constant, or may be. -/
def constancy (place : BoundPlace) : Reading Unit := do
  if ← sees (Ahead.group .bracket) then
    inside .bracket (word "const")
    if place = .object then throw .maybeConstantTrait
  else if ← word? ["const"] then
    if place = .object then throw .constantTrait

/-- A trait, which as that of a function has its arguments in parentheses. -/
def traitBound (place : BoundPlace) : Reading Unit := do
  let quantified ← quantifier? g
  constancy place
  let optional ← sign? "?"
  let quantified ← if optional && !quantified then quantifier? g else pure quantified
  let (_, segments) ← path g true
  if segments.getLast?.all fun last => last.arguments.getD 0 == 0 then
    let separated ← sees fun tokens =>
      Ahead.sign "::" tokens && Ahead.group .parenthesis (tokens.drop 2)
    if separated then sign "::"
    if ← sees (Ahead.group .parenthesis) then
      discard <| inside .parenthesis (g.list g.anyType)
      result g false
  if quantified && optional then throw .quantifiedOptionalTrait

def bound (place : BoundPlace) : Reading BoundForm := do
  if ← sees Ahead.lifetime then
    lifetime
    return .lifetime
  else if ← sees (Ahead.word ["use"]) then
    capture g.fuel
    if place = .hidden then return .capture else throw .misplacedCapture
  else if ← sees (Ahead.group .parenthesis) then
    inside .parenthesis (traitBound g place)
    return .trait
  else
    traitBound g place
    return .trait

def boundsUntil (place : BoundPlace) (stop : List Token → Bool) : Nat → Reading Unit
  | 0 => exhausted
  | fuel + 1 => do
      unless ← sees stop do
        discard <| bound g place
        if ← sign? "+" then boundsUntil place stop fuel

def conditionBounds (stop : List Token → Bool) : Reading Unit :=
  boundsUntil g .condition stop g.fuel

/-- Bounds with plus signs between them, of which the last may have none after it. -/
def boundsFrom (place : BoundPlace) (plus : Bool) : Nat → Reading (List BoundForm)
  | 0 => exhausted
  | fuel + 1 => do
      let first ← bound g place
      if plus && (← sees (Ahead.sign "+")) then
        sign "+"
        if ← sees (beginsBound place) then
          return first :: (← boundsFrom place plus fuel)
      return [first]

/-- The bounds of a type that is known by its traits only, of which it needs one. -/
def traits (place : BoundPlace) (plus : Bool) : Reading Unit := do
  unless (← boundsFrom g place plus g.fuel).contains .trait do
    throw (if place = .hidden then .implWithoutTrait else .objectWithoutTrait)

def moreTraits : Reading Unit :=
  discard <| whileSees (Ahead.sign "+") (do sign "+"; bound g .object) g.fuel

end Reading

end MappingPlan.Derive
