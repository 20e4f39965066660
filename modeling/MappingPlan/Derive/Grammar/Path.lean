import MappingPlan.Derive.Grammar.Attribute

/-!
# Reading paths

A path is names with arguments in angle brackets.  In an expression the arguments need a
separator before them.
-/

namespace MappingPlan.Derive

namespace Reading

def beginsArguments (inType : Bool) (tokens : List Token) : Bool :=
  (inType && Ahead.sign "<" tokens && !Ahead.sign "<=" tokens && !Ahead.sign "<<=" tokens) ||
    (Ahead.sign "::" tokens && Ahead.sign "<" (tokens.drop 2))

def beginsSegment (tokens : List Token) : Bool :=
  Ahead.sign "::" tokens && !Ahead.group .parenthesis (tokens.drop 2)

def beginsPath (tokens : List Token) : Bool :=
  Ahead.name tokens || Ahead.word pathWords tokens || Ahead.sign "::" tokens ||
    Ahead.sign "<" tokens

def beginsConstant (tokens : List Token) : Bool :=
  Ahead.literal tokens || Ahead.group .brace tokens

/-- Whether parameters in angle brackets come next, rather than a type in them. -/
def beginsParameters (tokens : List Token) : Bool :=
  let second := tokens.drop 1
  let third := tokens.drop 2
  Ahead.sign "<" tokens &&
    (Ahead.sign ">" second || Ahead.sign "#" second || Ahead.word ["const"] second ||
      ((Ahead.lifetime second || Ahead.name second) &&
        (Ahead.sign ">" third || Ahead.sign "," third || Ahead.sign "=" third ||
          (Ahead.sign ":" third && !Ahead.sign "::" third))))

variable (g : Grammar)

def block : Reading Unit :=
  inside .brace (g.read .statements)

def attributedBlock : Reading Unit :=
  inside .brace do
    innerAttributes g
    g.read .statements

def constant : Reading Unit := do
  match Ahead.afterLiteral? (← get).rest with
  | some rest => moveTo rest
  | none =>
      if ← sees Ahead.name then discard name
      else if ← sees (Ahead.group .brace) then attributedBlock g
      else expected []

/-- Arguments in angle brackets; how many there are. -/
def arguments : Reading Nat := do
  sign "<"
  let members ← separated "," (sees (Ahead.sign ">")) (g.read .argument) g.fuel
  sign ">"
  return members.length

def segment (inType : Bool) : Reading PathSegment := do
  if ← sees (Ahead.word ["super", "self", "crate", "try"]) then
    return ⟨← anyName, none⟩
  else
    let name ← if ← sees (Ahead.word ["Self"]) then anyName else name
    if ← sees (beginsArguments inType) then
      discard <| sign? "::"
      return ⟨name, some (← arguments g)⟩
    else return ⟨name, none⟩

def path (inType : Bool) : Reading (Bool × List PathSegment) := do
  let absolute ← sign? "::"
  let first ← segment g inType
  let more ← whileSees beginsSegment (do sign "::"; segment g inType) g.fuel
  return (absolute, first :: more)

/-- A path, or none if it is one within an implementation of a trait. -/
def qualifiedPath (inType : Bool) : Reading (Option (Bool × List PathSegment)) := do
  if ← sign? "<" then
    g.anyType
    if ← word? ["as"] then discard <| path g true
    sign ">"
    sign "::"
    discard <| segment g inType
    discard <| whileSees (Ahead.sign "::") (do sign "::"; segment g inType) g.fuel
    return none
  else return some (← path g inType)

/-- Takes the arguments of a macro without looking into them, after a path without
arguments of its own; the kind of their group. -/
def macroCall? (path : Option (Bool × List PathSegment)) : Reading (Option Delimiter) := do
  let plain := path.any fun (_, segments) => segments.all (·.arguments.isNone)
  if plain && (← sees (Ahead.sign "!")) && !(← sees (Ahead.sign "!=")) then
    sign "!"
    return some (← anyGroup).1
  else return none

end Reading

end MappingPlan.Derive
