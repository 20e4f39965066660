import MappingPlan.Derive.Grammar.Generics

/-!
# Reading fields

Fields have names, or stand in parentheses without them.  Attributes and a visibility
come before each.
-/

namespace MappingPlan.Derive

namespace Reading

/-- The tokens after the words that limit a visibility to a module, when nothing else
stands with them. -/
def afterVisibilityLimit? : List Token → Option (List Token)
  | .group .parenthesis [.name place] :: rest =>
      if ["crate", "self", "super"].contains place then some rest else none
  | _ => none

def beginsVisibilityPath : List Token → Bool
  | .group .parenthesis (.name word :: _) :: _ => word == "in"
  | _ => false

variable (g : Grammar)

def visibility? : Reading Bool := do
  if ← word? ["pub"] then
    if ← sees beginsVisibilityPath then
      inside .parenthesis do
        word "in"
        discard <| plainPath g.fuel
    else
      let tokens := (← get).rest
      moveTo ((afterVisibilityLimit? tokens).getD tokens)
    return true
  else return false

/-- A field with a name.  One whose name is an underscore may hold fields of its own in
place of a type. -/
def namedField : Reading StructField := do
  let attributes ← attributes g
  discard <| visibility? g
  let unnamed ← sees (Ahead.word ["_"])
  let ident ← if unnamed then anyName else name
  sign ":"
  let nested ← sees fun tokens =>
    Ahead.word ["struct"] tokens ||
      (Ahead.word ["union"] tokens && Ahead.group .brace (tokens.drop 1))
  if unnamed && nested then
    discard anyName
    discard <| g.read .fields
    return ⟨ident, .other, attributes⟩
  else return ⟨ident, ← g.type true, attributes⟩

def fieldsPhrase : Reading (List StructField) :=
  inside .brace (g.list (namedField g))

def tupleField : Reading Unit := do
  discard <| attributes g
  discard <| visibility? g
  g.anyType

def tupleFields : Reading Unit :=
  discard <| inside .parenthesis (g.list (tupleField g))

/-- The fields of a struct, with conditions before those that have names and after those
that have none. -/
def structBody : Reading StructBody := do
  let conditioned ← conditions? g
  let wanted := [.group .brace, .mark ";"]
  if !conditioned && (← sees (Ahead.group .parenthesis)) then
    tupleFields g
    let conditioned ← conditions? g
    unless ← sign? ";" do
      expected (if conditioned then [.mark ";"] else [.mark "where", .mark ";"])
    return .tuple
  else if ← sees (Ahead.group .brace) then return .named (← fieldsPhrase g)
  else if ← sign? ";" then return .unit
  else expected (if conditioned then wanted else .mark "where" :: .group .parenthesis :: wanted)

def structFrom (attributes : List Attribute) : Reading StructDecl := do
  word "struct"
  let ident ← name
  let isGeneric ← generics g
  return ⟨ident, isGeneric, attributes, ← structBody g⟩

def variantField : Reading Unit := do
  discard <| attributes g
  discard <| visibility? g
  discard name
  if ← sees (Ahead.group .brace) then discard <| fieldsPhrase g
  else if ← sees (Ahead.group .parenthesis) then tupleFields g
  if ← sign? "=" then g.expression true

end Reading

end MappingPlan.Derive
