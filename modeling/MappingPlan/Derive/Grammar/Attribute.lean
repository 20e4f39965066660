import MappingPlan.Derive.Grammar.Phrase

/-!
# Reading attributes

An attribute is a path with items in a group, with a value, or with nothing after it.
The items are read as far as they go; where no item can be read any more, the list
ends with the fault found there, which only counts for whoever asks for the items.
-/

namespace MappingPlan.Derive

namespace Reading

/-- Words that may stand in a path although they are keywords. -/
def pathWords : List String := ["super", "self", "Self", "crate"]

def plainSegments (read : List String) : Nat → Reading (List String)
  | 0 => exhausted
  | fuel + 1 => do
      if (← sees Ahead.name) || (← sees (Ahead.word pathWords)) then
        let segment ← anyName
        if ← sign? "::" then plainSegments (segment :: read) fuel
        else return (segment :: read).reverse
      else if read.isEmpty then
        let _ ← name
        return []
      else expected [.pathSegment]

def pathText (absolute : Bool) (segments : List String) : String :=
  (if absolute then "::" else "") ++ Text.joinWith "::" segments

def plainPath (fuel : Nat) : Reading String := do
  let absolute ← sign? "::"
  return pathText absolute (← plainSegments [] fuel)

/-- The key of an item, in which keywords are names. -/
def itemKey (fuel : Nat) : Reading String := do
  let absolute ← sign? "::"
  if ← sees Ahead.anyName then
    let first ← anyName
    let more ← whileSees (Ahead.sign "::") (do sign "::"; anyName) fuel
    return pathText absolute (first :: more)
  else if ← atEnd then expected [.item]
  else if ← sees Ahead.literal then throw .literalAsItem
  else throw .signAsItem

end Reading

def AttributeValue.span : List Token → Option AttributeValue × List Token
  | .sign '=' _ :: .literal (.string text) :: rest => (some (.string text), rest)
  | [.sign '=' _] => (some .missing, [])
  | .sign '=' _ :: rest => (some .other, rest)
  | rest => (none, rest)

def AttributeItem.listOfTokens : Nat → List Token → List AttributeItem
  | 0, _ | _, [] => []
  | fuel + 1, tokens =>
      match StateT.run (Reading.itemKey fuel) ⟨tokens, none⟩ with
      | .error fault => [.broken fault]
      | .ok (key, cursor) =>
          let (value, rest) := AttributeValue.span cursor.rest
          .entry key value ::
            match rest with
            | [] => []
            | .sign ',' _ :: rest => listOfTokens fuel rest
            | _ => [.broken (.expected [.mark ","] false)]

namespace Reading

variable (g : Grammar)

def attributeValue : Reading Unit := do
  let nested ← sees fun tokens => Ahead.sign "#" tokens && Ahead.group .bracket (tokens.drop 1)
  match Ahead.afterLiteral? (← get).rest with
  | some [] => moveTo []
  | _ => if nested then throw .nestedAttribute else g.expression true

def attributeContent : Reading Attribute := do
  let path ← if ← word? ["unsafe"] then pure "unsafe" else plainPath g.fuel
  if ← sees Ahead.anyGroup then
    return ⟨path, .list (AttributeItem.listOfTokens g.fuel (← anyGroup).2)⟩
  else if ← sees Ahead.assignment then
    sign "="
    attributeValue g
    return ⟨path, .assigned⟩
  else return ⟨path, .bare⟩

def attributes : Reading (List Attribute) :=
  whileSees (Ahead.sign "#") (do sign "#"; inside .bracket (attributeContent g)) g.fuel

/-- The attributes at the beginning of a block, which belong to the block. -/
def innerAttributes : Reading Unit := do
  let begins := fun tokens => Ahead.sign "#" tokens && Ahead.sign "!" (tokens.drop 1)
  discard <| whileSees begins
    (do sign "#"; sign "!"; inside .bracket (attributeContent g)) g.fuel

end Reading

end MappingPlan.Derive
