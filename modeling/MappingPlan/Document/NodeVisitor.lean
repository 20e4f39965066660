import MappingPlan.Document.Section

/-!
# Visiting the nodes of a text

A text is handed to a visitor in parts: an array as its items, one after the other, and an
object as its members, the key of each before its value.  The visitor of a document builds the
tree of these parts and knows where it stands.  It looks at a key before the value is
visited: a key with the path separator is rejected at the object, and a key that
the object has already at its own path.  The first rejection ends the visit and is the
error of the document.
-/

namespace MappingPlan.NodeVisitor

mutual

def visit (path : ConfigPath) : Json → Result Json
  | .array items => do
      return .array (← visitItems path [] items)
  | .object members => do
      return .object (← visitMembers path [] members)
  | .null => .ok .null
  | .bool value => .ok (.bool value)
  | .integer value => .ok (.integer value)
  | .fraction => .ok .fraction
  | .string text => .ok (.string text)

/-- The items so far, with the further items of an array. -/
def visitItems (path : ConfigPath) (items : List Json) : List Json → Result (List Json)
  | [] => .ok items
  | item :: rest => do
      let node ← visit (path.child (toString items.length)) item
      visitItems path (items ++ [node]) rest

/-- The object so far, with the further members that are written. -/
def visitMembers (path : ConfigPath) (object : List (String × Json)) :
    List (String × Json) → Result (List (String × Json))
  | [] => .ok object
  | (key, value) :: rest =>
      if ConfigPath.hasSeparator key then .error (.invalid path (.separatorInKey key))
      else if (object.lookup key).isSome then
        .error (.invalid (path.child key) (.repeatedKey key))
      else do
        let node ← visit (path.child key) value
        visitMembers path (Pairs.put key node object) rest

end

end MappingPlan.NodeVisitor
