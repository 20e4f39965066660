import MappingPlan.Document.Section

/-!
# Object descriptions

The `fields` of a JSON column and the `items` of an array describe an object: keys
in order, each with a leaf, a nested object, or an array that repeats a description
for every element of a collection.

A section is read into a description by looking at each node once.  A string is a
leaf; an object is an array when its `type` says so, a typed leaf when its `source`
is a string, and a nested object otherwise.  The first fault in the order of the
document is the one that is reported.
-/

namespace MappingPlan

mutual

structure ObjectSpec where
  path : ConfigPath
  fields : List FieldSpec

structure FieldSpec where
  key : String
  path : ConfigPath
  node : FieldNode

inductive FieldNode where
  /-- one value, converted if a type is declared -/
  | leaf (source : FieldRef) (type : Option ScalarType)
  | object (spec : ObjectSpec)
  /-- one object per element of the context -/
  | array (context : FieldRef) (contextPath : ConfigPath) (items : ObjectSpec)

end

def FieldRef.ofSection (node : Section) : Result FieldRef := do
  let text ← node.text .notAFieldRef
  match FieldRef.parse text with
  | .ok reference => .ok reference
  | .error fault => node.invalid (.fieldRef fault)

def ScalarType.ofSection (node : Section) : Result ScalarType := do
  let name ← node.requireString "type"
  match ScalarType.ofName? name with
  | some type => .ok type
  | none => .error (.unsupportedFormat (node.path.child "type") name)

inductive NodeKind where
  | typedLeaf
  | array
  | object
  deriving DecidableEq, Repr

namespace NodeKind

def arrayType : String := "array"

def hasSource (node : Section) : Bool :=
  ((node.get? "source").bind fun source => source.node.string?).isSome

def ofObject (node : Section) : Result NodeKind := do
  match ← node.optionalString "type" with
  | some type =>
      if type = arrayType then .ok array
      else if hasSource node then .ok typedLeaf
      else .error (.unsupportedFormat (node.path.child "type") type)
  | none => .ok (if hasSource node then typedLeaf else object)

end NodeKind

def FieldNode.ofTypedLeaf (node : Section) : Result FieldNode := do
  node.checkKeys ["source", "type"]
  let source ← FieldRef.ofSection (← node.require "source")
  match node.get? "type" with
  | some _ => return .leaf source (some (← ScalarType.ofSection node))
  | none => return .leaf source none

/-- The context of an array node, once its keys are known to be complete. -/
def FieldNode.arrayContext (node : Section) : Result (FieldRef × ConfigPath) := do
  node.checkKeys ["type", "context", "items"]
  let context ← node.require "context"
  let _ ← node.require "items"
  return (← FieldRef.ofSection context, context.path)

/-- The description of a node from those of its members, if the keys of the node
may be listed at all. -/
def ObjectSpec.assemble (node : Section) (fields : Result (List FieldSpec)) :
    Result ObjectSpec := do
  let _ ← node.children
  return ⟨node.path, ← fields⟩

mutual

def ObjectSpec.ofNode (path : ConfigPath) : Json → Result ObjectSpec
  | .object members =>
      ObjectSpec.assemble ⟨path, .object members⟩ (FieldSpec.ofMembers path members)
  | _ => .error (.invalid path .notAnObject)

/-- The description under the key `items` of an array node. -/
def ObjectSpec.ofItems (path : ConfigPath) : List (String × Json) → Result ObjectSpec
  | [] => .error (.missingKey path "items")
  | (key, node) :: rest =>
      if key = "items" then ObjectSpec.ofNode (path.child "items") node
      else ObjectSpec.ofItems path rest

def FieldSpec.ofMembers (path : ConfigPath) : List (String × Json) → Result (List FieldSpec)
  | [] => .ok []
  | (key, node) :: rest => do
      let node ← FieldNode.ofNode (path.child key) node
      let fields ← FieldSpec.ofMembers path rest
      return ⟨key, path.child key, node⟩ :: fields

def FieldNode.ofNode (path : ConfigPath) : Json → Result FieldNode
  | .string text => do
      return .leaf (← FieldRef.ofSection ⟨path, .string text⟩) none
  | .object members => do
      match ← NodeKind.ofObject ⟨path, .object members⟩ with
      | .typedLeaf => FieldNode.ofTypedLeaf ⟨path, .object members⟩
      | .array => do
          let (context, contextPath) ← FieldNode.arrayContext ⟨path, .object members⟩
          return .array context contextPath (← ObjectSpec.ofItems path members)
      | .object => do
          return .object (← ObjectSpec.assemble ⟨path, .object members⟩
            (FieldSpec.ofMembers path members))
  | _ => .error (.invalid path .notAFieldNode)

end

def ObjectSpec.ofSection (node : Section) : Result ObjectSpec :=
  ObjectSpec.ofNode node.path node.node

end MappingPlan
