import MappingPlan.Mapping.ObjectSpec
import MappingPlan.Plan.Source

/-!
# Document plans

An object description is compiled to a flat list of instructions.  An array stands
in the list as a begin instruction, the instructions for one element, and an end
instruction; the begin instruction tells how many instructions one element takes, so
that a run can repeat them for every element and then go on after them.  All instructions
are appended to one vector, so an array is begun with no instructions for its elements, and
the number is put in when they have been appended.

Running a plan gives the pieces of text that are written, in order; the document is
all of them together.
-/

namespace MappingPlan

inductive Op where
  | beginObject
  | endObject
  /-- opens an array; the next `body` instructions are for one element -/
  | beginArray (source : CollectionSource) (body : Nat)
  | endArray
  /-- a key, after a comma unless it is the first of its object -/
  | propertyName (name : String) (first : Bool)
  | emitValue (source : ValueSource)
  deriving DecidableEq, Repr

structure DocumentPlan where
  ops : List Op
  deriving DecidableEq, Repr

namespace DocumentPlan

/-- Tells the array that begins at a place that everything behind it is for one element. -/
def patchBody (ops : Array Op) (start : Nat) : Array Op :=
  match ops[start]? with
  | some (.beginArray source _) =>
      ops.setIfInBounds start (.beginArray source (ops.size - start - 1))
  | _ => ops

mutual

def appendObject (binder : Binder) (scopes : Scopes) (ops : Array Op) :
    ObjectSpec → Result (Array Op)
  | ⟨_, fields⟩ => do
      let inside ← appendFields binder scopes true (ops.push .beginObject) fields
      return inside.push .endObject

def appendFields (binder : Binder) (scopes : Scopes) (first : Bool) (ops : Array Op) :
    List FieldSpec → Result (Array Op)
  | [] => .ok ops
  | ⟨key, path, node⟩ :: rest => do
      let field ← appendNode binder scopes path (ops.push (.propertyName key first)) node
      appendFields binder scopes false field rest

def appendNode (binder : Binder) (scopes : Scopes) (path : ConfigPath) (ops : Array Op) :
    FieldNode → Result (Array Op)
  | .leaf source type => do
      return ops.push (.emitValue (← binder.scalar scopes source type path))
  | .object spec => appendObject binder scopes ops spec
  | .array context contextPath items => do
      let source ← binder.collection scopes context contextPath
      -- how many instructions one element takes is known only behind them
      let inside ← appendObject binder (scopes.withItem source.getter.element)
        (ops.push (.beginArray source 0)) items
      return (patchBody inside ops.size).push .endArray

end

def compile (binder : Binder) (scopes : Scopes) (spec : ObjectSpec) : Result DocumentPlan := do
  return ⟨(← appendObject binder scopes #[] spec).toList⟩

def size (plan : DocumentPlan) : Nat :=
  plan.ops.length

end DocumentPlan

def propertyText (name : String) (first : Bool) : String :=
  (if first then "" else ",") ++ Json.quoteString name ++ ":"

def joinLists {α : Type} (separator : α) : List (List α) → List α
  | [] => []
  | [first] => first
  | first :: rest => first ++ separator :: joinLists separator rest

/-- The pieces of text that instructions write, in order. -/
def writtenPieces : List Op → Inputs → List String
  | [], _ => []
  | op :: rest, inputs =>
      match op with
      | .beginObject => "\x7b" :: writtenPieces rest inputs
      | .endObject => "\x7d" :: writtenPieces rest inputs
      | .propertyName name first => propertyText name first :: writtenPieces rest inputs
      | .emitValue source => (source.evaluate inputs).toJson :: writtenPieces rest inputs
      | .endArray => "]" :: writtenPieces rest inputs
      | .beginArray source body =>
          let elements := ((source.items? inputs).getD []).map fun item =>
            writtenPieces (rest.take body) (inputs.withItem item)
          "[" :: joinLists "," elements ++ writtenPieces (rest.drop body) inputs
termination_by ops => ops.length
decreasing_by all_goals grind

namespace DocumentPlan

def render (plan : DocumentPlan) (inputs : Inputs) : String :=
  String.join (writtenPieces plan.ops inputs)

end DocumentPlan

end MappingPlan
