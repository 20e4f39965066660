import MappingPlan.Plan.Document
import MappingPlan.Proofs.Outcome

/-!
# What the compiler appends

The compiler appends to a vector and goes back to the begin of an array to put in how many
instructions stand behind it.  What it appends does not depend on what the vector holds, and
going back changes nothing that was there before: the begin of an array is always a place
that the compilation of this array itself has added, wherever it stands among other arrays.

So there are lists that the parts of a description append, each from the lists of
its own parts, and a plan is the list of the whole description.
-/

namespace MappingPlan.DocumentPlan

mutual

/-- The instructions of an object, apart from what they are appended to. -/
def opsOfObject (binder : Binder) (scopes : Scopes) : ObjectSpec → Result (List Op)
  | ⟨_, fields⟩ => do
      let body ← opsOfFields binder scopes true fields
      return .beginObject :: body ++ [.endObject]

def opsOfFields (binder : Binder) (scopes : Scopes) (first : Bool) :
    List FieldSpec → Result (List Op)
  | [] => .ok []
  | ⟨key, path, node⟩ :: rest => do
      let value ← opsOfNode binder scopes path node
      let others ← opsOfFields binder scopes false rest
      return .propertyName key first :: value ++ others

def opsOfNode (binder : Binder) (scopes : Scopes) (path : ConfigPath) :
    FieldNode → Result (List Op)
  | .leaf source type => do
      return [.emitValue (← binder.scalar scopes source type path)]
  | .object spec => opsOfObject binder scopes spec
  | .array context contextPath items => do
      let source ← binder.collection scopes context contextPath
      let body ← opsOfObject binder (scopes.withItem source.getter.element) items
      return .beginArray source body.length :: body ++ [.endArray]

end

/-- What stands in front of an array keeps its place, and so does what stands behind its
begin. -/
theorem patchBody_append (ops : Array Op) (source : CollectionSource) (body : List Op) :
    patchBody (ops ++ (.beginArray source 0 :: body).toArray) ops.size =
      ops ++ (.beginArray source body.length :: body).toArray := by
  have hbegin : (ops ++ (.beginArray source 0 :: body).toArray)[ops.size]? =
      some (.beginArray source 0) := by simp
  have hbody : (ops ++ (.beginArray source 0 :: body).toArray).size - ops.size - 1 =
      body.length := by
    simp only [Array.size_append, List.size_toArray, List.length_cons]
    omega
  rw [patchBody, hbegin, hbody]
  simp [Array.setIfInBounds_append_right]

mutual

theorem appendObject_eq (binder : Binder) :
    ∀ (spec : ObjectSpec) (scopes : Scopes) (ops : Array Op),
      appendObject binder scopes ops spec =
        (opsOfObject binder scopes spec).map (ops ++ ·.toArray)
  | ⟨_, fields⟩, scopes, ops => by
      rw [appendObject, opsOfObject, appendFields_eq binder fields scopes true]
      cases opsOfFields binder scopes true fields with
      | error fault => rfl
      | ok body =>
          show Except.ok _ = Except.ok _
          simp

theorem appendFields_eq (binder : Binder) :
    ∀ (fields : List FieldSpec) (scopes : Scopes) (first : Bool) (ops : Array Op),
      appendFields binder scopes first ops fields =
        (opsOfFields binder scopes first fields).map (ops ++ ·.toArray)
  | [], scopes, first, ops => by simp [appendFields, opsOfFields, Except.map]
  | ⟨key, path, node⟩ :: rest, scopes, first, ops => by
      rw [appendFields, opsOfFields, appendNode_eq binder node scopes path]
      cases opsOfNode binder scopes path node with
      | error fault => rfl
      | ok value =>
          show appendFields binder scopes false _ rest = _
          rw [appendFields_eq binder rest scopes false]
          cases opsOfFields binder scopes false rest with
          | error fault => rfl
          | ok others =>
              show Except.ok _ = Except.ok _
              simp

theorem appendNode_eq (binder : Binder) :
    ∀ (node : FieldNode) (scopes : Scopes) (path : ConfigPath) (ops : Array Op),
      appendNode binder scopes path ops node =
        (opsOfNode binder scopes path node).map (ops ++ ·.toArray)
  | .leaf reference type, scopes, path, ops => by
      rw [appendNode, opsOfNode]
      cases binder.scalar scopes reference type path with
      | error fault => rfl
      | ok source =>
          show Except.ok _ = Except.ok _
          simp
  | .object spec, scopes, path, ops => by
      rw [appendNode, opsOfNode, appendObject_eq binder spec]
  | .array context contextPath items, scopes, path, ops => by
      rw [appendNode, opsOfNode]
      cases binder.collection scopes context contextPath with
      | error fault => rfl
      | ok source =>
          rw [Outcome.ok_bind, Outcome.ok_bind, appendObject_eq binder items]
          cases opsOfObject binder (scopes.withItem source.getter.element) items with
          | error fault => rfl
          | ok body =>
              have hpatched := patchBody_append ops source body
              show Except.ok _ = Except.ok _
              simp [hpatched]

end

/-- A plan is the list of the instructions that its description appends. -/
theorem compile_eq (binder : Binder) (scopes : Scopes) (spec : ObjectSpec) :
    compile binder scopes spec = (do return ⟨← opsOfObject binder scopes spec⟩) := by
  rw [compile, appendObject_eq]
  cases opsOfObject binder scopes spec with
  | error fault => rfl
  | ok ops =>
      show Except.ok _ = Except.ok _
      simp

theorem compile_eq_ok_iff {binder : Binder} {scopes : Scopes} {spec : ObjectSpec}
    {plan : DocumentPlan} :
    compile binder scopes spec = .ok plan ↔ opsOfObject binder scopes spec = .ok plan.ops := by
  simp only [compile_eq, Outcome.bind_eq_ok_iff, Outcome.pure_eq_ok_iff]
  constructor
  · rintro ⟨ops, hops, rfl⟩
    exact hops
  · intro hops
    exact ⟨plan.ops, hops, rfl⟩

end MappingPlan.DocumentPlan
