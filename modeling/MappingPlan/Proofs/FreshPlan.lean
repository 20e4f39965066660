import MappingPlan.Compiler
import MappingPlan.Proofs.Outcome

/-!
# Compiling with an empty cache

A compiler that has not compiled anything yet answers with the plan that the section
gives, under the key of the section: the key comes first, then the plan.
-/

namespace MappingPlan

theorem PlanCache.get?_empty (key : PlanKey) : empty.get? key = none := rfl

namespace Compiler

variable (compiler : Compiler) (event record : ShapeId) (node : Section)

theorem compileRows_empty :
    (compiler.compileRows event record node .empty).1 = (do
      let key ← compiler.rowKey event record node
      let plan ← compiler.freshRows event record node
      return ⟨key, plan⟩) := by
  unfold compileRows planFor
  cases hkey : compiler.rowKey event record node with
  | error error => rfl
  | ok key =>
      simp only [PlanCache.getOrCompile, PlanCache.get?_empty]
      cases hplan : compiler.freshRows event record node <;> rfl

theorem compileDocument_empty :
    (compiler.compileDocument event record node .empty).1 = (do
      let key ← compiler.documentKey event record node
      let plan ← compiler.freshDocument event record node
      return ⟨key, plan⟩) := by
  unfold compileDocument planFor
  cases hkey : compiler.documentKey event record node with
  | error error => rfl
  | ok key =>
      simp only [PlanCache.getOrCompile, PlanCache.get?_empty]
      cases hplan : compiler.freshDocument event record node <;> rfl

variable {compiler event record node}

theorem compileRows_empty_eq_ok_iff {shared : Shared RowPlan} :
    (compiler.compileRows event record node .empty).1 = .ok shared ↔
      compiler.rowKey event record node = .ok shared.origin ∧
        compiler.freshRows event record node = .ok shared.plan := by
  simp only [compileRows_empty, Outcome.bind_eq_ok_iff, Outcome.pure_eq_ok_iff]
  constructor
  · rintro ⟨key, hkey, plan, hplan, rfl⟩
    exact ⟨hkey, hplan⟩
  · rintro ⟨hkey, hplan⟩
    exact ⟨_, hkey, _, hplan, rfl⟩

theorem compileDocument_empty_eq_ok_iff {shared : Shared DocumentPlan} :
    (compiler.compileDocument event record node .empty).1 = .ok shared ↔
      compiler.documentKey event record node = .ok shared.origin ∧
        compiler.freshDocument event record node = .ok shared.plan := by
  simp only [compileDocument_empty, Outcome.bind_eq_ok_iff, Outcome.pure_eq_ok_iff]
  constructor
  · rintro ⟨key, hkey, plan, hplan, rfl⟩
    exact ⟨hkey, hplan⟩
  · rintro ⟨hkey, hplan⟩
    exact ⟨_, hkey, _, hplan, rfl⟩

/-- A section that describes an object has a key. -/
theorem exists_documentKey_of_ofSection {spec : ObjectSpec}
    (hspec : ObjectSpec.ofSection node = .ok spec) :
    ∃ key, compiler.documentKey event record node = .ok key := by
  obtain ⟨path, tree⟩ := node
  cases tree with
  | object members =>
      simp only [ObjectSpec.ofSection, ObjectSpec.ofNode, ObjectSpec.assemble,
        Outcome.bind_eq_ok_iff] at hspec
      obtain ⟨children, hchildren, _⟩ := hspec
      simp only [documentKey, Outcome.bind_eq_ok_iff, Outcome.pure_eq_ok_iff]
      exact ⟨_, children, hchildren, rfl⟩
  | _ => simp [ObjectSpec.ofSection, ObjectSpec.ofNode] at hspec

end Compiler

end MappingPlan
