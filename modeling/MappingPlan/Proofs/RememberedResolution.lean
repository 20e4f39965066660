import MappingPlan.Proofs.Registration

/-!
# Remembered resolution

A registry remembers what a field path resolved to, and also that it did not resolve.  A
path depends on all the shapes that it goes through, and these may be registered one by
one, so any remembered answer can be wrong once a shape is entered.  Entering therefore
forgets all answers, at whatever point of a registration it happens.  A registration that
finds its shape there already enters nothing and forgets nothing.

Hence an answer is always that of a registry which has the same shapes and was never asked
before.
-/

namespace MappingPlan.Registry

inductive Call where
  | register (shape : ShapeId)
  | resolve (shape : ShapeId) (path : String)

section Serving

variable (family : ShapeFamily)

/-- The answers to the resolve calls, in turn, and the registry afterwards. -/
def serve : List Call → Registry → List (Option Accessor) × Registry
  | [], registry => ([], registry)
  | .register shape :: rest, registry => serve rest (registry.register family shape)
  | .resolve shape path :: rest, registry =>
      let (answer, registry) := registry.remember shape path
      let (answers, registry) := serve rest registry
      (answer :: answers, registry)

/-- The answers to the resolve calls if each is put to a new registry, in which just the
shapes of the register calls before it are registered. -/
def serveAnew : List Call → List ShapeId → List (Option Accessor)
  | [], _ => []
  | .register shape :: rest, registered => serveAnew rest (registered ++ [shape])
  | .resolve shape path :: rest, registered =>
      (ofShapes family registered).resolve shape path :: serveAnew rest registered

end Serving

/-- What is remembered of a path is what the path resolves to now. -/
def Coherent (registry : Registry) : Prop :=
  ∀ key answer, registry.resolved.lookup key = some answer →
    answer = registry.resolve key.1 key.2

variable {family : ShapeFamily} {registry other : Registry}

theorem coherent_empty : empty.Coherent := by
  intro key answer hremembered
  cases hremembered

theorem coherent_enter (registry : Registry) (shape : ShapeId) (fields : List FieldDecl) :
    (registry.enter shape fields).Coherent := by
  intro key answer hremembered
  cases hremembered

theorem Coherent.register (hcoherent : registry.Coherent) (shape : ShapeId) :
    (registry.register family shape).Coherent :=
  registerAll_of_enter (fun registry shape _ _ => coherent_enter registry shape _) [shape]
    hcoherent

theorem Coherent.remember_fst (hcoherent : registry.Coherent) (shape : ShapeId)
    (path : String) : (registry.remember shape path).1 = registry.resolve shape path := by
  unfold remember
  cases hremembered : registry.resolved.lookup (shape, path) with
  | none => rfl
  | some answer => exact hcoherent (shape, path) answer hremembered

theorem shapes_remember (registry : Registry) (shape : ShapeId) (path : String) :
    (registry.remember shape path).2.shapes = registry.shapes := by
  unfold remember
  cases registry.resolved.lookup (shape, path) <;> rfl

/-- Nothing but the shapes counts for what a path resolves to. -/
theorem resolve_of_shapes_eq (hshapes : registry.shapes = other.shapes) :
    registry.resolve = other.resolve := by
  obtain ⟨shapes, resolved⟩ := registry
  obtain ⟨otherShapes, otherResolved⟩ := other
  obtain rfl : shapes = otherShapes := hshapes
  rfl

theorem Coherent.remember (hcoherent : registry.Coherent) (shape : ShapeId) (path : String) :
    (registry.remember shape path).2.Coherent := by
  have hresolve : (registry.remember shape path).2.resolve = registry.resolve :=
    resolve_of_shapes_eq (shapes_remember registry shape path)
  intro key answer hremembered
  rw [hresolve]
  unfold Registry.remember at hremembered
  cases hknown : registry.resolved.lookup (shape, path) with
  | some known =>
      rw [hknown] at hremembered
      exact hcoherent key answer hremembered
  | none =>
      simp only [hknown, List.lookup_cons] at hremembered
      by_cases hkey : key = (shape, path)
      · subst hkey
        rw [beq_self_eq_true] at hremembered
        exact (Option.some.inj hremembered).symm
      · have hother : (key == (shape, path)) = false := by simpa using hkey
        rw [hother] at hremembered
        exact hcoherent key answer hremembered

/-- Remembered answers make no difference to what is registered. -/
theorem shapes_registerAll_congr (pending : List ShapeId)
    (hshapes : registry.shapes = other.shapes) :
    (registerAll family pending registry).shapes = (registerAll family pending other).shapes := by
  induction pending with
  | nil =>
      rw [registerAll, registerAll]
      exact hshapes
  | cons shape pending ih =>
      have hcontains : other.contains shape = registry.contains shape := by
        rw [contains, contains, hshapes]
      have henter : other.enter shape (family.fields shape) =
          registry.enter shape (family.fields shape) := by
        rw [enter, enter, hshapes]
      rw [registerAll.eq_2 family registry, registerAll.eq_2 family other, hcontains, henter]
      by_cases hknown : registry.contains shape = true
      · rw [if_pos hknown, if_pos hknown]
        exact ih
      · rw [if_neg hknown, if_neg hknown]

/-- The registry has just the shapes of some register calls, and its memory is right. -/
structure UpToDate (family : ShapeFamily) (registered : List ShapeId) (registry : Registry) :
    Prop where
  shapes : registry.shapes = (ofShapes family registered).shapes
  coherent : registry.Coherent

namespace UpToDate

variable {registered : List ShapeId}

theorem initial (family : ShapeFamily) : UpToDate family [] empty := by
  constructor
  · rfl
  · exact coherent_empty

theorem register (hcurrent : UpToDate family registered registry) (shape : ShapeId) :
    UpToDate family (registered ++ [shape]) (registry.register family shape) := by
  constructor
  · have hlast : ofShapes family (registered ++ [shape]) =
        (ofShapes family registered).register family shape := by
      rw [ofShapes, List.foldl_append]
      rfl
    rw [hlast]
    exact shapes_registerAll_congr [shape] hcurrent.shapes
  · exact hcurrent.coherent.register shape

theorem remember (hcurrent : UpToDate family registered registry) (shape : ShapeId)
    (path : String) : UpToDate family registered (registry.remember shape path).2 := by
  constructor
  · rw [shapes_remember]
    exact hcurrent.shapes
  · exact hcurrent.coherent.remember shape path

theorem answer (hcurrent : UpToDate family registered registry) (shape : ShapeId)
    (path : String) :
    (registry.remember shape path).1 = (ofShapes family registered).resolve shape path := by
  rw [hcurrent.coherent.remember_fst, resolve_of_shapes_eq hcurrent.shapes]

theorem serve (hcurrent : UpToDate family registered registry) (calls : List Call) :
    (serve family calls registry).1 = serveAnew family calls registered ∧
      (serve family calls registry).2.Coherent := by
  induction calls generalizing registered registry with
  | nil => exact ⟨rfl, hcurrent.coherent⟩
  | cons call rest ih =>
      cases call with
      | register shape => exact ih (hcurrent.register shape)
      | resolve shape path =>
          obtain ⟨hanswers, hcoherent⟩ := ih (hcurrent.remember shape path)
          constructor
          · rw [serveAnew, ← hanswers, ← hcurrent.answer shape path]
            rfl
          · exact hcoherent

end UpToDate

/-- Whatever is registered and resolved in whatever order, each answer is that of a new
registry with the shapes registered so far, and a further answer would be what the path
resolves to on the shapes that are there. -/
theorem answers_up_to_date (family : ShapeFamily) (calls : List Call) :
    (serve family calls empty).1 = serveAnew family calls [] ∧
      ∀ shape path, ((serve family calls empty).2.remember shape path).1 =
        (serve family calls empty).2.resolve shape path := by
  obtain ⟨hanswers, hcoherent⟩ := (UpToDate.initial family).serve calls
  exact ⟨hanswers, hcoherent.remember_fst⟩

end MappingPlan.Registry
