import Mathlib.Logic.Relation
import MappingPlan.Proofs.Registration

/-!
# Shapes that registering brings in

Registering a shape goes on to the shapes that its fields mention, depth first.  A shape
is entered before the shapes it mentions are looked at, and a shape that is already there
is passed over, also while shapes that it mentions are still waiting.  So the table is
closed under mentioning only up to the shapes that wait.  It is closed when none is left,
and then holds what the registered shapes reach, however they refer to each other.

The work list of the registry stands for calls inside of calls.  Such a call enters a
declared shape before it makes others, so no more of them are open at one time than there
are declared shapes, and one more.
-/

namespace MappingPlan

namespace ShapeFamily

/-- A field of the owner keeps elements of the target, or an object of it. -/
def Mentions (family : ShapeFamily) (owner target : ShapeId) : Prop :=
  ∃ field ∈ family.fields owner,
    (∃ nullable, field.type = .items target nullable) ∨ field.type = .object target

def Reaches (family : ShapeFamily) : ShapeId → ShapeId → Prop :=
  Relation.ReflTransGen family.Mentions

theorem mem_nested_iff {family : ShapeFamily} {owner target : ShapeId} :
    target ∈ family.nested owner ↔ family.Mentions owner target := by
  rw [nested, ShapeBuilder.nested_describe, ShapeBuilder.fields_describe]
  simp only [List.filterMap_map, List.mem_filterMap, Function.comp_apply,
    Accessor.target?_ofField_eq_some_iff, Mentions]

end ShapeFamily

namespace Registry

variable {family : ShapeFamily} {registry : Registry}

/-! ## Calls inside of calls -/

section Calls

variable (family : ShapeFamily)

/-- Registering by a call for each shape that is mentioned, of which `depth` may be open
at one time. -/
def registerWithin : Nat → ShapeId → Registry → Option Registry
  | 0, _, _ => none
  | depth + 1, shape, registry =>
      if registry.contains shape then some registry
      else
        (family.nested shape).foldlM
          (fun registry mentioned => registerWithin depth mentioned registry)
          (registry.enter shape (family.fields shape))

end Calls

theorem register_of_contains {shape : ShapeId} (hknown : registry.contains shape = true) :
    registry.register family shape = registry := by
  rw [register, registerAll, if_pos hknown, registerAll]

theorem register_of_new {shape : ShapeId} (hnew : registry.contains shape = false) :
    registry.register family shape =
      (family.nested shape).foldl (fun registry mentioned => registry.register family mentioned)
        (registry.enter shape (family.fields shape)) := by
  rw [register, registerAll, if_neg (by simp [hnew]), List.append_nil, registerAll_eq_foldl]

theorem unregistered_register_le (family : ShapeFamily) (registry : Registry)
    (shape : ShapeId) :
    (registry.register family shape).unregistered family ≤ registry.unregistered family := by
  have hkept : ∀ (entered : Registry) (other : ShapeId), entered.contains other = false →
      entered.unregistered family ≤ registry.unregistered family →
      (entered.enter other (family.fields other)).unregistered family ≤
        registry.unregistered family := by
    intro entered other _ hle
    exact Nat.le_trans (unregistered_enter_le entered family other (family.fields other)) hle
  exact registerAll_of_enter hkept [shape] (Nat.le_refl _)

theorem registerWithin_eq {depth : Nat} {shape : ShapeId}
    (hdepth : registry.unregistered family < depth) :
    registerWithin family depth shape registry = some (registry.register family shape) := by
  induction depth generalizing shape registry with
  | zero => omega
  | succ depth ih =>
      rw [registerWithin]
      by_cases hknown : registry.contains shape = true
      · rw [if_pos hknown, register_of_contains hknown]
      · have hnew : registry.contains shape = false := by simpa using hknown
        rw [if_neg hknown, register_of_new hnew]
        by_cases hdeclared : shape ∈ family.map Prod.fst
        · have hless :
              (registry.enter shape (family.fields shape)).unregistered family < depth := by
            have hentered := unregistered_enter_lt (family.fields shape) hdeclared hnew
            omega
          generalize registry.enter shape (family.fields shape) = entered at hless
          induction family.nested shape generalizing entered with
          | nil => rfl
          | cons mentioned rest ihRest =>
              rw [List.foldlM_cons, ih hless, List.foldl_cons]
              apply ihRest
              have hle := unregistered_register_le family entered mentioned
              omega
        · rw [nested_of_not_declared hdeclared]
          rfl

/-! ## What is brought in -/

/-- What a registered shape mentions is registered or waits. -/
def ClosedUpTo (family : ShapeFamily) (pending : List ShapeId) (registry : Registry) : Prop :=
  ∀ owner target, registry.contains owner = true → family.Mentions owner target →
    registry.contains target = true ∨ target ∈ pending

theorem ClosedUpTo.skip {shape : ShapeId} {pending : List ShapeId}
    (hclosed : registry.ClosedUpTo family (shape :: pending))
    (hknown : registry.contains shape = true) : registry.ClosedUpTo family pending := by
  intro owner target howner hmentions
  rcases hclosed owner target howner hmentions with htarget | hwaits
  · exact .inl htarget
  · rcases List.mem_cons.mp hwaits with rfl | hlater
    · exact .inl hknown
    · exact .inr hlater

theorem ClosedUpTo.enter {shape : ShapeId} {pending : List ShapeId}
    (hclosed : registry.ClosedUpTo family (shape :: pending)) :
    (registry.enter shape (family.fields shape)).ClosedUpTo family
      (family.nested shape ++ pending) := by
  intro owner target howner hmentions
  rw [contains_enter, Bool.or_eq_true, beq_iff_eq] at howner ⊢
  rw [List.mem_append]
  rcases howner with rfl | hold
  · have hnested := ShapeFamily.mem_nested_iff.mpr hmentions
    exact .inr (.inl hnested)
  · rcases hclosed owner target hold hmentions with htarget | hwaits
    · exact .inl (.inr htarget)
    · rcases List.mem_cons.mp hwaits with rfl | hlater
      · exact .inl (.inl rfl)
      · exact .inr (.inr hlater)

theorem ClosedUpTo.registerAll {pending : List ShapeId}
    (hclosed : registry.ClosedUpTo family pending) :
    (registerAll family pending registry).ClosedUpTo family [] := by
  induction pending, registry using registerAll.induct family with
  | case1 registry =>
      rw [Registry.registerAll]
      exact hclosed
  | case2 shape pending registry hknown ih =>
      rw [Registry.registerAll, if_pos hknown]
      exact ih (hclosed.skip hknown)
  | case3 shape pending registry hnew ih =>
      rw [Registry.registerAll, if_neg hnew]
      exact ih hclosed.enter

theorem ClosedUpTo.contains_of_reaches (hclosed : registry.ClosedUpTo family [])
    {root shape : ShapeId} (hroot : registry.contains root = true)
    (hreaches : family.Reaches root shape) : registry.contains shape = true := by
  induction hreaches with
  | refl => exact hroot
  | @tail owner target _ hmentions ih =>
      rcases hclosed owner target ih hmentions with htarget | hwaits
      · exact htarget
      · exact absurd hwaits List.not_mem_nil

/-- Nothing is brought in that the waiting shapes do not reach. -/
theorem reaches_of_contains_registerAll {shape : ShapeId} {pending : List ShapeId}
    (hcontains : (registerAll family pending registry).contains shape = true) :
    registry.contains shape = true ∨ ∃ root ∈ pending, family.Reaches root shape := by
  induction pending, registry using registerAll.induct family with
  | case1 registry =>
      rw [registerAll] at hcontains
      exact .inl hcontains
  | case2 first pending registry hknown ih =>
      rw [registerAll, if_pos hknown] at hcontains
      rcases ih hcontains with hold | ⟨root, hroot, hreaches⟩
      · exact .inl hold
      · exact .inr ⟨root, List.mem_cons_of_mem first hroot, hreaches⟩
  | case3 first pending registry hnew ih =>
      rw [registerAll, if_neg hnew] at hcontains
      rcases ih hcontains with hentered | ⟨root, hroot, hreaches⟩
      · rw [contains_enter, Bool.or_eq_true, beq_iff_eq] at hentered
        rcases hentered with rfl | hold
        · exact .inr ⟨first, List.mem_cons_self, .refl⟩
        · exact .inl hold
      · rcases List.mem_append.mp hroot with hnested | hlater
        · have hmentions := ShapeFamily.mem_nested_iff.mp hnested
          exact .inr ⟨first, List.mem_cons_self, .head hmentions hreaches⟩
        · exact .inr ⟨root, List.mem_cons_of_mem first hlater, hreaches⟩

theorem closedUpTo_ofShapes (family : ShapeFamily) (roots : List ShapeId) :
    (ofShapes family roots).ClosedUpTo family [] := by
  have hempty : empty.ClosedUpTo family roots := by
    intro owner target howner
    cases howner
  rw [ofShapes_eq_registerAll]
  exact hempty.registerAll

theorem contains_ofShapes_iff {roots : List ShapeId} {shape : ShapeId} :
    (ofShapes family roots).contains shape = true ↔ ∃ root ∈ roots, family.Reaches root shape := by
  constructor
  · intro hcontains
    rw [ofShapes_eq_registerAll] at hcontains
    rcases reaches_of_contains_registerAll hcontains with hempty | hreached
    · cases hempty
    · exact hreached
  · rintro ⟨root, hroot, hreaches⟩
    exact (closedUpTo_ofShapes family roots).contains_of_reaches (contains_ofShapes hroot) hreaches

/-! ## The table -/

/-- Two registries that list the same shapes once differ in their order at most. -/
theorem ListsOnce.perm {other : Registry} (hlists : registry.ListsOnce family)
    (hother : other.ListsOnce family)
    (hsame : ∀ shape, registry.contains shape = true ↔ other.contains shape = true) :
    registry.shapes.Perm other.shapes := by
  have hkeys : (registry.shapes.map Prod.fst).Perm (other.shapes.map Prod.fst) := by
    apply (List.perm_ext_iff_of_nodup hlists.nodup hother.nodup).mpr
    intro shape
    rw [← contains_iff_mem, ← contains_iff_mem]
    exact hsame shape
  have htables : ∀ table : Registry, table.ListsOnce family →
      (table.shapes.map Prod.fst).map
          (fun shape => (shape, fieldTable shape (family.fields shape))) =
        table.shapes := by
    intro table htable
    rw [List.map_map]
    conv_rhs => rw [← List.map_id table.shapes]
    apply List.map_congr_left
    intro entry hentry
    show (entry.1, _) = entry
    rw [← htable.own entry hentry]
  rw [← htables registry hlists, ← htables other hother]
  exact hkeys.map _

theorem field?_eq_none_of_new {shape : ShapeId} (hnew : registry.contains shape = false)
    (name : String) : registry.field? shape name = none := by
  rw [contains_eq_isSome_lookup, Option.isSome_eq_false_iff, Option.isNone_iff_eq_none] at hnew
  rw [field?, hnew]
  rfl

/-- Paths are resolved by fields alone. -/
theorem resolve_congr {other : Registry}
    (hfields : ∀ shape name, registry.field? shape name = other.field? shape name) :
    registry.resolve = other.resolve := by
  have hstep : registry.step? = other.step? := by
    funext current name
    cases current with
    | scalar getter => rfl
    | items getter => rfl
    | object parent => simp only [step?, hfields]
  funext shape path
  simp only [resolve, hfields, hstep]

theorem target_of_field? {roots : List ShapeId} {shape target : ShapeId} {name : String}
    {accessor : Accessor} (hfield : (ofShapes family roots).field? shape name = some accessor)
    (htarget : accessor.target? = some target) :
    (ofShapes family roots).contains target = true := by
  have hshape : (ofShapes family roots).contains shape = true := by
    by_contra hnew
    rw [field?_eq_none_of_new (by simpa using hnew)] at hfield
    cases hfield
  obtain ⟨field, hdeclared, _, rfl⟩ :=
    faithful_ofShapes family roots shape name accessor hfield
  have hmentions : family.Mentions shape target :=
    ⟨field, hdeclared, Accessor.target?_ofField_eq_some_iff.mp htarget⟩
  rcases closedUpTo_ofShapes family roots shape target hshape hmentions with hregistered | hwaits
  · exact hregistered
  · exact absurd hwaits List.not_mem_nil

/-- Registering ends, on any registry, with no more calls open than there are declared
shapes and one more.  Starting from nothing it lists the shapes that the registered ones
reach, each once and with the fields declared for it, of which the later of two with one
name counts; the order of the registered shapes and repetitions among them make no
difference; and the shapes that its accessors lead to are all there. -/
theorem registers_reached_shapes (family : ShapeFamily) (roots : List ShapeId) :
    (∀ (registry : Registry) (shape : ShapeId),
      registerWithin family (family.length + 1) shape registry =
        some (registry.register family shape)) ∧
      ((ofShapes family roots).shapes.map Prod.fst).Nodup ∧
      (∀ shape, (ofShapes family roots).contains shape = true ↔
        ∃ root ∈ roots, family.Reaches root shape) ∧
      (∀ shape, (ofShapes family roots).contains shape = true →
        ∀ name, (ofShapes family roots).field? shape name =
          ((family.fields shape).reverse.find? fun field => name == field.name).map
            (Accessor.ofField shape)) ∧
      (∀ others : List ShapeId, (∀ shape, shape ∈ others ↔ shape ∈ roots) →
        (ofShapes family others).shapes.Perm (ofShapes family roots).shapes ∧
          (ofShapes family others).resolve = (ofShapes family roots).resolve) ∧
      ∀ shape name accessor target,
        (ofShapes family roots).field? shape name = some accessor →
          accessor.target? = some target →
          (ofShapes family roots).contains target = true := by
  refine ⟨?_, (listsOnce_ofShapes family roots).nodup, fun shape => contains_ofShapes_iff,
    fun shape hcontains => field?_of_contains hcontains, ?_,
    fun shape name accessor target => target_of_field?⟩
  · intro registry shape
    apply registerWithin_eq
    exact Nat.lt_succ_of_le List.countP_le_length
  · intro others hothers
    have hsame : ∀ shape, (ofShapes family others).contains shape = true ↔
        (ofShapes family roots).contains shape = true := by
      intro shape
      rw [contains_ofShapes_iff, contains_ofShapes_iff]
      simp only [hothers]
    have hfields : ∀ shape name, (ofShapes family others).field? shape name =
        (ofShapes family roots).field? shape name := by
      intro shape name
      by_cases hcontains : (ofShapes family roots).contains shape = true
      · rw [field?_of_contains hcontains, field?_of_contains ((hsame shape).mpr hcontains)]
      · have hnew : (ofShapes family others).contains shape = false := by
          rw [← Bool.not_eq_true, hsame shape]
          exact hcontains
        rw [field?_eq_none_of_new hnew, field?_eq_none_of_new (by simpa using hcontains)]
    exact ⟨(listsOnce_ofShapes family others).perm (listsOnce_ofShapes family roots) hsame,
      resolve_congr hfields⟩

end Registry

end MappingPlan
