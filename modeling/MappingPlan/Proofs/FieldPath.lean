import MappingPlan.Proofs.Reading
import MappingPlan.Shape.Registry

/-!
# Following dotted paths

A registry resolves a dotted path once, to an accessor that is put together from the
fields on the way.  The meaning of the path is the walk that a reader would do on the
data: from field to field through the nested objects, and the last field is read on
the object that the walk ends at.  A missing object ends the walk, and there is
nothing to read.

Resolving looks at the fields from the left and prefixes each new one with the route so
far, so the induction needs that steps may be put together in any grouping.
-/

namespace MappingPlan

/-! ## Routes -/

theorem Place.holder?_through (place : Place) (parent : ObjectGetter) (source : Instance) :
    (place.through parent.hops).holder? source = (parent.get? source).bind place.holder? := by
  unfold holder? through ObjectGetter.get?
  rw [Hop.followAll?_append]
  cases Hop.followAll? parent.hops source <;> rfl

theorem ObjectGetter.hops_through (getter parent : ObjectGetter) :
    hops { getter with place := getter.place.through parent.hops } =
      parent.hops ++ getter.hops := by
  rw [hops, hops.eq_1 getter, Place.through, List.append_assoc]

namespace Accessor

theorem through_through (accessor : Accessor) (getter parent : ObjectGetter) :
    (accessor.through getter).through parent =
      accessor.through { getter with place := getter.place.through parent.hops } := by
  have hplace : ∀ place : Place, (place.through getter.hops).through parent.hops =
      place.through (ObjectGetter.hops
        { getter with place := getter.place.through parent.hops }) := by
    intro place
    rw [ObjectGetter.hops_through, Place.through, Place.through, Place.through,
      List.append_assoc]
  cases accessor <;> simp only [through, hplace]

theorem value_through (accessor : Accessor) (parent : ObjectGetter) (source : Instance) :
    (accessor.through parent).value source = (parent.get? source).elim .null accessor.value := by
  cases accessor with
  | scalar getter =>
      simp only [through, value, ScalarGetter.get, Place.holder?_through]
      cases parent.get? source <;> rfl
  | items getter => cases hparent : parent.get? source <;> rfl
  | object getter => cases hparent : parent.get? source <;> rfl

theorem elements_through (accessor : Accessor) (parent : ObjectGetter) (source : Instance) :
    (accessor.through parent).elements source =
      (parent.get? source).elim [] accessor.elements := by
  cases accessor with
  | items getter =>
      simp only [through, elements, ItemsGetter.get?, Place.holder?_through]
      cases parent.get? source <;> rfl
  | scalar getter => cases hparent : parent.get? source <;> rfl
  | object getter => cases hparent : parent.get? source <;> rfl

end Accessor

/-! ## Walks -/

namespace Registry

variable (registry : Registry)

/-- The last field of a path, with the object that it is read on. -/
def locate? : List String → ShapeId → Instance → Option (Accessor × Instance)
  | [], _, _ => none
  | [name], shape, source => (registry.field? shape name).map fun field => (field, source)
  | name :: rest, shape, source =>
      match registry.field? shape name with
      | some (.object parent) => (parent.get? source).bind (locate? rest parent.target)
      | _ => none

theorem step?_through (start : Accessor) (parent : ObjectGetter) (name : String) :
    registry.step? (start.through parent) name =
      (registry.step? start name).map (·.through parent) := by
  cases start with
  | scalar getter => rfl
  | items getter => rfl
  | object getter =>
      have hleft : registry.step? ((Accessor.object getter).through parent) name =
          (registry.field? getter.target name).map fun accessor =>
            accessor.through { getter with place := getter.place.through parent.hops } := rfl
      rw [hleft, step?, Option.map_map]
      congr 1
      funext accessor
      exact (accessor.through_through getter parent).symm

theorem foldlM_step?_through (names : List String) (start : Accessor)
    (parent : ObjectGetter) :
    names.foldlM registry.step? (start.through parent) =
      (names.foldlM registry.step? start).map (·.through parent) := by
  induction names generalizing start with
  | nil => rfl
  | cons name rest ih =>
      rw [List.foldlM_cons, List.foldlM_cons, step?_through]
      cases registry.step? start name with
      | none => rfl
      | some next => exact ih next

/-- After an object, the further fields are resolved on its shape and read through it. -/
theorem foldlM_step?_object (parent : ObjectGetter) (first : String) (rest : List String) :
    (first :: rest).foldlM registry.step? (.object parent) =
      ((registry.field? parent.target first).bind (rest.foldlM registry.step?)).map
        (·.through parent) := by
  rw [List.foldlM_cons]
  cases hfirst : registry.field? parent.target first with
  | none => simp [step?, hfirst]
  | some start =>
      simp only [step?, hfirst, Option.map_some, Option.bind_some]
      exact registry.foldlM_step?_through rest start parent

/-- The fields of a path are put together from the left, and the walk goes from the
left too, but an accessor reads through its route from the last object back. -/
theorem elim_foldlM_step? {β : Type} {missing : β} {observe : Accessor → Instance → β}
    (hthrough : ∀ (accessor : Accessor) (parent : ObjectGetter) (source : Instance),
      observe (accessor.through parent) source =
        (parent.get? source).elim missing (observe accessor))
    (first : String) (rest : List String) (shape : ShapeId) (source : Instance) :
    ((registry.field? shape first).bind (rest.foldlM registry.step?)).elim missing
        (observe · source) =
      (registry.locate? (first :: rest) shape source).elim missing
        fun found => observe found.1 found.2 := by
  induction rest generalizing first shape source with
  | nil => cases hfield : registry.field? shape first <;> simp [locate?, hfield]
  | cons second rest ih =>
      cases hfield : registry.field? shape first with
      | none => simp [locate?, hfield]
      | some start =>
          rw [Option.bind_some]
          cases start with
          | scalar getter => simp [locate?, hfield, step?]
          | items getter => simp [locate?, hfield, step?]
          | object parent =>
              have hwalk : registry.locate? (first :: second :: rest) shape source =
                  (parent.get? source).bind
                    (registry.locate? (second :: rest) parent.target) := by
                simp only [locate?, hfield]
              rw [registry.foldlM_step?_object, hwalk]
              cases hinner : parent.get? source with
              | none =>
                  cases (registry.field? parent.target second).bind
                    (rest.foldlM registry.step?) with
                  | none => rfl
                  | some accessor => simp [hthrough, hinner]
              | some inner =>
                  rw [Option.bind_some, ← ih second parent.target inner]
                  cases (registry.field? parent.target second).bind
                    (rest.foldlM registry.step?) with
                  | none => rfl
                  | some accessor => simp [hthrough, hinner]

end Registry

/-- Reads a dotted path by a walk over its fields. -/
def FieldReader.ofRegistry (registry : Registry) : FieldReader where
  value shape path source :=
    (registry.locate? (Text.split Registry.fieldSeparator path) shape source).elim .null
      fun found => found.1.value found.2
  elements shape path source :=
    (registry.locate? (Text.split Registry.fieldSeparator path) shape source).elim []
      fun found => found.1.elements found.2

theorem FieldReader.ofResolver_resolve (registry : Registry) :
    ofResolver registry.resolve = ofRegistry registry := by
  unfold ofResolver ofRegistry
  congr 1
  · funext shape path source
    unfold Registry.resolve
    cases Text.split Registry.fieldSeparator path with
    | nil => rfl
    | cons first rest =>
        exact registry.elim_foldlM_step? Accessor.value_through first rest shape source
  · funext shape path source
    unfold Registry.resolve
    cases Text.split Registry.fieldSeparator path with
    | nil => rfl
    | cons first rest =>
        exact registry.elim_foldlM_step? Accessor.elements_through first rest shape source

end MappingPlan
