import MappingPlan.Proofs.Execution
import MappingPlan.Proofs.FieldPath

/-!
# Composing field paths

A path of fields means what its parts mean, one after the other.  It resolves exactly if
every part but the last is registered for an object on the shape reached so far, and the
last for anything on the last shape.  The accessor is of the kind of the last field, and
reads what this field reads on the object that the parts before it lead to.  Where one of
the objects is missing there is nothing to read, which each kind shows in its own way.

Cutting the path at one point is all that is needed: what stands before the point resolves
to an object, and what stands behind it is resolved on the shape of this object and read
there.  A path of parts is cut again and again at its first point.
-/

namespace MappingPlan

/-! ## Readings -/

inductive AccessorKind where
  | scalar (type : ScalarType)
  | items (element : ShapeId)
  | object (target : ShapeId)
  deriving DecidableEq, Repr

/-- What an accessor gives for an instance: a value, the elements to visit in their order
unless the collection is absent, or an object if there is one. -/
inductive Reading where
  | scalar (value : Value)
  | items (visited : Option (List Instance))
  | object (found : Option Instance)

/-- The reading where there is nothing to read on. -/
def AccessorKind.missing : AccessorKind → Reading
  | scalar _ => .scalar .null
  | items _ => .items none
  | object _ => .object none

namespace Accessor

def kind : Accessor → AccessorKind
  | scalar getter => .scalar getter.type
  | items getter => .items getter.element
  | object getter => .object getter.target

def read : Accessor → Instance → Reading
  | scalar getter, source => .scalar (getter.get source)
  | items getter, source => .items (getter.get? source)
  | object getter, source => .object (getter.get? source)

/-- The accessor is of the kind of the inner one and gives what that gives on what can be
reached from the instance. -/
structure ReadsAfter (accessor inner : Accessor) (reach : Instance → Option Instance) :
    Prop where
  kind : accessor.kind = inner.kind
  read : ∀ source, accessor.read source = (reach source).elim inner.kind.missing inner.read

variable {accessor inner : Accessor}

theorem readsAfter_self (accessor : Accessor) : accessor.ReadsAfter accessor some := by
  constructor
  · rfl
  · intro source
    rfl

theorem readsAfter_through (inner : Accessor) (parent : ObjectGetter) :
    (inner.through parent).ReadsAfter inner parent.get? := by
  cases inner with
  | scalar getter =>
      constructor
      · rfl
      · intro source
        simp only [through, Accessor.read, ScalarGetter.get, Place.holder?_through]
        cases parent.get? source <;> rfl
  | items getter =>
      constructor
      · rfl
      · intro source
        simp only [through, Accessor.read, ItemsGetter.get?, Place.holder?_through]
        cases parent.get? source <;> rfl
  | object getter =>
      constructor
      · rfl
      · intro source
        have hobject : ObjectGetter.get? { getter with place := getter.place.through parent.hops }
            source = (parent.get? source).bind getter.get? := by
          rw [ObjectGetter.get?, ObjectGetter.hops_through, Hop.followAll?_append]
          rfl
        simp only [through, Accessor.read, hobject]
        cases parent.get? source <;> rfl

theorem ReadsAfter.trans {middle : Accessor} {first second : Instance → Option Instance}
    (hfirst : accessor.ReadsAfter middle first) (hsecond : middle.ReadsAfter inner second) :
    accessor.ReadsAfter inner fun source => (first source).bind second := by
  constructor
  · rw [hfirst.kind, hsecond.kind]
  · intro source
    rw [hfirst.read, hsecond.kind]
    cases first source with
    | none => rfl
    | some reached => exact hsecond.read reached

end Accessor

/-- Goes from object to object, one getter at a time. -/
def ObjectGetter.walk (getters : List ObjectGetter) (source : Instance) : Option Instance :=
  getters.foldlM (fun reached getter => getter.get? reached) source

/-! ## Paths cut at a point -/

namespace Registry

variable {registry : Registry} {shape : ShapeId}

/-- Each name is registered for an object on the shape that the names before it lead to. -/
inductive Follows (registry : Registry) :
    ShapeId → List String → List ObjectGetter → ShapeId → Prop where
  | stay (shape : ShapeId) : Follows registry shape [] [] shape
  | step {shape last : ShapeId} {name : String} {names : List String} {parent : ObjectGetter}
      {getters : List ObjectGetter}
      (hfield : registry.field? shape name = some (.object parent))
      (hrest : Follows registry parent.target names getters last) :
      Follows registry shape (name :: names) (parent :: getters) last

theorem split_point (before after : String) :
    Text.split fieldSeparator (before ++ "." ++ after) =
      Text.split fieldSeparator before ++ Text.split fieldSeparator after := by
  have hchars : (before ++ "." ++ after).toList =
      before.toList ++ fieldSeparator :: after.toList := by
    simp [fieldSeparator]
  rw [Text.split, hchars, Text.splitChars_append_separator, List.map_append]
  rfl

theorem resolve_point (registry : Registry) (shape : ShapeId) (before after : String) :
    registry.resolve shape (before ++ "." ++ after) =
      (registry.resolve shape before).bind fun start =>
        match start with
        | .object parent => (registry.resolve parent.target after).map (·.through parent)
        | _ => none := by
  unfold resolve
  rw [split_point]
  cases hbefore : Text.split fieldSeparator before with
  | nil => simp [Text.split, Text.splitChars_ne_nil] at hbefore
  | cons first rest =>
      cases hafter : Text.split fieldSeparator after with
      | nil => simp [Text.split, Text.splitChars_ne_nil] at hafter
      | cons second more =>
          simp only [List.cons_append, List.foldlM_append, Option.bind_eq_bind,
            Option.bind_assoc]
          congr 1
          funext field
          congr 1
          funext start
          cases start with
          | scalar getter => rfl
          | items getter => rfl
          | object parent => exact registry.foldlM_step?_object parent second more

theorem resolve_plain {name : String} (hname : fieldSeparator ∉ name.toList) :
    registry.resolve shape name = registry.field? shape name := by
  rw [resolve, Text.split_of_not_mem hname]
  cases hfield : registry.field? shape name with
  | none => simp [hfield]
  | some field => simp [hfield]

theorem resolve_point_eq_some_iff {before after : String} {accessor : Accessor} :
    registry.resolve shape (before ++ "." ++ after) = some accessor ↔
      ∃ parent inner, registry.resolve shape before = some (.object parent) ∧
        registry.resolve parent.target after = some inner ∧
        accessor = inner.through parent := by
  rw [resolve_point, Option.bind_eq_some_iff]
  constructor
  · rintro ⟨start, hstart, hrest⟩
    cases start with
    | scalar getter => cases hrest
    | items getter => cases hrest
    | object parent =>
        obtain ⟨inner, hinner, rfl⟩ := Option.map_eq_some_iff.mp hrest
        exact ⟨parent, inner, hstart, hinner, rfl⟩
  · rintro ⟨parent, inner, hparent, hinner, rfl⟩
    exact ⟨.object parent, hparent, Option.map_eq_some_iff.mpr ⟨inner, hinner, rfl⟩⟩

/-! ## Paths of parts -/

theorem joinWith_parts (first : String) (parents : List String) (name : String) :
    Text.joinWith "." (first :: parents ++ [name]) =
      first ++ "." ++ Text.joinWith "." (parents ++ [name]) := by
  cases parents <;> rfl

theorem Follows.exists_resolve {parents : List String} {name : String}
    {getters : List ObjectGetter} {last : ShapeId} {own : Accessor}
    (hparts : ∀ part ∈ parents ++ [name], fieldSeparator ∉ part.toList)
    (hfollows : registry.Follows shape parents getters last)
    (hown : registry.field? last name = some own) :
    ∃ accessor,
      registry.resolve shape (Text.joinWith "." (parents ++ [name])) = some accessor ∧
        accessor.ReadsAfter own (ObjectGetter.walk getters) := by
  induction hfollows with
  | stay shape =>
      have hname : fieldSeparator ∉ name.toList := hparts name List.mem_cons_self
      refine ⟨own, ?_, own.readsAfter_self⟩
      rw [← hown, ← resolve_plain hname]
      rfl
  | @step shape last first names parent getters hfield _ ih =>
      rw [List.cons_append, List.forall_mem_cons] at hparts
      obtain ⟨inner, hinner, hreads⟩ := ih hparts.2 hown
      refine ⟨inner.through parent, ?_, ?_⟩
      · rw [joinWith_parts, resolve_point_eq_some_iff]
        exact ⟨parent, inner, (resolve_plain hparts.1).trans hfield, hinner, rfl⟩
      · exact (Accessor.readsAfter_through inner parent).trans hreads

theorem exists_follows_of_resolve {parents : List String} {name : String} {accessor : Accessor}
    (hparts : ∀ part ∈ parents ++ [name], fieldSeparator ∉ part.toList)
    (hresolve : registry.resolve shape (Text.joinWith "." (parents ++ [name])) = some accessor) :
    ∃ getters last own, registry.Follows shape parents getters last ∧
      registry.field? last name = some own := by
  induction parents generalizing shape accessor with
  | nil =>
      have hname : fieldSeparator ∉ name.toList := hparts name List.mem_cons_self
      have hfield : registry.field? shape name = some accessor := by
        rw [← resolve_plain hname]
        exact hresolve
      exact ⟨[], shape, accessor, .stay shape, hfield⟩
  | cons first parents ih =>
      rw [List.cons_append, List.forall_mem_cons] at hparts
      rw [joinWith_parts, resolve_point_eq_some_iff] at hresolve
      obtain ⟨parent, inner, hparent, hinner, -⟩ := hresolve
      rw [resolve_plain hparts.1] at hparent
      obtain ⟨getters, last, own, hfollows, hown⟩ := ih hparts.2 hinner
      exact ⟨parent :: getters, last, own, .step hparent hfollows, hown⟩

/-- A path of parts resolves exactly if all its parts but the last lead through objects and
the last is a field where they end, and then it reads this field on the object that the
others lead to.  A path cut at any point resolves exactly if what is before the point gives
an object and what is behind it resolves on the shape of the object, and then it reads that
on the object. -/
theorem resolve_reads_by_parts (registry : Registry) (shape : ShapeId) {parents : List String}
    {name : String} (hparts : ∀ part ∈ parents ++ [name], fieldSeparator ∉ part.toList) :
    ((∃ accessor,
        registry.resolve shape (Text.joinWith "." (parents ++ [name])) = some accessor) ↔
      ∃ getters last own, registry.Follows shape parents getters last ∧
        registry.field? last name = some own) ∧
    (∀ getters last own, registry.Follows shape parents getters last →
      registry.field? last name = some own →
      ∃ accessor,
        registry.resolve shape (Text.joinWith "." (parents ++ [name])) = some accessor ∧
          accessor.ReadsAfter own (ObjectGetter.walk getters)) ∧
    ∀ before after : String,
      ((∃ accessor, registry.resolve shape (before ++ "." ++ after) = some accessor) ↔
        ∃ parent inner, registry.resolve shape before = some (.object parent) ∧
          registry.resolve parent.target after = some inner) ∧
      ∀ parent inner, registry.resolve shape before = some (.object parent) →
        registry.resolve parent.target after = some inner →
        ∃ accessor, registry.resolve shape (before ++ "." ++ after) = some accessor ∧
          accessor.ReadsAfter inner parent.get? := by
  refine ⟨⟨?_, ?_⟩, ?_, ?_⟩
  · rintro ⟨accessor, hresolve⟩
    exact exists_follows_of_resolve hparts hresolve
  · rintro ⟨getters, last, own, hfollows, hown⟩
    obtain ⟨accessor, hresolve, _⟩ := hfollows.exists_resolve hparts hown
    exact ⟨accessor, hresolve⟩
  · intro getters last own hfollows hown
    exact hfollows.exists_resolve hparts hown
  · intro before after
    constructor
    · constructor
      · rintro ⟨accessor, hresolve⟩
        obtain ⟨parent, inner, hparent, hinner, _⟩ := resolve_point_eq_some_iff.mp hresolve
        exact ⟨parent, inner, hparent, hinner⟩
      · rintro ⟨parent, inner, hparent, hinner⟩
        exact ⟨_, resolve_point_eq_some_iff.mpr ⟨parent, inner, hparent, hinner, rfl⟩⟩
    · intro parent inner hparent hinner
      exact ⟨_, resolve_point_eq_some_iff.mpr ⟨parent, inner, hparent, hinner, rfl⟩,
        inner.readsAfter_through parent⟩

/-- The city of the parcel that an item belongs to, for an item with a parcel and for one
without. -/
theorem resolve_reads_by_parts_parcels :
    (∀ part ∈ ["Parcel", "Address"] ++ ["City"], fieldSeparator ∉ part.toList) ∧
      ∃ accessor,
        Parcels.registry.resolve Parcels.item "Parcel.Address.City" = some accessor ∧
          accessor.kind = .scalar .string ∧
          accessor.read ⟨Parcels.item, ⟨[("parcel", .object ⟨[("address",
            .object ⟨[("city", .value (.string "Oslo"))]⟩)]⟩)]⟩⟩ = .scalar (.string "Oslo") ∧
          accessor.read ⟨Parcels.item, ⟨[("sku", .value (.string "B"))]⟩⟩ = .scalar .null := by
  have hparts : ∀ part ∈ ["Parcel", "Address"] ++ ["City"], fieldSeparator ∉ part.toList := by
    decide
  have hfollows : Parcels.registry.Follows Parcels.item ["Parcel", "Address"]
      [⟨⟨[], Parcels.item, "parcel"⟩, Parcels.parcel⟩,
        ⟨⟨[], Parcels.parcel, "address"⟩, Parcels.address⟩] Parcels.address :=
    .step (by decide) (.step (by decide) (.stay Parcels.address))
  have hcity : Parcels.registry.field? Parcels.address "City" =
      some (.scalar ⟨⟨[], Parcels.address, "city"⟩, .string, true⟩) := by
    decide
  obtain ⟨_, hreads, _⟩ := resolve_reads_by_parts Parcels.registry Parcels.item hparts
  obtain ⟨accessor, hresolve, hafter⟩ := hreads _ _ _ hfollows hcity
  refine ⟨hparts, accessor, hresolve, hafter.kind, ?_, ?_⟩
  · rw [hafter.read]
    rfl
  · rw [hafter.read]
    rfl

end Registry

end MappingPlan
