import MappingPlan.Proofs.FieldPath

/-!
# Registered fields

A registry that was filled by registering shapes holds, under each shape, fields that
are declared for that very shape.  A field path resolved in it therefore leads from the
shape that it was asked for: each object on its route is registered on the shape that the
route has reached, and the last field on the shape at its end.

Registering goes on to the shapes that fields mention, in whatever order and however they
refer to each other.  All that has to be kept is that a new shape is entered with its own
fields.  Of two fields with one name its table has the later one.
-/

namespace MappingPlan

theorem Pairs.mem_of_lookup_collect {α β : Type} [DecidableEq α] {pairs : List (α × β)}
    {key : α} {value : β} (hlookup : (collect pairs).lookup key = some value) :
    (key, value) ∈ pairs := by
  rw [lookup_collect] at hlookup
  exact List.mem_reverse.mp (mem_of_lookup hlookup)

namespace Registry

/-- The registry after registering some shapes one after the other. -/
def ofShapes (family : ShapeFamily) (shapes : List ShapeId) : Registry :=
  shapes.foldl (fun registry shape => registry.register family shape) empty

/-- A field stands in the table of the shape, and it is one that is declared for it. -/
def Registers (family : ShapeFamily) (registry : Registry) (owner : ShapeId) (key : String)
    (type : FieldType) : Prop :=
  ∃ field ∈ family.fields owner,
    registry.field? owner field.name = some (.ofField owner field) ∧
      field.key = key ∧ field.type = type

/-- The tables hold nothing but declared fields of their own shapes. -/
def Faithful (family : ShapeFamily) (registry : Registry) : Prop :=
  ∀ shape name accessor, registry.field? shape name = some accessor →
    ∃ field ∈ family.fields shape, field.name = name ∧ accessor = .ofField shape field

variable {family : ShapeFamily} {registry : Registry} {shape : ShapeId}

/-! ## The work list -/

/-- What entering a new shape keeps is kept until no shape is pending. -/
theorem registerAll_of_enter {P : Registry → Prop}
    (henter : ∀ registry shape, registry.contains shape = false → P registry →
      P (registry.enter shape (family.fields shape)))
    (pending : List ShapeId) (hregistry : P registry) :
    P (registerAll family pending registry) := by
  induction pending, registry using registerAll.induct family with
  | case1 registry => simpa [registerAll] using hregistry
  | case2 shape pending registry hknown ih =>
      rw [registerAll, if_pos hknown]
      exact ih hregistry
  | case3 shape pending registry hnew ih =>
      rw [registerAll, if_neg hnew]
      exact ih (henter registry shape (by simpa using hnew) hregistry)

/-- Shapes that wait behind others are registered after all that the others bring in. -/
theorem registerAll_append (first second : List ShapeId) (registry : Registry) :
    registerAll family (first ++ second) registry =
      registerAll family second (registerAll family first registry) := by
  induction first, registry using registerAll.induct family with
  | case1 registry => rw [List.nil_append, registerAll.eq_1 family registry]
  | case2 shape pending registry hknown ih =>
      rw [List.cons_append, registerAll, if_pos hknown, ih, registerAll.eq_2 family registry,
        if_pos hknown]
  | case3 shape pending registry hnew ih =>
      rw [List.cons_append, registerAll, if_neg hnew, ← List.append_assoc, ih,
        registerAll.eq_2 family registry, if_neg hnew]

theorem registerAll_eq_foldl (pending : List ShapeId) (registry : Registry) :
    registerAll family pending registry =
      pending.foldl (fun registry shape => registry.register family shape) registry := by
  induction pending generalizing registry with
  | nil => rw [registerAll, List.foldl_nil]
  | cons shape rest ih =>
      rw [← List.singleton_append, registerAll_append, ih]
      rfl

theorem ofShapes_eq_registerAll (family : ShapeFamily) (shapes : List ShapeId) :
    ofShapes family shapes = registerAll family shapes empty :=
  (registerAll_eq_foldl shapes empty).symm

theorem contains_registerAll (pending : List ShapeId)
    (hshape : shape ∈ pending ∨ registry.contains shape) :
    (registerAll family pending registry).contains shape := by
  induction pending, registry using registerAll.induct family with
  | case1 registry => simpa [registerAll] using hshape
  | case2 first pending registry hknown ih =>
      rw [registerAll, if_pos hknown]
      apply ih
      rcases hshape with hpending | hold
      · rcases List.mem_cons.mp hpending with rfl | hrest
        · exact .inr hknown
        · exact .inl hrest
      · exact .inr hold
  | case3 first pending registry hnew ih =>
      rw [registerAll, if_neg hnew]
      apply ih
      rw [contains_enter]
      rcases hshape with hpending | hold
      · rcases List.mem_cons.mp hpending with rfl | hrest
        · exact .inr (by simp)
        · exact .inl (List.mem_append_right _ hrest)
      · exact .inr (by simp [hold])

theorem contains_ofShapes {shapes : List ShapeId} (hmem : shape ∈ shapes) :
    (ofShapes family shapes).contains shape := by
  rw [ofShapes_eq_registerAll]
  exact contains_registerAll shapes (.inl hmem)

/-! ## The tables -/

theorem contains_iff_mem :
    registry.contains shape = true ↔ shape ∈ registry.shapes.map Prod.fst := by
  simp [contains, List.any_eq_true]

theorem contains_eq_isSome_lookup (registry : Registry) (shape : ShapeId) :
    registry.contains shape = (registry.shapes.lookup shape).isSome := by
  rw [contains, Bool.eq_iff_iff, List.any_eq_true, List.lookup_isSome_iff]
  constructor
  · rintro ⟨entry, hmem, hsame⟩
    exact ⟨entry, hmem, BEq.symm hsame⟩
  · rintro ⟨entry, hmem, hsame⟩
    exact ⟨entry, hmem, BEq.symm hsame⟩

/-- Each shape is listed once, with the table of its own fields. -/
structure ListsOnce (family : ShapeFamily) (registry : Registry) : Prop where
  nodup : (registry.shapes.map Prod.fst).Nodup
  own : ∀ entry ∈ registry.shapes, entry.2 = fieldTable entry.1 (family.fields entry.1)

theorem listsOnce_empty : empty.ListsOnce family := by
  constructor
  · exact List.nodup_nil
  · intro entry hentry
    cases hentry

theorem ListsOnce.enter (hlists : registry.ListsOnce family)
    (hnew : registry.contains shape = false) :
    (registry.enter shape (family.fields shape)).ListsOnce family := by
  have hfresh : shape ∉ registry.shapes.map Prod.fst := by
    rw [← contains_iff_mem, hnew]
    exact Bool.false_ne_true
  constructor
  · rw [Registry.enter, List.map_cons]
    exact List.nodup_cons.mpr ⟨hfresh, hlists.nodup⟩
  · intro entry hentry
    rcases List.mem_cons.mp hentry with rfl | hold
    · rfl
    · exact hlists.own entry hold

theorem listsOnce_ofShapes (family : ShapeFamily) (shapes : List ShapeId) :
    (ofShapes family shapes).ListsOnce family := by
  rw [ofShapes_eq_registerAll]
  exact registerAll_of_enter (fun _ _ hnew hlists => hlists.enter hnew) shapes listsOnce_empty

/-- Every table is that of the fields declared for its shape. -/
def Tabled (family : ShapeFamily) (registry : Registry) : Prop :=
  ∀ shape table, registry.shapes.lookup shape = some table →
    table = fieldTable shape (family.fields shape)

theorem ListsOnce.tabled (hlists : registry.ListsOnce family) : registry.Tabled family := by
  intro shape table htable
  exact hlists.own (shape, table) (Pairs.mem_of_lookup htable)

theorem tabled_ofShapes (family : ShapeFamily) (shapes : List ShapeId) :
    (ofShapes family shapes).Tabled family :=
  (listsOnce_ofShapes family shapes).tabled

theorem Tabled.faithful (htabled : registry.Tabled family) : registry.Faithful family := by
  intro shape name accessor hfield
  rw [field?, Option.bind_eq_bind, Option.bind_eq_some_iff] at hfield
  obtain ⟨table, htable, hname⟩ := hfield
  rw [htabled shape table htable, fieldTable_eq] at hname
  obtain ⟨field, hdeclared, hpair⟩ := List.mem_map.mp (Pairs.mem_of_lookup_collect hname)
  obtain ⟨rfl, rfl⟩ := Prod.mk.inj hpair
  exact ⟨field, hdeclared, rfl, rfl⟩

theorem faithful_ofShapes (family : ShapeFamily) (shapes : List ShapeId) :
    (ofShapes family shapes).Faithful family :=
  (tabled_ofShapes family shapes).faithful

theorem Faithful.registers (hfaithful : registry.Faithful family) {name : String}
    {accessor : Accessor} (hfield : registry.field? shape name = some accessor) :
    ∃ field, accessor = .ofField shape field ∧
      registry.Registers family shape field.key field.type := by
  obtain ⟨field, hdeclared, rfl, rfl⟩ := hfaithful shape name accessor hfield
  exact ⟨field, rfl, field, hdeclared, hfield, rfl, rfl⟩

/-- Of the declared fields with a name, the last one is found. -/
theorem field?_of_contains {shapes : List ShapeId}
    (hcontains : (ofShapes family shapes).contains shape) (name : String) :
    (ofShapes family shapes).field? shape name =
      ((family.fields shape).reverse.find? fun field => name == field.name).map
        (Accessor.ofField shape) := by
  rw [contains_eq_isSome_lookup] at hcontains
  obtain ⟨table, htable⟩ := Option.isSome_iff_exists.mp hcontains
  rw [field?, htable, tabled_ofShapes family shapes shape table htable]
  show (fieldTable shape (family.fields shape)).lookup name = _
  rw [fieldTable_eq, Pairs.lookup_collect, ← List.map_reverse]
  induction (family.fields shape).reverse with
  | nil => rfl
  | cons field rest ih =>
      rw [List.map_cons, List.lookup_cons, List.find?_cons, ih]
      cases name == field.name <;> rfl

theorem field?_ofShapes {shapes : List ShapeId} (hmem : shape ∈ shapes) (name : String) :
    (ofShapes family shapes).field? shape name =
      ((family.fields shape).reverse.find? fun field => name == field.name).map
        (Accessor.ofField shape) :=
  field?_of_contains (contains_ofShapes hmem) name

end Registry

/-! ## Routes -/

section Routes

variable (family : ShapeFamily) (registry : Registry)

/-- The objects of a route are registered one on the other, from the first shape to the
last. -/
def Hop.Lead : List Hop → ShapeId → ShapeId → Prop
  | [], first, last => first = last
  | hop :: rest, first, last =>
      hop.owner = first ∧
        registry.Registers family hop.owner hop.key (.object hop.target) ∧
        Lead rest hop.target last

def Place.Leads (place : Place) (type : FieldType) (shape : ShapeId) : Prop :=
  Hop.Lead family registry place.route shape place.owner ∧
    registry.Registers family place.owner place.key type

def Accessor.LeadsFrom (shape : ShapeId) : Accessor → Prop
  | .scalar getter =>
      getter.place.Leads family registry (.scalar getter.type getter.nullable) shape
  | .items getter =>
      getter.place.Leads family registry (.items getter.element getter.nullable) shape
  | .object getter => getter.place.Leads family registry (.object getter.target) shape

end Routes

variable {family : ShapeFamily} {registry : Registry} {shape middle last : ShapeId}

theorem Hop.Lead.append {before after : List Hop}
    (hbefore : Lead family registry before shape middle)
    (hafter : Lead family registry after middle last) :
    Lead family registry (before ++ after) shape last := by
  induction before generalizing shape with
  | nil =>
      obtain rfl : shape = middle := hbefore
      exact hafter
  | cons hop rest ih =>
      obtain ⟨howner, hregistered, hrest⟩ := hbefore
      exact ⟨howner, hregistered, ih hrest⟩

namespace Accessor

theorem leadsFrom_ofField {field : FieldDecl}
    (hregistered : registry.Registers family shape field.key field.type) :
    (ofField shape field).LeadsFrom family registry shape := by
  obtain ⟨name, type, key⟩ := field
  cases type <;> exact ⟨rfl, hregistered⟩

theorem LeadsFrom.through {accessor : Accessor} {parent : ObjectGetter}
    (hparent : (object parent).LeadsFrom family registry shape)
    (haccessor : accessor.LeadsFrom family registry parent.target) :
    (accessor.through parent).LeadsFrom family registry shape := by
  have hhops : Hop.Lead family registry parent.hops shape parent.target :=
    hparent.1.append ⟨rfl, hparent.2, rfl⟩
  cases accessor <;> exact ⟨hhops.append haccessor.1, haccessor.2⟩

end Accessor

namespace Registry

theorem Faithful.leadsFrom_step? (hfaithful : registry.Faithful family)
    {current next : Accessor} {name : String}
    (hcurrent : current.LeadsFrom family registry shape)
    (hstep : registry.step? current name = some next) :
    next.LeadsFrom family registry shape := by
  cases current with
  | scalar getter => cases hstep
  | items getter => cases hstep
  | object parent =>
      obtain ⟨accessor, hfield, rfl⟩ := Option.map_eq_some_iff.mp hstep
      obtain ⟨field, rfl, hregistered⟩ := hfaithful.registers hfield
      exact hcurrent.through (Accessor.leadsFrom_ofField hregistered)

/-- What a path resolves to leads from the shape that it was asked for. -/
theorem Faithful.leadsFrom_resolve (hfaithful : registry.Faithful family) {path : String}
    {accessor : Accessor} (hresolve : registry.resolve shape path = some accessor) :
    accessor.LeadsFrom family registry shape := by
  unfold resolve at hresolve
  cases hsplit : Text.split fieldSeparator path with
  | nil => simp [hsplit] at hresolve
  | cons first rest =>
      simp only [hsplit, Option.bind_eq_bind, Option.bind_eq_some_iff] at hresolve
      obtain ⟨start, hstart, hrest⟩ := hresolve
      obtain ⟨field, rfl, hregistered⟩ := hfaithful.registers hstart
      have hleads := Accessor.leadsFrom_ofField hregistered
      clear hstart hregistered hsplit
      generalize Accessor.ofField shape field = current at hleads hrest
      induction rest generalizing current with
      | nil =>
          obtain rfl : current = accessor := by simpa using hrest
          exact hleads
      | cons name rest ih =>
          rw [List.foldlM_cons, Option.bind_eq_bind, Option.bind_eq_some_iff] at hrest
          obtain ⟨next, hstep, hrest⟩ := hrest
          exact ih next (hfaithful.leadsFrom_step? hleads hstep) hrest

end Registry

end MappingPlan
