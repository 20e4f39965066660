import MappingPlan.Derive.Shape
import MappingPlan.Proofs.Registration

/-!
# References to derived fields

A derived shape registers its fields under names that nobody has looked at: a field may be
renamed to anything, and two fields may come to one name.  Mappings refer to a field by
this name, after the scope and a point.  Between the two stand a table in which the later of
two fields with one name counts, a reference that may not end with its point, and paths that
are cut at every point.

So a field can be referred to exactly if its name is not empty, holds no point, and is not
the name of a later field.
-/

namespace MappingPlan

/-! ## References that resolve to a field -/

def Accessor.place : Accessor → Place
  | scalar getter => getter.place
  | items getter => getter.place
  | object getter => getter.place

theorem Accessor.place_ofField (shape : ShapeId) (field : FieldDecl) :
    (ofField shape field).place = ⟨[], shape, field.key⟩ := by
  obtain ⟨name, type, key⟩ := field
  cases type <;> rfl

theorem Accessor.place_through (accessor : Accessor) (parent : ObjectGetter) :
    (accessor.through parent).place = accessor.place.through parent.hops := by
  cases accessor <;> rfl

theorem Text.exists_split_of_mem {separator : Char} {text : String}
    (hmem : separator ∈ text.toList) :
    ∃ first second rest, split separator text = first :: second :: rest := by
  obtain ⟨before, after, htext⟩ := List.append_of_mem hmem
  rw [split, htext, splitChars_append_separator]
  cases hfirst : splitChars separator before with
  | nil => exact absurd hfirst (splitChars_ne_nil separator before)
  | cons first others =>
      cases hlast : splitChars separator after with
      | nil => exact absurd hlast (splitChars_ne_nil separator after)
      | cons last rest => cases others <;> exact ⟨_, _, _, rfl⟩

namespace Registry

variable {registry : Registry} {shape : ShapeId}

/-- A step below an object leaves a route behind. -/
theorem route_of_step? {current next : Accessor} {name : String}
    (hstep : registry.step? current name = some next) : next.place.route ≠ [] := by
  cases current with
  | scalar getter => cases hstep
  | items getter => cases hstep
  | object parent =>
      obtain ⟨accessor, _, rfl⟩ := Option.map_eq_some_iff.mp hstep
      simp [Accessor.place_through, Place.through, ObjectGetter.hops]

theorem route_of_foldlM_step? {names : List String} {current accessor : Accessor}
    (hroute : current.place.route ≠ [])
    (hsteps : names.foldlM registry.step? current = some accessor) :
    accessor.place.route ≠ [] := by
  induction names generalizing current with
  | nil =>
      obtain rfl : current = accessor := Option.some.inj hsteps
      exact hroute
  | cons name rest ih =>
      rw [List.foldlM_cons, Option.bind_eq_bind, Option.bind_eq_some_iff] at hsteps
      obtain ⟨next, hstep, hrest⟩ := hsteps
      exact ih (route_of_step? hstep) hrest

/-- A path leads to a field of the shape itself only if it is the name of the field. -/
theorem resolve_eq_ofField_iff {path : String} {field : FieldDecl} :
    registry.resolve shape path = some (.ofField shape field) ↔
      fieldSeparator ∉ path.toList ∧
        registry.field? shape path = some (.ofField shape field) := by
  by_cases hdot : fieldSeparator ∈ path.toList
  -- a path that is cut goes through an object, which stays in the route of what it leads to
  · obtain ⟨first, second, rest, hsplit⟩ := Text.exists_split_of_mem hdot
    have hroute : registry.resolve shape path ≠ some (.ofField shape field) := by
      intro hresolve
      simp only [resolve, hsplit, Option.bind_eq_bind, Option.bind_eq_some_iff,
        List.foldlM_cons] at hresolve
      obtain ⟨start, _, next, hstep, hrest⟩ := hresolve
      apply route_of_foldlM_step? (route_of_step? hstep) hrest
      rw [Accessor.place_ofField]
    simp [hroute, hdot]
  · rw [resolve, Text.split_of_not_mem hdot]
    cases hfield : registry.field? shape path <;> simp [hdot, hfield]

/-- If all fields read different keys, a field is found under its name exactly if no later
field has the name. -/
theorem field?_eq_own_iff {family : ShapeFamily} {shapes : List ShapeId} {field : FieldDecl}
    {before after : List FieldDecl} (hmem : shape ∈ shapes)
    (hfields : family.fields shape = before ++ field :: after)
    (hkeys : ((before ++ field :: after).map FieldDecl.key).Nodup) :
    (ofShapes family shapes).field? shape field.name = some (.ofField shape field) ↔
      ∀ later ∈ after, later.name ≠ field.name := by
  have hreverse : (before ++ field :: after).reverse =
      after.reverse ++ field :: before.reverse := by
    simp
  rw [field?_ofShapes hmem, hfields, hreverse, List.find?_append]
  cases hfind : after.reverse.find? (fun later => field.name == later.name) with
  | none =>
      have hlater : ∀ later ∈ after, later.name ≠ field.name := by
        intro later hafter hname
        have hother := List.find?_eq_none.mp hfind later (List.mem_reverse.mpr hafter)
        exact hother (by rw [hname, beq_self_eq_true])
      have hself : (field :: before.reverse).find? (fun later => field.name == later.name) =
          some field := List.find?_cons_of_pos (beq_self_eq_true field.name)
      rw [Option.none_or, hself, Option.map_some]
      exact ⟨fun _ => hlater, fun _ => rfl⟩
  -- the accessor of the later field reads another key, so it is not the one asked for
  | some later =>
      have hafter : later ∈ after := List.mem_reverse.mp (List.mem_of_find?_eq_some hfind)
      have hname : later.name = field.name := by
        have hsame := List.find?_some hfind
        exact (beq_iff_eq.mp hsame).symm
      have hkey : later.key ≠ field.key := by
        rw [List.map_append, List.map_cons, List.nodup_append, List.nodup_cons] at hkeys
        intro hsame
        exact hkeys.2.1.1 (hsame ▸ List.mem_map_of_mem hafter)
      have hother : Accessor.ofField shape later ≠ Accessor.ofField shape field := by
        intro hsame
        have hplace := congrArg Accessor.place hsame
        rw [Accessor.place_ofField, Accessor.place_ofField] at hplace
        exact hkey (congrArg Place.key hplace)
      rw [Option.some_or, Option.map_some, Option.some.injEq]
      constructor
      · intro hsame
        exact absurd hsame hother
      · intro hlater
        exact absurd hname (hlater later hafter)

end Registry

theorem FieldRef.parse_record (name : String) :
    parse ("record." ++ name) = inScope .record name ("record." ++ name) := by
  have hsplit : Text.splitOnceChars '.' ("record." ++ name).toList =
      some ("record".toList, name.toList) := by
    rw [String.toList_append]
    simp [Text.splitOnceChars]
  simp only [parse, hsplit, String.ofList_toList]

/-! ## Derived fields -/

namespace Derive

/-- What the types of the fields of a struct tell, by the identifier of the field: the
scalar type of its values and whether they may be null, or the shape of what is nested. -/
structure FieldTypes where
  scalar : String → ScalarType × Bool
  nested : String → ShapeId

/-- The field that a registration declares.  Instances keep the value of a field under its
identifier. -/
def Field.declaration (types : FieldTypes) (field : Field) : FieldDecl where
  name := field.name
  type :=
    match field.kind with
    | .scalar => .scalar (types.scalar field.ident).1 (types.scalar field.ident).2
    | .items => .items (types.nested field.ident) field.nullable
    | .object => .object (types.nested field.ident)
  key := field.ident

def Shape.declarations (types : FieldTypes) (shape : Shape) : List FieldDecl :=
  shape.fields.map (Field.declaration types)

def StructDecl.namedFields (decl : StructDecl) : List StructField :=
  match decl.body with
  | .named fields => fields
  | .tuple | .unit => []

theorem ident_of_ofStructField {rule : Option NamingRule} {source : StructField}
    {field : Field} (hfield : Field.ofStructField rule source = .ok (some field)) :
    field.ident = source.ident := by
  simp only [Field.ofStructField, Outcome.bind_eq_ok_iff] at hfield
  obtain ⟨marks, _, hmarks⟩ := hfield
  split at hmarks
  · cases hmarks
  · obtain rfl := Option.some.inj (Outcome.pure_eq_ok_iff.mp hmarks)
    rfl

/-- Fields are kept in order, and some are left out. -/
theorem idents_of_collectFields {rule : Option NamingRule} {sources : List StructField}
    {fields : List Field} (hfields : collectFields rule sources = .ok fields) :
    (fields.map Field.ident).Sublist (sources.map StructField.ident) := by
  induction sources generalizing fields with
  | nil =>
      obtain rfl : [] = fields := Except.ok.inj hfields
      exact .slnil
  | cons source rest ih =>
      rw [collectFields] at hfields
      cases hfirst : Field.ofStructField rule source with
      | error fault =>
          cases hrest : collectFields rule rest <;> simp [hfirst, hrest] at hfields
      | ok first =>
          cases hrest : collectFields rule rest with
          | error faults => simp [hfirst, hrest] at hfields
          | ok others =>
              simp only [hfirst, hrest, Except.ok.injEq] at hfields
              subst hfields
              cases first with
              | none => exact (ih hrest).cons _
              | some field =>
                  rw [Option.toList_some, List.singleton_append, List.map_cons,
                    List.map_cons, ident_of_ofStructField hfirst]
                  exact (ih hrest).cons_cons _

theorem idents_of_ofStruct {decl : StructDecl} {derived : Shape}
    (hderive : Shape.ofStruct decl = .ok derived) :
    (derived.fields.map Field.ident).Sublist (decl.namedFields.map StructField.ident) := by
  unfold Shape.ofStruct at hderive
  split at hderive
  · cases hderive
  · cases hbody : decl.body with
    | tuple => simp [hbody] at hderive
    | unit => simp [hbody] at hderive
    | named sources =>
        simp only [hbody] at hderive
        split at hderive
        · cases hderive
        · obtain ⟨fields, hfields, rfl⟩ := Outcome.map_eq_ok_iff.mp hderive
          rw [StructDecl.namedFields, hbody]
          exact idents_of_collectFields hfields

/-- A reference to the name of a derived field is one to the field itself exactly if the
name is not empty, holds no point, and is not the name of a later field. -/
theorem reference_reaches_iff {decl : StructDecl} {derived : Shape}
    (hderive : Shape.ofStruct decl = .ok derived)
    (hdistinct : (decl.namedFields.map StructField.ident).Nodup)
    {types : FieldTypes} {family : ShapeFamily} {id : ShapeId}
    (hfamily : family.lookup id = some (derived.declarations types))
    {shapes : List ShapeId} (hregistered : id ∈ shapes)
    {before after : List Field} {field : Field}
    (hfield : derived.fields = before ++ field :: after) :
    (∃ path, FieldRef.parse ("record." ++ field.name) = .ok (.field .record path) ∧
        (Registry.ofShapes family shapes).resolve id path =
          some (.ofField id (field.declaration types))) ↔
      field.name ≠ "" ∧ '.' ∉ field.name.toList ∧
        ∀ later ∈ after, later.name ≠ field.name := by
  have hparse : ∀ path, FieldRef.parse ("record." ++ field.name) = .ok (.field .record path) ↔
      field.name ≠ "" ∧ field.name = path := by
    intro path
    rw [FieldRef.parse_record, FieldRef.inScope]
    by_cases hempty : field.name = ""
    · simp [hempty]
    · simp [hempty]
  have hlast : (Registry.ofShapes family shapes).field? id field.name =
        some (.ofField id (field.declaration types)) ↔
      ∀ later ∈ after, later.name ≠ field.name := by
    have hfields : family.fields id =
        before.map (Field.declaration types) ++ field.declaration types ::
          after.map (Field.declaration types) := by
      rw [ShapeFamily.fields, hfamily, Option.getD_some, Shape.declarations, hfield,
        List.map_append, List.map_cons]
    have hkeys : ((before.map (Field.declaration types) ++ field.declaration types ::
        after.map (Field.declaration types)).map FieldDecl.key).Nodup := by
      have hidents := (idents_of_ofStruct hderive).nodup hdistinct
      rw [← List.map_cons, ← List.map_append, ← hfield, List.map_map]
      exact hidents
    have hown := Registry.field?_eq_own_iff hregistered hfields hkeys
    rw [List.forall_mem_map] at hown
    exact hown
  simp only [hparse, Registry.resolve_eq_ofField_iff]
  constructor
  · rintro ⟨path, ⟨hnonempty, rfl⟩, hdotless, hfound⟩
    exact ⟨hnonempty, hdotless, hlast.mp hfound⟩
  · rintro ⟨hnonempty, hdotless, hlater⟩
    exact ⟨field.name, ⟨hnonempty, rfl⟩, hdotless, hlast.mpr hlater⟩

/-! ## Two structs -/

def orderStruct (fields : List StructField) : StructDecl :=
  ⟨"Order", false, [], .named fields⟩

def orderField (ident : String) (items : List AttributeItem) : StructField :=
  ⟨ident, .path false [⟨"String", none⟩], [⟨attributePath, .list items⟩]⟩

def renamedTo (name : String) : AttributeItem :=
  .entry "rename" (some (.string name))

def orderTypes : FieldTypes where
  scalar _ := (.string, false)
  nested _ := ⟨"Line"⟩

def orderRegistry (derived : Shape) : Registry :=
  .ofShapes [(⟨"Order"⟩, derived.declarations orderTypes)] [⟨"Order"⟩]

/-- A list that is renamed is found under its new name. -/
theorem reference_reaches_lines :
    ∃ derived, Shape.ofStruct (orderStruct [orderField "r#type" [],
        orderField "order_lines" [renamedTo "Lines", .entry "items" none],
        orderField "note" [.entry "skip" none]]) = .ok derived ∧
      ∃ path, FieldRef.parse "record.Lines" = .ok (.field .record path) ∧
        (orderRegistry derived).resolve ⟨"Order"⟩ path =
          some (.items ⟨⟨[], ⟨"Order"⟩, "order_lines"⟩, ⟨"Line"⟩, false⟩) := by
  let kind : Field := ⟨"r#type", "type", .scalar, false⟩
  let lines : Field := ⟨"order_lines", "Lines", .items, false⟩
  have hderive : Shape.ofStruct (orderStruct [orderField "r#type" [],
        orderField "order_lines" [renamedTo "Lines", .entry "items" none],
        orderField "note" [.entry "skip" none]]) = .ok ⟨"Order", [kind, lines]⟩ := by
    rfl
  have hfamily : [(⟨"Order"⟩, Shape.declarations orderTypes ⟨"Order", [kind, lines]⟩)].lookup
      (⟨"Order"⟩ : ShapeId) = some (Shape.declarations orderTypes ⟨"Order", [kind, lines]⟩) := by
    rfl
  have hsplit : [kind, lines] = [kind] ++ lines :: [] := rfl
  refine ⟨_, hderive, ?_⟩
  exact (reference_reaches_iff hderive (by decide) hfamily List.mem_cons_self hsplit).mpr
    (by decide)

/-- Renaming can leave fields behind: one whose name is cut, one that no reference can name,
and one whose name a later field has. -/
theorem reference_misses_renamed :
    ∃ derived, Shape.ofStruct (orderStruct [orderField "code" [renamedTo "Order.Code"],
        orderField "note" [renamedTo ""], orderField "first" [renamedTo "Name"],
        orderField "last" [renamedTo "Name"]]) = .ok derived ∧
      derived.fields.map Field.name = ["Order.Code", "", "Name", "Name"] ∧
      FieldRef.parse "record.Order.Code" = .ok (.field .record "Order.Code") ∧
      (orderRegistry derived).resolve ⟨"Order"⟩ "Order.Code" = none ∧
      FieldRef.parse "record." = .error (.emptyPath "record.") ∧
      (orderRegistry derived).resolve ⟨"Order"⟩ "Name" =
        some (.scalar ⟨⟨[], ⟨"Order"⟩, "last"⟩, .string, false⟩) := by
  refine ⟨⟨"Order", [⟨"code", "Order.Code", .scalar, false⟩, ⟨"note", "", .scalar, false⟩,
    ⟨"first", "Name", .scalar, false⟩, ⟨"last", "Name", .scalar, false⟩]⟩, by rfl, by rfl,
    by rfl, ?_, by rfl, ?_⟩
  · have hsplit : Text.split Registry.fieldSeparator "Order.Code" = ["Order", "Code"] := by rfl
    rw [Registry.resolve, hsplit, orderRegistry]
    simp only [Registry.field?_ofShapes List.mem_cons_self]
    rfl
  · have hsplit : Text.split Registry.fieldSeparator "Name" = ["Name"] := by rfl
    rw [Registry.resolve, hsplit, orderRegistry]
    simp only [Registry.field?_ofShapes List.mem_cons_self]
    rfl

end Derive

end MappingPlan
