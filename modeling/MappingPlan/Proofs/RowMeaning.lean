import MappingPlan.Proofs.DocumentText
import MappingPlan.Proofs.FieldPath
import Mathlib.Data.List.Perm.Basic

/-!
# What a row means

The members under `items` are the columns of a row mapping.  Each of them has a value
that can be told from its tree alone: with a `format` it is the text of its `fields`, and
otherwise it is what its `source` reads, in the type that it names.

Compiling reads the columns in the order of the document and sorts them; a plan keeps each
name together with the source of its value.  The rows that come out have the value of every
column under its own name, and the sorting decides about nothing but the order.
-/

namespace MappingPlan

/-! ## The value of a column -/

/-- The value that the tree of a column describes, with no array around it. -/
def Json.columnValue (registry : Registry) (scopes : Scopes) (inputs : Inputs)
    (column : Json) : Value :=
  match column.textAt? "format" with
  | some _ =>
      .string (((column.member? "fields").map
        (Json.objectText (.ofRegistry registry) scopes inputs [])).getD "")
  | none =>
      ((column.textAt? "source").map
        (readText (.ofRegistry registry) scopes inputs column.typeNamed)).getD .null

/-- The value that a column has once its tree has been read. -/
def ColumnKind.value (registry : Registry) (scopes : Scopes) (inputs : Inputs) :
    ColumnKind → Value
  | .scalar source type => source.read (.ofRegistry registry) scopes inputs (some type)
  | .json fields => .string (fields.rendering (.ofRegistry registry) scopes inputs [])

theorem ColumnSpec.value_of_kindOfSection {node : Section} {kind : ColumnKind}
    (haccepted : kindOfSection node = .ok kind) (registry : Registry) (scopes : Scopes)
    (inputs : Inputs) :
    kind.value registry scopes inputs = node.node.columnValue registry scopes inputs := by
  simp only [kindOfSection, Outcome.bind_eq_ok_iff] at haccepted
  obtain ⟨format, hformat, haccepted⟩ := haccepted
  have htext := Section.textAt?_of_optionalString (by decide) hformat
  cases format with
  | some name =>
      by_cases hjson : OutputFormat.ofName? name = some .json
      · simp only [if_pos hjson, Outcome.bind_eq_ok_iff, Outcome.pure_eq_ok_iff] at haccepted
        obtain ⟨_, _, child, hchild, spec, hspec, rfl⟩ := haccepted
        have hfields : node.node.member? "fields" = some child.node := by
          rw [Section.require_eq_ok_iff, Section.get?_of_plain (by decide)] at hchild
          obtain ⟨tree, htree, rfl⟩ := Option.map_eq_some_iff.mp hchild
          exact htree
        have hrendering := ObjectSpec.rendering_of_ofNode (.ofRegistry registry) scopes inputs
          [] child.node child.path spec hspec
        simp only [ColumnKind.value, Json.columnValue, htext, hfields, hrendering,
          Option.map_some, Option.getD_some]
      · simp [hjson] at haccepted
  | none =>
      simp only [Outcome.bind_eq_ok_iff, Outcome.pure_eq_ok_iff] at haccepted
      obtain ⟨_, _, child, hchild, reference, hreference, type, htype, rfl⟩ := haccepted
      obtain ⟨source, hsource, hparse⟩ :=
        FieldRef.ofSection_require_eq_ok (by decide) hchild hreference
      simp only [ColumnKind.value, Json.columnValue, htext, hsource, readText, hparse,
        ScalarType.ofSection_eq_ok htype, Option.map_some, Option.getD_some]

theorem ColumnSpec.ofSection_eq_ok_iff {name : String} {node : Section} {spec : ColumnSpec} :
    ofSection name node = .ok spec ↔
      node.node.members?.isSome ∧ spec.name = name ∧ spec.path = node.path ∧
        orderOfSection node = .ok spec.order ∧ kindOfSection node = .ok spec.kind := by
  unfold ofSection
  cases hmembers : node.node.members? with
  | none => simp [Section.invalid]
  | some members =>
      simp only [Option.isNone_some, Bool.false_eq_true, if_false, Outcome.bind_eq_ok_iff,
        Outcome.pure_eq_ok_iff, Option.isSome_some, true_and]
      constructor
      · rintro ⟨order, horder, kind, hkind, rfl⟩
        exact ⟨rfl, rfl, horder, hkind⟩
      · rintro ⟨rfl, hpath, horder, hkind⟩
        exact ⟨_, horder, _, hkind, by rw [← hpath]⟩

theorem Column.evaluate_of_compile {registry : Registry} {coercions : Coercions}
    {scopes : Scopes} {spec : ColumnSpec} {column : Column}
    (hcompile : compile ⟨registry.resolve, coercions⟩ scopes spec = .ok column)
    (inputs : Inputs) :
    column.name = spec.name ∧
      column.evaluate inputs = spec.kind.value registry scopes inputs := by
  unfold compile at hcompile
  cases hkind : spec.kind with
  | scalar source type =>
      simp only [hkind, Outcome.bind_eq_ok_iff, Outcome.pure_eq_ok_iff] at hcompile
      obtain ⟨value, hvalue, rfl⟩ := hcompile
      have hread := Binder.evaluate_of_scalar hvalue inputs
      rw [FieldReader.ofResolver_resolve] at hread
      exact ⟨rfl, hread⟩
  | json fields =>
      simp only [hkind, Outcome.bind_eq_ok_iff, Outcome.pure_eq_ok_iff] at hcompile
      obtain ⟨plan, hplan, rfl⟩ := hcompile
      have htext := DocumentPlan.render_of_compile inputs hplan
      rw [ObjectSpec.text, FieldReader.ofResolver_resolve] at htext
      exact ⟨rfl, congrArg Value.string htext⟩

/-! ## The order of a column -/

/-- The tree without what is under `order`. -/
def Json.withoutOrder : Json → Json
  | .object members => .object (members.filter fun member => member.1 != "order")
  | node => node

theorem Json.member?_withoutOrder {key : String} (hkey : key ≠ "order") (node : Json) :
    node.withoutOrder.member? key = node.member? key := by
  cases node with
  | object members =>
      simp only [withoutOrder, member?]
      induction members with
      | nil => rfl
      | cons member rest ih =>
          obtain ⟨name, value⟩ := member
          by_cases hname : name = "order"
          · have hother : (key == name) = false := by simpa [hname] using hkey
            rw [List.filter_cons_of_neg (by simp [hname]), List.lookup_cons, hother, ih]
          · rw [List.filter_cons_of_pos (by simpa using hname), List.lookup_cons,
              List.lookup_cons, ih]
  | _ => rfl

theorem Json.columnValue_withoutOrder (registry : Registry) (scopes : Scopes)
    (inputs : Inputs) (column : Json) :
    column.withoutOrder.columnValue registry scopes inputs =
      column.columnValue registry scopes inputs := by
  have hmember : ∀ key : String, key ≠ "order" →
      column.withoutOrder.member? key = column.member? key :=
    fun key hkey => member?_withoutOrder hkey column
  simp only [columnValue, typeNamed, textAt?, hmember "format" (by decide),
    hmember "fields" (by decide), hmember "source" (by decide), hmember "type" (by decide)]

theorem Json.isSome_members?_withoutOrder (node : Json) :
    node.withoutOrder.members?.isSome = node.members?.isSome := by
  cases node <;> rfl

namespace Section

variable (path : ConfigPath) (node : Json)

theorem get?_withoutOrder {key : String} (hkey : key ≠ "order") :
    get? ⟨path, node.withoutOrder⟩ key = get? ⟨path, node⟩ key := by
  simp only [get?, Json.member?_withoutOrder hkey]

theorem checkKeys_withoutOrder {allowed : List String} (hallowed : "order" ∈ allowed) :
    checkKeys ⟨path, node.withoutOrder⟩ allowed = .ok () ↔
      checkKeys ⟨path, node⟩ allowed = .ok () := by
  rw [checkKeys_eq_ok_iff, checkKeys_eq_ok_iff]
  cases node with
  | object members =>
      simp only [Json.withoutOrder, Json.members?, Option.some.injEq, exists_eq_left',
        List.mem_filter, bne_iff_ne, and_imp]
      constructor
      · intro hall member hmem
        by_cases horder : member.1 = "order"
        · rw [horder]
          exact ⟨by decide, hallowed⟩
        · exact hall member hmem horder
      · exact fun hall member hmem _ => hall member hmem
  | _ => rfl

end Section

theorem ColumnSpec.kindOfSection_withoutOrder (path : ConfigPath) (node : Json)
    {kind : ColumnKind} :
    kindOfSection ⟨path, node.withoutOrder⟩ = .ok kind ↔
      kindOfSection ⟨path, node⟩ = .ok kind := by
  have hget : ∀ key : String, key ≠ "order" →
      Section.get? ⟨path, node.withoutOrder⟩ key = Section.get? ⟨path, node⟩ key :=
    fun key hkey => Section.get?_withoutOrder path node hkey
  have hkeys : ∀ allowed : List String, "order" ∈ allowed → ∀ result : Unit,
      Section.checkKeys ⟨path, node.withoutOrder⟩ allowed = .ok result ↔
        Section.checkKeys ⟨path, node⟩ allowed = .ok result :=
    fun allowed hallowed _ => Section.checkKeys_withoutOrder path node hallowed
  simp only [kindOfSection, Section.optionalString, Section.require, ScalarType.ofSection,
    Section.requireString, hget "format" (by decide), hget "fields" (by decide),
    hget "source" (by decide), hget "type" (by decide), Outcome.bind_eq_ok_iff]
  refine exists_congr fun format => and_congr_right fun _ => ?_
  cases format with
  | some name =>
      by_cases hjson : OutputFormat.ofName? name = some .json
      · simp only [if_pos hjson, Outcome.bind_eq_ok_iff,
          hkeys ["format", "fields", "order"] (by decide)]
      · simp only [if_neg hjson]
  | none =>
      simp only [Outcome.bind_eq_ok_iff, hkeys ["source", "type", "order"] (by decide)]

theorem ColumnSpec.orderOfSection_eq_ok {node : Section}
    (horder : ∀ order, node.node.member? "order" = some order →
      ∃ value, order.int64? = some value) :
    ∃ order, orderOfSection node = .ok order := by
  unfold orderOfSection
  rw [Section.get?_of_plain (by decide)]
  cases hmember : node.node.member? "order" with
  | none => exact ⟨none, rfl⟩
  | some order =>
      obtain ⟨value, hvalue⟩ := horder order hmember
      exact ⟨some value, by simp [hvalue]⟩

/-! ## Columns of a mapping -/

/-- The section under `items`, of which the columns are children. -/
def RowMapping.itemsSection (node : Section) (members : List (String × Json)) : Section :=
  ⟨node.path.child "items", .object members⟩

theorem RowMapping.declared_eq_ok_iff {node : Section} {columns : List (String × Section)} :
    declared node = .ok columns ↔
      ∃ members, node.node.member? "items" = some (.object members) ∧
        (∀ member ∈ members, ConfigPath.hasSeparator member.1 = false) ∧
        columns = members.map (itemsSection node members).childOf := by
  simp only [declared, Outcome.bind_eq_ok_iff, Section.require_eq_ok_iff,
    Section.get?_of_plain (by decide : ConfigPath.hasSeparator "items" = false),
    Section.children_eq_ok_iff, Option.map_eq_some_iff]
  constructor
  · rintro ⟨_, ⟨tree, htree, rfl⟩, members, hmembers, hplain, rfl⟩
    cases tree with
    | object found =>
        cases hmembers
        exact ⟨members, htree, hplain, rfl⟩
    | _ => cases hmembers
  · rintro ⟨members, htree, hplain, rfl⟩
    exact ⟨_, ⟨_, htree, rfl⟩, members, rfl, hplain, rfl⟩

theorem RowMapping.ofSection_eq_ok {node : Section} {mapping : RowMapping}
    (haccepted : ofSection node = .ok mapping) :
    ∃ members, node.node.member? "items" = some (.object members) ∧
      ∃ columns : List ColumnSpec, columns.Perm mapping.columns ∧
        List.Forall₂ (fun member column => ColumnSpec.ofSection member.1
          ((itemsSection node members).childOf member).2 = .ok column) members columns := by
  simp only [ofSection, Outcome.bind_eq_ok_iff, Outcome.pure_eq_ok_iff, declared_eq_ok_iff,
    Outcome.mapM_eq_ok_iff] at haccepted
  obtain ⟨_, _, _, ⟨members, hmembers, _, rfl⟩, columns, hcolumns, rfl⟩ := haccepted
  exact ⟨members, hmembers, columns, (List.mergeSort_perm columns _).symm,
    List.forall₂_map_left_iff.mp hcolumns⟩

theorem RowPlan.zip_build (plan : RowPlan) (inputs : Inputs) :
    plan.names.zip (plan.build inputs) =
      plan.columns.map fun column => (column.name, column.evaluate inputs) :=
  List.zip_map'

theorem RowPlan.zip_build_of_compile {registry : Registry} {coercions : Coercions}
    {scopes : Scopes} {mapping : RowMapping} {plan : RowPlan}
    (hcompile : compile ⟨registry.resolve, coercions⟩ scopes mapping = .ok plan)
    (inputs : Inputs) :
    plan.names.zip (plan.build inputs) =
      mapping.columns.map fun spec => (spec.name, spec.kind.value registry scopes inputs) := by
  simp only [compile, Outcome.bind_eq_ok_iff, Outcome.pure_eq_ok_iff,
    Outcome.mapM_eq_ok_iff] at hcompile
  obtain ⟨columns, hcolumns, rfl⟩ := hcompile
  rw [zip_build]
  generalize mapping.columns = specs at hcolumns ⊢
  induction hcolumns with
  | nil => rfl
  | cons hcolumn _ ih =>
      obtain ⟨hname, hvalue⟩ := Column.evaluate_of_compile hcolumn inputs
      rw [List.map_cons, List.map_cons, hname, hvalue, ih]

/-- The rows of an accepted mapping, as far as the order of the columns is left open. -/
theorem Compiler.row_perm_of_freshRows {registry : Registry} {coercions : Coercions}
    {digest : List UInt8 → List UInt8} {event record : ShapeId} {node : Section}
    {plan : RowPlan}
    (hplan : freshRows ⟨registry.resolve, coercions, digest⟩ event record node = .ok plan) :
    ∃ members, node.node.member? "items" = some (.object members) ∧
      ∀ inputs : Inputs, (plan.names.zip (plan.build inputs)).Perm
        (members.map fun member =>
          (member.1, member.2.columnValue registry ⟨event, record, none⟩ inputs)) := by
  simp only [freshRows, Outcome.bind_eq_ok_iff] at hplan
  obtain ⟨mapping, hmapping, hplan⟩ := hplan
  obtain ⟨members, hmembers, columns, hperm, hcolumns⟩ := RowMapping.ofSection_eq_ok hmapping
  refine ⟨members, hmembers, fun inputs => ?_⟩
  rw [RowPlan.zip_build_of_compile hplan inputs]
  have hdeclared : (columns.map fun spec =>
        (spec.name, spec.kind.value registry ⟨event, record, none⟩ inputs)) =
      members.map fun member =>
        (member.1, member.2.columnValue registry ⟨event, record, none⟩ inputs) := by
    clear hmembers hperm
    generalize RowMapping.itemsSection node members = items at hcolumns
    induction hcolumns with
    | nil => rfl
    | cons hcolumn _ ih =>
        obtain ⟨_, hname, _, _, hkind⟩ := ColumnSpec.ofSection_eq_ok_iff.mp hcolumn
        have hvalue := ColumnSpec.value_of_kindOfSection hkind registry
          ⟨event, record, none⟩ inputs
        rw [List.map_cons, List.map_cons, hname, hvalue, ih]
        rfl
  rw [← hdeclared]
  exact hperm.symm.map _

/-! ## Mappings in another order -/

/-- A declared column up to its `order`. -/
def RowMapping.unordered (member : String × Json) : String × Json :=
  (member.1, member.2.withoutOrder)

theorem ColumnSpec.ofSection_reordered {name : String} {path : ConfigPath}
    {node other : Json} {spec : ColumnSpec}
    (haccepted : ofSection name ⟨path, node⟩ = .ok spec)
    (hother : other.withoutOrder = node.withoutOrder)
    (horder : ∀ order, other.member? "order" = some order →
      ∃ value, order.int64? = some value) :
    ∃ order, ofSection name ⟨path, other⟩ = .ok { spec with order } := by
  obtain ⟨hmembers, hname, hpath, _, hkind⟩ := ofSection_eq_ok_iff.mp haccepted
  obtain ⟨order, horder⟩ := @orderOfSection_eq_ok ⟨path, other⟩ horder
  refine ⟨order, ofSection_eq_ok_iff.mpr ⟨?_, hname, hpath, horder, ?_⟩⟩
  · rw [← Json.isSome_members?_withoutOrder, hother, Json.isSome_members?_withoutOrder]
    exact hmembers
  · rw [← kindOfSection_withoutOrder, hother, kindOfSection_withoutOrder]
    exact hkind

namespace Compiler

variable {compiler : Compiler} {event record : ShapeId} {node other : Section}

def AcceptsColumn (compiler : Compiler) (event record : ShapeId) (items : Section)
    (member : String × Json) : Prop :=
  ∃ spec, ColumnSpec.ofSection member.1 (items.childOf member).2 = .ok spec ∧
    ∃ column, Column.compile compiler.binder ⟨event, record, none⟩ spec = .ok column

/-- A mapping is accepted column by column. -/
theorem exists_freshRows_iff :
    (∃ plan, compiler.freshRows event record node = .ok plan) ↔
      OutputFormat.requireRows node = .ok () ∧
        ∃ members, node.node.member? "items" = some (.object members) ∧
          ∀ member ∈ members, ConfigPath.hasSeparator member.1 = false ∧
            compiler.AcceptsColumn event record (RowMapping.itemsSection node members)
              member := by
  simp only [freshRows, RowMapping.ofSection, RowPlan.compile, Outcome.bind_eq_ok_iff,
    Outcome.pure_eq_ok_iff, RowMapping.declared_eq_ok_iff]
  constructor
  · rintro ⟨_, _, ⟨_, hrows, _, ⟨members, hmembers, hplain, rfl⟩, specs, hspecs, rfl⟩, _,
      hcolumns, _⟩
    refine ⟨hrows, members, hmembers, fun member hmem => ⟨hplain member hmem, ?_⟩⟩
    have hchild :=
      List.mem_map_of_mem (f := (RowMapping.itemsSection node members).childOf) hmem
    obtain ⟨spec, hspec⟩ := Outcome.exists_mapM_eq_ok_iff.mp ⟨_, hspecs⟩ _ hchild
    have hread : spec ∈ specs :=
      (Outcome.mem_iff_of_mapM_eq_ok hspecs).mpr ⟨_, hchild, hspec⟩
    exact ⟨spec, hspec, Outcome.exists_mapM_eq_ok_iff.mp ⟨_, hcolumns⟩ spec
      (List.mem_mergeSort.mpr hread)⟩
  · rintro ⟨hrows, members, hmembers, hall⟩
    have hread : ∃ specs, (members.map (RowMapping.itemsSection node members).childOf).mapM
        (fun column => ColumnSpec.ofSection column.1 column.2) = .ok specs := by
      rw [Outcome.exists_mapM_eq_ok_iff, List.forall_mem_map]
      intro member hmem
      obtain ⟨_, spec, hspec, _⟩ := hall member hmem
      exact ⟨spec, hspec⟩
    obtain ⟨specs, hspecs⟩ := hread
    have hcompiled : ∃ columns, (specs.mergeSort fun a b => decide (a.rank ≤ b.rank)).mapM
        (Column.compile compiler.binder ⟨event, record, none⟩) = .ok columns := by
      rw [Outcome.exists_mapM_eq_ok_iff]
      intro spec hspec
      rw [List.mem_mergeSort, Outcome.mem_iff_of_mapM_eq_ok hspecs] at hspec
      obtain ⟨_, hchild, hspec⟩ := hspec
      obtain ⟨member, hmem, rfl⟩ := List.mem_map.mp hchild
      obtain ⟨_, _, hsame, hcolumn⟩ := hall member hmem
      obtain rfl := Except.ok.inj (hspec.symm.trans hsame)
      exact hcolumn
    obtain ⟨columns, hcompiled⟩ := hcompiled
    exact ⟨_, _, ⟨(), hrows, _, ⟨members, hmembers, fun member hmem => (hall member hmem).1, rfl⟩,
      specs, hspecs, rfl⟩, columns, hcompiled, rfl⟩

theorem AcceptsColumn.reordered {items others : Section} {member same : String × Json}
    (haccepts : compiler.AcceptsColumn event record items same)
    (hpath : others.path = items.path)
    (hsame : RowMapping.unordered member = RowMapping.unordered same)
    (horder : ∀ order, member.2.member? "order" = some order →
      ∃ value, order.int64? = some value) :
    compiler.AcceptsColumn event record others member := by
  obtain ⟨hname, htree⟩ := Prod.mk.inj hsame
  obtain ⟨spec, hspec, column, hcolumn⟩ := haccepts
  obtain ⟨order, hreordered⟩ := ColumnSpec.ofSection_reordered hspec htree horder
  refine ⟨{ spec with order }, ?_, column, hcolumn⟩
  simpa only [Section.childOf, hpath, hname] using hreordered

/-- Neither the order of the declarations nor their `order` decides whether a mapping is
accepted. -/
theorem exists_freshRows_reordered {members others : List (String × Json)} {plan : RowPlan}
    (hplan : compiler.freshRows event record node = .ok plan)
    (hmembers : node.node.member? "items" = some (.object members))
    (hpath : other.path = node.path)
    (hrows : OutputFormat.requireRows other = .ok ())
    (hothers : other.node.member? "items" = some (.object others))
    (hperm : (others.map RowMapping.unordered).Perm (members.map RowMapping.unordered))
    (horders : ∀ member ∈ others, ∀ order, member.2.member? "order" = some order →
      ∃ value, order.int64? = some value) :
    ∃ plan, compiler.freshRows event record other = .ok plan := by
  obtain ⟨_, found, hfound, hall⟩ := exists_freshRows_iff.mp ⟨plan, hplan⟩
  obtain rfl : found = members := by simpa [hmembers] using hfound.symm
  refine exists_freshRows_iff.mpr ⟨hrows, others, hothers, fun member hmem => ?_⟩
  obtain ⟨same, hmemSame, hsame⟩ :=
    List.mem_map.mp (hperm.subset (List.mem_map_of_mem hmem))
  obtain ⟨hplain, haccepts⟩ := hall same hmemSame
  have hname : same.1 = member.1 := (Prod.mk.inj hsame).1
  refine ⟨hname ▸ hplain, haccepts.reordered ?_ hsame.symm (horders member hmem)⟩
  simp only [RowMapping.itemsSection, hpath]

/-- A mapping that is read has a key. -/
theorem exists_rowKey_of_freshRows {plan : RowPlan}
    (hplan : compiler.freshRows event record node = .ok plan) :
    ∃ key, compiler.rowKey event record node = .ok key := by
  simp only [freshRows, RowMapping.ofSection, Outcome.bind_eq_ok_iff] at hplan
  obtain ⟨_, ⟨_, hrows, columns, hcolumns, _⟩, _⟩ := hplan
  simp only [rowKey, RowMapping.columnNames, Outcome.bind_eq_ok_iff, Outcome.pure_eq_ok_iff]
  exact ⟨_, (), hrows, _, ⟨columns, hcolumns, rfl⟩, rfl⟩

end Compiler

/-- A row of an accepted mapping holds the value of each declared column under the name
of that column.  Declaring the columns in another order, or with other numbers under
`order`, gives the same names with the same values. -/
theorem Compiler.row_eq_declared {registry : Registry} {coercions : Coercions}
    {digest : List UInt8 → List UInt8} {event record : ShapeId} {node : Section}
    {shared : Shared RowPlan}
    (hcompile : ((⟨registry.resolve, coercions, digest⟩ : Compiler).compileRows
      event record node .empty).1 = .ok shared)
    (inputs : Inputs) :
    ∃ members, node.node.member? "items" = some (.object members) ∧
      (shared.plan.build inputs).length = shared.plan.names.length ∧
      (∀ (i : Nat) (name : String) (value : Value), shared.plan.names[i]? = some name →
        (shared.plan.build inputs)[i]? = some value →
        ∃ column, (name, column) ∈ members ∧
          value = column.columnValue registry ⟨event, record, none⟩ inputs) ∧
      (shared.plan.names.zip (shared.plan.build inputs)).Perm
        (members.map fun member =>
          (member.1, member.2.columnValue registry ⟨event, record, none⟩ inputs)) ∧
      ∀ (other : Section) (others : List (String × Json)), other.path = node.path →
        OutputFormat.requireRows other = .ok () →
        other.node.member? "items" = some (.object others) →
        (others.map RowMapping.unordered).Perm (members.map RowMapping.unordered) →
        (∀ member ∈ others, ∀ order, member.2.member? "order" = some order →
          ∃ value, order.int64? = some value) →
        ∃ reordered, ((⟨registry.resolve, coercions, digest⟩ : Compiler).compileRows
            event record other .empty).1 = .ok reordered ∧
          (reordered.plan.names.zip (reordered.plan.build inputs)).Perm
            (shared.plan.names.zip (shared.plan.build inputs)) := by
  obtain ⟨_, hplan⟩ := compileRows_empty_eq_ok_iff.mp hcompile
  obtain ⟨members, hmembers, hrow⟩ := row_perm_of_freshRows hplan
  refine ⟨members, hmembers, by simp, ?_, hrow inputs, ?_⟩
  · intro i name value hname hvalue
    have hpair : (name, value) ∈ shared.plan.names.zip (shared.plan.build inputs) :=
      List.mem_of_getElem? (List.getElem?_zip_eq_some.mpr ⟨hname, hvalue⟩)
    obtain ⟨member, hmem, hmember⟩ := List.mem_map.mp ((hrow inputs).subset hpair)
    cases hmember
    exact ⟨member.2, hmem, rfl⟩
  · intro other others hpath hrows hothers hperm horders
    obtain ⟨plan, hother⟩ :=
      exists_freshRows_reordered hplan hmembers hpath hrows hothers hperm horders
    obtain ⟨key, hkey⟩ := exists_rowKey_of_freshRows hother
    refine ⟨⟨key, plan⟩, compileRows_empty_eq_ok_iff.mpr ⟨hkey, hother⟩, ?_⟩
    obtain ⟨found, hfound, hrowOther⟩ := row_perm_of_freshRows hother
    obtain rfl : found = others := by simpa [hothers] using hfound.symm
    have hvalues := hperm.map fun member =>
      (member.1, member.2.columnValue registry ⟨event, record, none⟩ inputs)
    simp only [List.map_map, Function.comp_def, RowMapping.unordered,
      Json.columnValue_withoutOrder] at hvalues
    exact (hrowOther inputs).trans (hvalues.trans (hrow inputs).symm)

namespace Orders

/-- A document, a constant and a converted field, declared in another order than they
come out in. -/
def members : List (String × Json) := [
  ("document", .object [
    ("format", .string "json"),
    ("fields", .object [
      ("kind", .string "event.Kind"),
      ("lines", .object [
        ("type", .string "array"),
        ("context", .string "record.Lines"),
        ("items", .object [("sku", .string "item.Sku")])])])]),
  ("version", .object [
    ("source", .string "const.7"), ("type", .string "int"), ("order", .integer 2)]),
  ("id", .object [
    ("source", .string "record.Id"), ("type", .string "string"), ("order", .integer 1)])]

def mapping : Section :=
  ⟨⟨"orders"⟩, .object [("format", .string "object[]"), ("items", .object members)]⟩

def compiler : Compiler := ⟨registry.resolve, {}, id⟩

def row : List (String × Value) := [
  ("document", .string
    "\x7b\"kind\":\"new\",\"lines\":[\x7b\"sku\":\"A\"\x7d,\x7b\"sku\":\"B\"\x7d]\x7d"),
  ("version", .int 7),
  ("id", .string "7")]

end Orders

theorem Compiler.row_eq_declared_orders :
    ∃ shared, (Orders.compiler.compileRows Orders.placed Orders.order Orders.mapping
        .empty).1 = .ok shared ∧
      (shared.plan.names.zip (shared.plan.build Orders.inputs)).Perm Orders.row := by
  have hcolumns : ∀ member ∈ Orders.members,
      (ColumnSpec.ofSection member.1
          ((RowMapping.itemsSection Orders.mapping Orders.members).childOf member).2 >>=
        Column.compile Orders.compiler.binder ⟨Orders.placed, Orders.order, none⟩).toBool := by
    decide +kernel
  have haccepted : ∃ plan, Orders.compiler.freshRows Orders.placed Orders.order
      Orders.mapping = .ok plan := by
    refine exists_freshRows_iff.mpr ⟨rfl, Orders.members, rfl, fun member hmem => ⟨?_, ?_⟩⟩
    · revert member
      decide
    · have hcolumn := hcolumns member hmem
      cases hresult : (ColumnSpec.ofSection member.1
          ((RowMapping.itemsSection Orders.mapping Orders.members).childOf member).2 >>=
        Column.compile Orders.compiler.binder ⟨Orders.placed, Orders.order, none⟩) with
      | error error => simp [hresult, Except.toBool] at hcolumn
      | ok column =>
          obtain ⟨spec, hspec, hcompiled⟩ := Outcome.bind_eq_ok_iff.mp hresult
          exact ⟨spec, hspec, column, hcompiled⟩
  obtain ⟨plan, hplan⟩ := haccepted
  obtain ⟨key, hkey⟩ := exists_rowKey_of_freshRows hplan
  have hcompile : (Orders.compiler.compileRows Orders.placed Orders.order Orders.mapping
      .empty).1 = .ok ⟨key, plan⟩ := compileRows_empty_eq_ok_iff.mpr ⟨hkey, hplan⟩
  obtain ⟨members, hmembers, _, _, hrow, _⟩ := row_eq_declared hcompile Orders.inputs
  have hsame : members = Orders.members := by
    have hitems : Orders.mapping.node.member? "items" = some (.object Orders.members) := rfl
    rw [hitems] at hmembers
    exact (Json.object.inj (Option.some.inj hmembers)).symm
  have hvalues : (members.map fun member => (member.1, member.2.columnValue Orders.registry
      ⟨Orders.placed, Orders.order, none⟩ Orders.inputs)) = Orders.row := by
    subst hsame
    decide +kernel
  rw [hvalues] at hrow
  exact ⟨_, hcompile, hrow⟩

end MappingPlan
