import MappingPlan.Derive.Expansion
import MappingPlan.Proofs.FieldAttributes

/-!
# Deriving field by field

A struct is derived from all of its fields at once: the faults of bad fields are gathered
while the good ones are still collected, and the registrations are written from what was
collected.  No field has a say in what becomes of another.  This file holds a struct against
the structs that have one of its fields each and are otherwise the same.  The struct is
derived exactly if all of those are, its fields and registrations are theirs one after the
other, and its message is made of the messages of those that fail.
-/

namespace MappingPlan.Derive

/-- The struct with no other field than the given one. -/
def StructDecl.withField (decl : StructDecl) (field : StructField) : StructDecl :=
  { decl with body := .named [field] }

def Shape.registrations (shape : Shape) : List String :=
  shape.fields.map Field.registration

/-- The message of a derivation that fails. -/
def message? : Except (List Fault) Shape → Option String
  | .ok _ => none
  | .error faults => some (describe faults)

theorem Shape.expansion_eq (shape : Shape) :
    shape.expansion = "impl :: projection_compiler :: Shape for " ++ shape.ident ++ " " ++
      block ["fn describe (shape : & mut :: projection_compiler :: ShapeBuilder < Self >) " ++
        block shape.registrations] := rfl

/-! ## Collecting fields -/

/-- What is wrong with a field that is not accepted. -/
def StructField.fault? (rule : Option NamingRule) (field : StructField) : Option Fault :=
  match Field.ofStructField rule field with
  | .ok _ => none
  | .error fault => some fault

theorem StructField.fault?_eq_none_iff {rule : Option NamingRule} {field : StructField} :
    field.fault? rule = none ↔ ∃ result, Field.ofStructField rule field = .ok result := by
  unfold fault?
  cases Field.ofStructField rule field <;> simp

section Collecting

variable {rule : Option NamingRule} {fields : List StructField}

theorem faults_eq_nil_iff :
    fields.filterMap (StructField.fault? rule) = [] ↔
      ∃ results, fields.mapM (Field.ofStructField rule) = .ok results := by
  rw [List.filterMap_eq_nil_iff, Outcome.exists_mapM_eq_ok_iff]
  simp only [StructField.fault?_eq_none_iff]

/-- Fields are collected if all of them are good.  Otherwise the faults of the bad ones
are, in order. -/
theorem collectFields_eq :
    collectFields rule fields =
      match fields.mapM (Field.ofStructField rule) with
      | .ok results => .ok (results.flatMap Option.toList)
      | .error _ => .error (fields.filterMap (StructField.fault? rule)) := by
  induction fields with
  | nil => rfl
  | cons field rest ih =>
      rw [collectFields, ih, List.mapM_cons]
      cases hfield : Field.ofStructField rule field with
      | ok first =>
          have hgood : field.fault? rule = none := by rw [StructField.fault?, hfield]
          rw [List.filterMap_cons_none hgood]
          cases rest.mapM (Field.ofStructField rule) <;> rfl
      | error fault =>
          have hbad : field.fault? rule = some fault := by rw [StructField.fault?, hfield]
          rw [List.filterMap_cons_some hbad]
          cases hrest : rest.mapM (Field.ofStructField rule) with
          | ok results =>
              have hnone := faults_eq_nil_iff.mpr ⟨results, hrest⟩
              rw [hnone]
              rfl
          | error other => rfl

end Collecting

/-! ## Structs with one field -/

section Fieldwise

variable {decl : StructDecl} {rule : Option NamingRule} {fields : List StructField}

theorem ofStruct_eq (hplain : decl.isGeneric = false) (hbody : decl.body = .named fields)
    (hrule : foldItems structItem none decl.attributes = .ok rule) :
    Shape.ofStruct decl =
      match fields.mapM (Field.ofStructField rule) with
      | .ok results => .ok ⟨decl.ident, results.flatMap Option.toList⟩
      | .error _ => .error (fields.filterMap (StructField.fault? rule)) := by
  simp only [Shape.ofStruct, hplain, hbody, hrule, Bool.false_eq_true, if_false]
  rw [collectFields_eq]
  cases fields.mapM (Field.ofStructField rule) <;> rfl

theorem ofStruct_withField_eq (hplain : decl.isGeneric = false)
    (hrule : foldItems structItem none decl.attributes = .ok rule) (field : StructField) :
    Shape.ofStruct (decl.withField field) =
      match Field.ofStructField rule field with
      | .ok result => .ok ⟨decl.ident, result.toList⟩
      | .error fault => .error [fault] := by
  have hplain' : (decl.withField field).isGeneric = false := hplain
  rw [ofStruct_eq hplain' rfl hrule]
  cases hfield : Field.ofStructField rule field with
  | ok result => simp [hfield]; rfl
  | error fault => simp [hfield, StructField.fault?]

theorem exists_ofStruct_withField_iff (hplain : decl.isGeneric = false)
    (hrule : foldItems structItem none decl.attributes = .ok rule) {field : StructField} :
    (∃ part, Shape.ofStruct (decl.withField field) = .ok part) ↔
      ∃ result, Field.ofStructField rule field = .ok result := by
  rw [ofStruct_withField_eq hplain hrule]
  cases Field.ofStructField rule field <;> simp

theorem message?_ofStruct_withField (hplain : decl.isGeneric = false)
    (hrule : foldItems structItem none decl.attributes = .ok rule) (field : StructField) :
    message? (Shape.ofStruct (decl.withField field)) =
      (field.fault? rule).map Fault.message := by
  rw [ofStruct_withField_eq hplain hrule, StructField.fault?]
  cases Field.ofStructField rule field <;> rfl

/-- A field with a mark that skips it is checked like any other and leaves nothing behind. -/
theorem fields_ofStruct_withField_eq_nil_iff (hplain : decl.isGeneric = false)
    (hrule : foldItems structItem none decl.attributes = .ok rule) {field : StructField}
    {part : Shape} (hpart : Shape.ofStruct (decl.withField field) = .ok part) :
    part.fields = [] ↔ .skip ∈ marksOf (shapeItems field.attributes) := by
  rw [ofStruct_withField_eq hplain hrule] at hpart
  cases hfield : Field.ofStructField rule field with
  | error fault => simp [hfield] at hpart
  | ok result =>
      obtain ⟨_, _, rfl⟩ := Field.ofStructField_eq_ok_iff.mp hfield
      simp only [hfield, Except.ok.injEq] at hpart
      subst hpart
      by_cases hskip : Mark.skip ∈ marksOf (shapeItems field.attributes)
      · simp [StructField.marked, Marks.ofList, hskip]
      · simp [StructField.marked, Marks.ofList, hskip]

/-- A plain struct with valid attributes of its own is derived exactly if it is derived with
each of its fields alone.  Its fields and registrations are then those of the structs with one
field, in the order of the fields.  Otherwise its message has the messages of those of them
that fail, in this order, one on a line.  With one field, it is derived exactly if the
attributes of the field are in order, whether or not the field is skipped, and what is derived
has no field exactly if it is. -/
theorem Shape.ofStruct_fieldwise (hplain : decl.isGeneric = false)
    (hbody : decl.body = .named fields)
    (hrule : foldItems structItem none decl.attributes = .ok rule) :
    ((∃ shape, ofStruct decl = .ok shape) ↔
        ∀ field ∈ fields, ∃ part, ofStruct (decl.withField field) = .ok part) ∧
      (∀ shape, ofStruct decl = .ok shape →
        shape.ident = decl.ident ∧
          ∃ parts,
            List.Forall₂ (fun field part => ofStruct (decl.withField field) = .ok part)
              fields parts ∧
            shape.fields = parts.flatMap Shape.fields ∧
            shape.registrations = parts.flatMap Shape.registrations) ∧
      (∀ faults, ofStruct decl = .error faults →
        describe faults = Text.joinWith "\n"
          (fields.filterMap fun field => message? (ofStruct (decl.withField field)))) ∧
      ∀ field ∈ fields,
        ((∃ part, ofStruct (decl.withField field) = .ok part) ↔
            Parenthesised field.attributes ∧ Acceptable (shapeItems field.attributes)) ∧
          ∀ part, ofStruct (decl.withField field) = .ok part →
            (part.fields = [] ↔ .skip ∈ marksOf (shapeItems field.attributes)) := by
  have hstruct := ofStruct_eq hplain hbody hrule
  refine ⟨?_, ?_, ?_, ?_⟩
  · simp only [exists_ofStruct_withField_iff hplain hrule, ← Outcome.exists_mapM_eq_ok_iff,
      hstruct]
    cases fields.mapM (Field.ofStructField rule) <;> simp
  · intro shape hshape
    cases hresults : fields.mapM (Field.ofStructField rule) with
    | error fault => simp [hstruct, hresults] at hshape
    | ok results =>
        simp only [hstruct, hresults, Except.ok.injEq] at hshape
        subst hshape
        refine ⟨rfl, results.map fun result => ⟨decl.ident, result.toList⟩, ?_, ?_, ?_⟩
        · rw [List.forall₂_map_right_iff]
          refine (Outcome.mapM_eq_ok_iff.mp hresults).imp ?_
          intro field result hfield
          rw [ofStruct_withField_eq hplain hrule, hfield]
        · rw [List.flatMap_map]
        · rw [registrations, List.map_flatMap, List.flatMap_map]
          rfl
  · intro faults hfaults
    cases hresults : fields.mapM (Field.ofStructField rule) with
    | ok results => simp [hstruct, hresults] at hfaults
    | error fault =>
        simp only [hstruct, hresults, Except.error.injEq] at hfaults
        subst hfaults
        simp only [message?_ofStruct_withField hplain hrule, describe, List.map_filterMap]
  · intro field _
    refine ⟨?_, fun part => fields_ofStruct_withField_eq_nil_iff hplain hrule⟩
    rw [exists_ofStruct_withField_iff hplain hrule, Field.accepted_iff]

end Fieldwise

/-! ## An order -/

def namedField (ident name : String) (items : List AttributeItem) : StructField :=
  ⟨ident, .path false [⟨"Vec", some 1⟩],
    [⟨attributePath, .list (.entry "rename" (some (.string name)) :: items)⟩]⟩

/-- The fields of an order whose lines are marked and whose note is skipped, with the given
items besides. -/
def namedFields (lines note : List AttributeItem) : List StructField :=
  [namedField "order_lines" "Lines" (.entry "items" none :: lines), namedField "code" "Code" [],
    namedField "note" "Note" (.entry "skip" none :: note)]

def namedDecl (fields : List StructField) : StructDecl :=
  ⟨"Order", false, [⟨attributePath, .list [.entry "rename_all" (some (.string "PascalCase"))]⟩],
    .named fields⟩

/-- The order is derived with two fields.  If its lines are marked twice and its note has an
unknown item, both are reported, although the note is skipped. -/
theorem Shape.ofStruct_fieldwise_order :
    (∃ shape, ofStruct (namedDecl (namedFields [] [])) = .ok shape ∧
      ∃ parts : List Shape, shape.fields = parts.flatMap Shape.fields ∧
        parts.map (fun part => part.fields.map Field.name) = [["Lines"], ["Code"], []]) ∧
    ∃ faults,
      ofStruct (namedDecl (namedFields [.entry "object" none] [.entry "hidden" none])) =
        .error faults ∧
      describe faults = Fault.secondKind.message ++ "\n" ++ Fault.unknownFieldItem.message := by
  have hrule (fields : List StructField) :
      foldItems structItem none (namedDecl fields).attributes = .ok (some .pascal) := rfl
  have hplain (fields : List StructField) : (namedDecl fields).isGeneric = false := rfl
  constructor
  · have hderive : ofStruct (namedDecl (namedFields [] [])) = .ok ⟨"Order",
        [⟨"order_lines", "Lines", .items, false⟩, ⟨"code", "Code", .scalar, false⟩]⟩ := rfl
    have hsingle : (namedFields [] []).mapM
        (fun field => ofStruct ((namedDecl (namedFields [] [])).withField field)) =
          .ok [⟨"Order", [⟨"order_lines", "Lines", .items, false⟩]⟩,
            ⟨"Order", [⟨"code", "Code", .scalar, false⟩]⟩, ⟨"Order", []⟩] := rfl
    obtain ⟨_, hshape, _, _⟩ := ofStruct_fieldwise (hplain (namedFields [] [])) rfl (hrule _)
    obtain ⟨_, parts, hparts, hfields, _⟩ := hshape _ hderive
    have hall := Except.ok.inj (hsingle.symm.trans (Outcome.mapM_eq_ok_iff.mpr hparts))
    exact ⟨_, hderive, parts, hfields, by rw [← hall]; rfl⟩
  · have hrefuse :
        ofStruct (namedDecl (namedFields [.entry "object" none] [.entry "hidden" none])) =
          .error [.secondKind, .unknownFieldItem] := rfl
    obtain ⟨_, _, hmessage, _⟩ := ofStruct_fieldwise (hplain _) rfl (hrule _)
    exact ⟨_, hrefuse, hmessage _ hrefuse⟩

end MappingPlan.Derive
