import MappingPlan.Derive.Shape
import MappingPlan.Proofs.Outcome
import Mathlib.Data.List.Induction

/-!
# The attributes of a field

The attributes of a field are read from left to right, and each item changes the marks that
were set so far.  The reading stops at the first fault, and whether a second kind is a fault
depends on the marks.  For all that, what comes of it can be said without an order: a field
is accepted exactly if each item sets a mark and at most one of them sets a kind, and then
the field has that kind, its last name, and is left out if an item says so.

None of this looks at how the items are spread over attributes, and only the last name looks
at their order.  So a field stays what it is however its items are put in order and
distributed, as long as it is renamed at most once.
-/

namespace MappingPlan.Derive

/-! ## Marks -/

/-- What one item says about its field. -/
inductive Mark where
  | rename (name : String)
  | items
  | object
  | skip
  deriving DecidableEq, Repr

namespace Mark

def kind? : Mark → Option Kind
  | items => some .items
  | object => some .object
  | rename _ | skip => none

def name? : Mark → Option String
  | rename name => some name
  | items | object | skip => none

end Mark

/-- The mark that an item sets by itself, if a field may have the item. -/
def AttributeItem.mark? : AttributeItem → Option Mark
  | entry key (some (.string name)) => if key = "rename" then some (.rename name) else none
  | entry key none =>
      if key = "items" then some .items
      else if key = "object" then some .object
      else if key = "skip" then some .skip
      else none
  | _ => none

def kindsOf (marks : List Mark) : List Kind :=
  marks.filterMap Mark.kind?

def namesOf (marks : List Mark) : List String :=
  marks.filterMap Mark.name?

namespace Marks

def ofList (marks : List Mark) : Marks where
  rename := (namesOf marks).getLast?
  kind := (kindsOf marks).getLast?.getD .scalar
  skip := decide (.skip ∈ marks)

def set (marks : Marks) : Mark → Marks
  | .rename name => { marks with rename := some name }
  | .items => { marks with kind := .items }
  | .object => { marks with kind := .object }
  | .skip => { marks with skip := true }

theorem ofList_concat (marks : List Mark) (mark : Mark) :
    ofList (marks ++ [mark]) = (ofList marks).set mark := by
  cases mark <;> simp [ofList, set, namesOf, kindsOf, Mark.kind?, Mark.name?]

theorem kind_ofList_eq_scalar_iff {marks : List Mark} :
    (ofList marks).kind = .scalar ↔ kindsOf marks = [] := by
  induction marks using List.reverseRecOn with
  | nil => simp [ofList, kindsOf]
  | append_singleton marks mark ih =>
      rw [ofList_concat]
      cases mark <;> simp [set, kindsOf, Mark.kind?] at ih ⊢
      · exact ih
      · exact ih

end Marks

theorem AttributeValue.string?_eq_ok_iff {value : Option AttributeValue} {text : String} :
    string? value = .ok text ↔ value = some (.string text) := by
  rcases value with _ | _ | _ | _ <;> simp [string?]

theorem AttributeValue.absent_eq_ok_iff {value : Option AttributeValue} {result : Unit} :
    absent value = .ok result ↔ value = none := by
  cases value <;> simp [absent]

theorem Marks.setKind_eq_ok_iff {marks next : Marks} {kind : Kind} :
    marks.setKind kind = .ok next ↔ marks.kind = .scalar ∧ { marks with kind := kind } = next := by
  unfold setKind
  split
  next hscalar => simp [hscalar]
  next hset => simp [hset]

/-- An item is taken if it sets a mark, and a kind only if none is set. -/
theorem fieldItem_eq_ok_iff {marks next : Marks} {item : AttributeItem} :
    fieldItem marks item = .ok next ↔
      ∃ mark, item.mark? = some mark ∧ (mark.kind? = none ∨ marks.kind = .scalar) ∧
        marks.set mark = next := by
  rcases item with ⟨key, value⟩ | fault
  · by_cases hkey : key = "rename" ∨ key = "items" ∨ key = "object" ∨ key = "skip"
    · rcases hkey with rfl | rfl | rfl | rfl
      all_goals
        simp only [fieldItem, ↓reduceIte, String.reduceEq, Outcome.bind_eq_ok_iff,
          Outcome.pure_eq_ok_iff, AttributeValue.string?_eq_ok_iff, Marks.setKind_eq_ok_iff,
          AttributeValue.absent_eq_ok_iff]
        rcases value with _ | _ | _ | _ <;> simp [AttributeItem.mark?, Mark.kind?, Marks.set]
    · simp only [not_or] at hkey
      obtain ⟨hrename, hitems, hobject, hskip⟩ := hkey
      have hunknown : (AttributeItem.entry key value).mark? = none := by
        rcases value with _ | _ | _ | _ <;>
          simp [AttributeItem.mark?, hrename, hitems, hobject, hskip]
      simp [fieldItem, hunknown, hrename, hitems, hobject, hskip]
  · simp [fieldItem, AttributeItem.mark?]

/-! ## Items in turn -/

/-- The marks that the items set, in order. -/
def marksOf (items : List AttributeItem) : List Mark :=
  items.filterMap AttributeItem.mark?

/-- Every item is one that a field may have, and at most one of them sets a kind. -/
structure Acceptable (items : List AttributeItem) : Prop where
  known : ∀ item ∈ items, item.mark?.isSome
  kinds : (kindsOf (marksOf items)).length ≤ 1

theorem marksOf_concat {item : AttributeItem} {mark : Mark} (items : List AttributeItem)
    (hmark : item.mark? = some mark) : marksOf (items ++ [item]) = marksOf items ++ [mark] := by
  rw [marksOf, List.filterMap_append, ← marksOf, List.filterMap_cons_some hmark,
    List.filterMap_nil]

theorem length_kindsOf_concat_le_one_iff {marks : List Mark} {mark : Mark} :
    (kindsOf (marks ++ [mark])).length ≤ 1 ↔
      (kindsOf marks).length ≤ 1 ∧ (mark.kind? = none ∨ kindsOf marks = []) := by
  rw [kindsOf, List.filterMap_append, ← kindsOf, List.length_append]
  cases hkind : mark.kind? with
  | none => simp [List.filterMap_cons_none hkind]
  | some kind =>
      rw [List.filterMap_cons_some hkind, List.filterMap_nil, List.length_singleton,
        ← List.length_eq_zero_iff]
      simp only [reduceCtorEq, false_or]
      omega

theorem acceptable_concat_iff {items : List AttributeItem} {item : AttributeItem} :
    Acceptable (items ++ [item]) ↔
      Acceptable items ∧ ∃ mark, item.mark? = some mark ∧
        (mark.kind? = none ∨ kindsOf (marksOf items) = []) := by
  constructor
  · rintro ⟨hknown, hkinds⟩
    rw [List.forall_mem_append, List.forall_mem_singleton] at hknown
    obtain ⟨mark, hmark⟩ := Option.isSome_iff_exists.mp hknown.2
    rw [marksOf_concat items hmark, length_kindsOf_concat_le_one_iff] at hkinds
    exact ⟨⟨hknown.1, hkinds.1⟩, mark, hmark, hkinds.2⟩
  · rintro ⟨⟨hknown, hkinds⟩, mark, hmark, hkind⟩
    constructor
    · rw [List.forall_mem_append, List.forall_mem_singleton, hmark]
      exact ⟨hknown, rfl⟩
    · rw [marksOf_concat items hmark, length_kindsOf_concat_le_one_iff]
      exact ⟨hkinds, hkind⟩

/-- Reading items one after the other comes to the marks that they set. -/
theorem foldlM_fieldItem_eq_ok_iff {items : List AttributeItem} {marks : Marks} :
    items.foldlM fieldItem {} = .ok marks ↔
      Acceptable items ∧ Marks.ofList (marksOf items) = marks := by
  induction items using List.reverseRecOn generalizing marks with
  | nil =>
      have hempty : Acceptable [] := ⟨by simp, by simp [marksOf, kindsOf]⟩
      simp only [hempty, true_and]
      exact Outcome.pure_eq_ok_iff
  | append_singleton items item ih =>
      rw [List.foldlM_append, Outcome.bind_eq_ok_iff, acceptable_concat_iff]
      simp only [ih, List.foldlM_cons, List.foldlM_nil, bind_pure, fieldItem_eq_ok_iff]
      constructor
      · rintro ⟨_, ⟨hitems, rfl⟩, mark, hmark, hkind, rfl⟩
        rw [Marks.kind_ofList_eq_scalar_iff] at hkind
        rw [marksOf_concat items hmark, Marks.ofList_concat]
        exact ⟨⟨hitems, mark, hmark, hkind⟩, rfl⟩
      · rintro ⟨⟨hitems, mark, hmark, hkind⟩, rfl⟩
        rw [← Marks.kind_ofList_eq_scalar_iff] at hkind
        rw [marksOf_concat items hmark, Marks.ofList_concat]
        exact ⟨_, ⟨hitems, rfl⟩, mark, hmark, hkind, rfl⟩

/-! ## Attributes -/

/-- The items of an attribute, if it has the form of a list. -/
def Attribute.listed (attr : Attribute) : List AttributeItem :=
  match attr.form with
  | .list items => items
  | .bare | .assigned => []

def shapeAttributes (attributes : List Attribute) : List Attribute :=
  attributes.filter fun attr => attr.path == attributePath

/-- All items of the attributes named `shape`, in order. -/
def shapeItems (attributes : List Attribute) : List AttributeItem :=
  (shapeAttributes attributes).flatMap Attribute.listed

/-- Every attribute named `shape` has its items in parentheses. -/
def Parenthesised (attributes : List Attribute) : Prop :=
  ∀ attr ∈ shapeAttributes attributes, ∃ items, attr.form = .list items

theorem Attribute.items_eq_ok_iff {attr : Attribute} {items : List AttributeItem} :
    attr.items = .ok items ↔ attr.form = .list items := by
  unfold Attribute.items
  cases attr.form <;> simp

/-- Nothing depends on the attributes that the items are in. -/
theorem foldItems_eq_ok_iff {σ : Type} {step : σ → AttributeItem → Except Fault σ}
    {initial final : σ} {attributes : List Attribute} :
    foldItems step initial attributes = .ok final ↔
      Parenthesised attributes ∧ (shapeItems attributes).foldlM step initial = .ok final := by
  unfold foldItems Parenthesised shapeItems shapeAttributes
  generalize attributes.filter _ = shaped
  induction shaped generalizing initial with
  | nil => simp
  | cons attr rest ih =>
      rw [List.foldlM_cons, Outcome.bind_eq_ok_iff, List.forall_mem_cons, List.flatMap_cons,
        List.foldlM_append, Outcome.bind_eq_ok_iff]
      simp only [Outcome.bind_eq_ok_iff, Attribute.items_eq_ok_iff, ih]
      constructor
      · rintro ⟨middle, ⟨items, hform, hitems⟩, hrest, hfinal⟩
        refine ⟨⟨⟨items, hform⟩, hrest⟩, middle, ?_, hfinal⟩
        rwa [Attribute.listed, hform]
      · rintro ⟨⟨⟨items, hform⟩, hrest⟩, middle, hitems, hfinal⟩
        rw [Attribute.listed, hform] at hitems
        exact ⟨middle, ⟨items, hform, hitems⟩, hrest, hfinal⟩

/-! ## Fields -/

/-- What the field is with these marks, if it is not left out. -/
def StructField.marked (rule : Option NamingRule) (field : StructField) (marks : Marks) :
    Option Field :=
  if marks.skip then none
  else some {
    ident := field.ident
    name := registeredName rule marks.rename field.ident
    kind := marks.kind
    nullable := field.type.isOption }

theorem Field.ofStructField_eq_ok_iff {rule : Option NamingRule} {field : StructField}
    {result : Option Field} :
    ofStructField rule field = .ok result ↔
      Parenthesised field.attributes ∧ Acceptable (shapeItems field.attributes) ∧
        field.marked rule (.ofList (marksOf (shapeItems field.attributes))) = result := by
  have hmarked : ∀ marks : Marks,
      (if marks.skip then pure none
        else pure (some (⟨field.ident, registeredName rule marks.rename field.ident, marks.kind,
          field.type.isOption⟩ : Field)) : Except Fault (Option Field)) = .ok result ↔
        field.marked rule marks = result := by
    intro marks
    unfold StructField.marked
    split <;> exact Outcome.pure_eq_ok_iff
  simp only [ofStructField, Outcome.bind_eq_ok_iff, hmarked, foldItems_eq_ok_iff,
    foldlM_fieldItem_eq_ok_iff]
  constructor
  · rintro ⟨_, ⟨hforms, hitems, rfl⟩, hresult⟩
    exact ⟨hforms, hitems, hresult⟩
  · rintro ⟨hforms, hitems, hresult⟩
    exact ⟨_, ⟨hforms, hitems, rfl⟩, hresult⟩

/-! ## Rearranged attributes -/

/-- The items of one list stand in the other, in any order and spread over attributes in any
way.  Attributes with other names are of no account. -/
structure Rearranged (attributes others : List Attribute) : Prop where
  items : (shapeItems attributes).Perm (shapeItems others)
  parenthesised : Parenthesised attributes ↔ Parenthesised others

theorem eq_of_perm_of_length_le_one {α : Type} {xs ys : List α} (hperm : xs.Perm ys)
    (hlength : xs.length ≤ 1) : xs = ys := by
  cases xs with
  | nil => exact hperm.nil_eq
  | cons x rest =>
      obtain rfl : rest = [] := by simpa using hlength
      exact List.singleton_perm.mp hperm

theorem Acceptable.perm {items others : List AttributeItem} (hitems : Acceptable items)
    (hperm : items.Perm others) : Acceptable others := by
  constructor
  · intro item hmem
    exact hitems.known item (hperm.mem_iff.mpr hmem)
  · have hkinds : (kindsOf (marksOf items)).Perm (kindsOf (marksOf others)) :=
      (hperm.filterMap _).filterMap _
    rw [← hkinds.length_eq]
    exact hitems.kinds

/-- Marks that set at most one kind and at most one name may be set in any order. -/
theorem Marks.ofList_eq_of_perm {marks others : List Mark} (hperm : marks.Perm others)
    (hkinds : (kindsOf marks).length ≤ 1) (hnames : (namesOf marks).length ≤ 1) :
    ofList marks = ofList others := by
  have hsameKinds : kindsOf marks = kindsOf others :=
    eq_of_perm_of_length_le_one (hperm.filterMap _) hkinds
  have hsameNames : namesOf marks = namesOf others :=
    eq_of_perm_of_length_le_one (hperm.filterMap _) hnames
  have hskip : .skip ∈ marks ↔ .skip ∈ others := hperm.mem_iff
  simp only [ofList, hsameKinds, hsameNames, hskip]

theorem Field.accepted_iff {rule : Option NamingRule} {field : StructField} :
    (∃ result, ofStructField rule field = .ok result) ↔
      Parenthesised field.attributes ∧ Acceptable (shapeItems field.attributes) := by
  simp only [ofStructField_eq_ok_iff]
  constructor
  · rintro ⟨_, hforms, hitems, _⟩
    exact ⟨hforms, hitems⟩
  · rintro ⟨hforms, hitems⟩
    exact ⟨_, hforms, hitems, rfl⟩

/-- Putting the items of a field in another order, or spreading them over its attributes in
another way, decides nothing.  The field is accepted as before, and that is exactly if its
attributes stand in parentheses, each item sets a mark, and at most one of them sets a kind.
If it is renamed at most once, it also comes out as before. -/
theorem Field.ofStructField_rearranged (rule : Option NamingRule) {field : StructField}
    {attributes : List Attribute} (harranged : Rearranged field.attributes attributes) :
    ((∃ result, ofStructField rule { field with attributes := attributes } = .ok result) ↔
        ∃ result, ofStructField rule field = .ok result) ∧
      ((∃ result, ofStructField rule field = .ok result) ↔
        Parenthesised field.attributes ∧ Acceptable (shapeItems field.attributes)) ∧
      ((namesOf (marksOf (shapeItems field.attributes))).length ≤ 1 →
        ∀ result, ofStructField rule field = .ok result →
          ofStructField rule { field with attributes := attributes } = .ok result) := by
  obtain ⟨hperm, hforms⟩ := harranged
  refine ⟨?_, accepted_iff, ?_⟩
  · rw [accepted_iff, accepted_iff, hforms]
    have hitems : Acceptable (shapeItems attributes) ↔ Acceptable (shapeItems field.attributes) :=
      ⟨fun hitems => hitems.perm hperm.symm, fun hitems => hitems.perm hperm⟩
    rw [hitems]
  · intro hnames result hresult
    rw [ofStructField_eq_ok_iff] at hresult ⊢
    obtain ⟨hparentheses, hitems, rfl⟩ := hresult
    have hmarks : Marks.ofList (marksOf (shapeItems field.attributes)) =
        Marks.ofList (marksOf (shapeItems attributes)) :=
      Marks.ofList_eq_of_perm (hperm.filterMap _) hitems.kinds hnames
    refine ⟨hforms.mp hparentheses, hitems.perm hperm, ?_⟩
    rw [hmarks]
    rfl

/-- The items of one attribute, and the same items in two attributes, the last one first,
with attributes of other names and an empty one between them. -/
theorem Field.ofStructField_rearranged_lines :
    let kind : AttributeItem := .entry "items" none
    let name : AttributeItem := .entry "rename" (some (.string "Lines"))
    let other : Attribute := ⟨"doc", .assigned⟩
    let attributes : List Attribute := [⟨"shape", .list [kind, name]⟩]
    let others : List Attribute := [other, ⟨"shape", .list [name]⟩, ⟨"shape", .list []⟩, other,
      ⟨"shape", .list [kind]⟩]
    let vector : TypeForm := .path false [⟨"Vec", some 1⟩]
    Rearranged attributes others ∧
      ofStructField none ⟨"order_lines", vector, others⟩ =
        .ok (some ⟨"order_lines", "Lines", .items, false⟩) := by
  intro kind name other attributes others vector
  have hforms : Parenthesised attributes ∧ Parenthesised others := by
    simp [Parenthesised, shapeAttributes, attributePath, attributes, others, other]
  have harranged : Rearranged attributes others :=
    ⟨List.Perm.swap name kind [], iff_of_true hforms.1 hforms.2⟩
  have haccepted : ofStructField none ⟨"order_lines", vector, attributes⟩ =
      .ok (some ⟨"order_lines", "Lines", .items, false⟩) := rfl
  exact ⟨harranged, (ofStructField_rearranged none harranged).2.2 (by decide) _ haccepted⟩

end MappingPlan.Derive
