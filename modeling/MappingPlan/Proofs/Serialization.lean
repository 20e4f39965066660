import MappingPlan.Proofs.DocumentOutput
import MappingPlan.Target

/-!
# Serialized rows and documents

A value has two encodings.  A document holds a decimal as a number, and it puts the display
texts of guids and instants between quotes as they are.  A serialized row quotes the display
texts of all three, and quoting escapes what needs an escape.

Nothing in these texts does.  They are made of digits, a few letters and a few marks, whatever
the year of an instant, its second or the sign of a decimal.  So the encodings differ in nothing
but the quotes around a decimal, and a cell of a serialized row is the value as a document
writes it, once a decimal has become its display text.

A serialized batch is therefore an output as documents have them, and is read back like one.
-/

namespace MappingPlan

open Json

/-! ## Values -/

theorem Json.isPlain_of_mem_digits {n : Nat} : ∀ c ∈ Text.digits n, IsPlain c :=
  fun _ hmem => isPlain_of_isDigit (NumberText.isDigit_of_mem_digits hmem)

theorem Decimal.isPlain_magnitude (mantissa scale : Nat) :
    ∀ c ∈ magnitude mantissa scale, IsPlain c := by
  unfold magnitude
  split
  · exact isPlain_of_mem_digits
  · intro c hmem
    rcases List.mem_append.mp hmem with hwhole | hfraction
    · exact isPlain_of_mem_digits c hwhole
    · rcases List.mem_cons.mp hfraction with rfl | hplace
      · decide
      · exact isPlain_of_mem_digitsPadded c hplace

theorem Decimal.isPlain_display (value : Decimal) : ∀ c ∈ value.display.toList, IsPlain c := by
  intro c hmem
  rw [display, String.toList_ofList] at hmem
  rcases List.mem_append.mp hmem with hsign | hmagnitude
  · have hminus : c = '-' := by
      split at hsign
      · exact List.mem_singleton.mp hsign
      · cases hsign
    subst hminus
    decide
  · exact isPlain_magnitude _ _ c hmagnitude

namespace Value

/-- What a cell of a serialized row holds: a decimal is its display text there. -/
def cell : Value → Value
  | decimal value => string value.display
  | other => other

theorem serialize_eq_cell (value : Value) : value.serialize = value.cell.toJson := by
  cases value with
  | guid value => exact (toJson_guid value).symm
  | dateTime value => exact (toJson_dateTime value).symm
  | _ => rfl

theorem toJson_cell_decimal (value : Decimal) :
    (decimal value).cell.toJson = enclose (decimal value).toJson :=
  quoteString_of_plain value.isPlain_display

/-- The two encodings of a value are the same text, except that a decimal is in quotes in a
serialized row.  The texts that a document puts between quotes with nothing escaped, those of
guids and instants, have no quote, no backslash and no control character. -/
theorem serialize_eq_toJson :
    (∀ value : Value, value.serialize =
      if value.type? = some .decimal then enclose value.toJson else value.toJson) ∧
    (∀ id : Guid, (guid id).toJson = enclose id.display ∧
      ∀ c ∈ id.display.toList, IsPlain c) ∧
    ∀ instant : Instant, (dateTime instant).toJson = enclose instant.display ∧
      ∀ c ∈ instant.display.toList, IsPlain c := by
  refine ⟨?_, ?_, ?_⟩
  · intro value
    rw [serialize_eq_cell]
    cases value with
    | decimal value => exact toJson_cell_decimal value
    | _ => rfl
  · intro id
    exact ⟨rfl, id.isPlain_display⟩
  · intro instant
    exact ⟨rfl, instant.isPlain_display⟩

/-- A leap second in the year before the year zero, the first instant of a year with five
digits, and a zero that has kept its sign. -/
theorem serialize_eq_toJson_limits :
    (dateTime ⟨⟨-1, 12, 31, by decide, by decide⟩, 23, 59, 60, 500000000,
        by decide, by decide, by decide, by decide⟩).serialize =
      "\"-0001-12-31T23:59:60.500Z\"" ∧
    (dateTime ⟨⟨10000, 1, 1, by decide, by decide⟩, 0, 0, 0, 0,
        by decide, by decide, by decide, by decide⟩).serialize =
      "\"+10000-01-01T00:00:00Z\"" ∧
    (decimal ⟨true, 0, 2, by decide, by decide⟩).serialize = "\"-0.00\"" := by
  refine ⟨?_, ?_, ?_⟩
  · rw [serialize_eq_toJson.1]
    decide +kernel
  · rw [serialize_eq_toJson.1]
    decide +kernel
  · rw [serialize_eq_toJson.1]
    decide +kernel

end Value

/-! ## Lists of outputs -/

section Lists

variable {α : Type} {output : α → Output}

theorem Output.text_array_map {text : α → String}
    (htext : ∀ item, (output item).text = text item) (items : List α) :
    (Output.array (items.map output)).text = jsonList (items.map text) := by
  rw [Output.text, itemTexts_map, List.map_congr_left fun item _ => htext item]
  rfl

theorem Output.tree_array_map {tree : α → Json}
    (htree : ∀ item, (output item).tree = tree item) (items : List α) :
    (Output.array (items.map output)).tree = .array (items.map tree) := by
  have hitems : Output.itemTrees (items.map output) = items.map tree := by
    induction items with
    | nil => rfl
    | cons item rest ih => rw [List.map_cons, Output.itemTrees, htree, ih, List.map_cons]
  rw [Output.tree, hitems]

theorem Json.Strict.array_map {room : Nat} {tree : α → Json}
    (htree : ∀ item, Strict room (tree item)) (items : List α) :
    Strict (room + 1) (.array (items.map tree)) := by
  refine .array ?_
  intro node hmem
  obtain ⟨item, _, rfl⟩ := List.mem_map.mp hmem
  exact htree item

end Lists

/-! ## Batches -/

namespace RowBatch

def output (batch : RowBatch) : Output :=
  .object [
    ("table", .value (.string batch.table)),
    ("columns", .array (batch.columns.map fun name => .value (.string name))),
    ("rows", .array (batch.rows.map fun row => .array (row.map fun value => .value value.cell)))]

/-- A batch as it is read: the rows are lists of cells in the order of the columns. -/
def tree (batch : RowBatch) : Json :=
  .object [
    ("table", .string batch.table),
    ("columns", .array (batch.columns.map .string)),
    ("rows", .array (batch.rows.map fun row => .array (row.map fun value => value.cell.tree)))]

theorem text_output (batch : RowBatch) : batch.output.text = batch.serialize := by
  have hkeys : quoteString "table" = "\"table\"" ∧ quoteString "columns" = "\"columns\"" ∧
      quoteString "rows" = "\"rows\"" := by
    decide +kernel
  have hnames : (Output.array (batch.columns.map fun name => .value (.string name))).text =
      jsonList (batch.columns.map quoteString) :=
    Output.text_array_map (fun name => by rw [Output.text]; rfl) batch.columns
  have hcells (row : List Value) : (Output.array (row.map fun value => .value value.cell)).text =
      jsonList (row.map Value.serialize) :=
    Output.text_array_map (fun value => by rw [Output.text, value.serialize_eq_cell]) row
  rw [output, Output.text, Output.memberTexts, Output.memberTexts, Output.memberTexts,
    Output.memberTexts, hnames, Output.text_array_map hcells, ← String.toList_inj]
  unfold serialize
  simp [hkeys, Text.joinWith, Output.text, Value.toJson]

theorem tree_output (batch : RowBatch) : batch.output.tree = batch.tree := by
  have hcells (row : List Value) : (Output.array (row.map fun value => .value value.cell)).tree =
      .array (row.map fun value => value.cell.tree) :=
    Output.tree_array_map (fun value => by rw [Output.tree]) row
  have hnames : (Output.array (batch.columns.map fun name => .value (.string name))).tree =
      .array (batch.columns.map .string) :=
    Output.tree_array_map (fun name => by rw [Output.tree]; rfl) batch.columns
  rw [output, Output.tree, Output.memberTrees, Output.memberTrees, Output.memberTrees,
    Output.memberTrees, hnames, Output.tree_array_map hcells, Output.tree]
  rfl

theorem strict_batch (batch : RowBatch) : batch.tree.Strict 3 := by
  have hkeys : StrictKeys ["table", "columns", "rows"] := ⟨by decide, by decide⟩
  have hnames : Strict 2 (.array (batch.columns.map .string)) :=
    .array_map (fun name => .string name) batch.columns
  have hcells (row : List Value) : Strict 1 (.array (row.map fun value => value.cell.tree)) :=
    .array_map (fun value => strict_tree value.cell) row
  refine .object hkeys ?_
  simp only [List.forall_mem_cons]
  exact ⟨.string _, hnames, .array_map hcells batch.rows, by simp⟩

/-- A serialized batch is read back with its table, its columns and its rows, in order. -/
theorem readStrict_serialize (batch : RowBatch) :
    readStrict batch.serialize = .ok batch.tree := by
  have hstrict : batch.output.tree.Strict 3 := by
    rw [tree_output]
    exact batch.strict_batch
  rw [← text_output, Output.readStrict_text hstrict (by decide), tree_output]

end RowBatch

/-! ## Documents for an index -/

namespace RenderedDocument

def output (document : RenderedDocument) : Output :=
  .object [
    ("index", .value (.string document.index)),
    ("id", .value document.id.cell),
    ("body", .value (.string document.body))]

theorem text_output (document : RenderedDocument) :
    document.output.text = document.serialize := by
  have hkeys : quoteString "index" = "\"index\"" ∧ quoteString "id" = "\"id\"" ∧
      quoteString "body" = "\"body\"" := by
    decide +kernel
  rw [output, Output.text, Output.memberTexts, Output.memberTexts, Output.memberTexts,
    Output.memberTexts, Output.text, Output.text, Output.text, ← Value.serialize_eq_cell,
    ← String.toList_inj]
  unfold serialize
  simp [hkeys, Text.joinWith, Value.toJson]

/-- A serialized document is read back with its body as a string: the text of the document is
quoted once more. -/
theorem readStrict_serialize (document : RenderedDocument) :
    readStrict document.serialize =
      .ok (.object [
        ("index", .string document.index),
        ("id", document.id.cell.tree),
        ("body", .string document.body)]) := by
  have hkeys : StrictKeys ["index", "id", "body"] := ⟨by decide, by decide⟩
  have hstrict : document.output.tree.Strict 1 := by
    refine .object hkeys ?_
    simp only [Output.memberTrees, Output.tree, List.forall_mem_cons]
    exact ⟨strict_tree _, strict_tree _, strict_tree _, by simp⟩
  rw [← text_output, Output.readStrict_text hstrict (by decide)]
  rfl

end RenderedDocument

end MappingPlan
