import MappingPlan.Proofs.CompiledOps
import MappingPlan.Proofs.FreshPlan
import MappingPlan.Proofs.Reading
import MappingPlan.Shape.Registry
import MappingPlan.Target

/-!
# Rendering object descriptions

The rendering of an object description is its JSON text, written down by recursion on
the description: braces around the fields, a comma between neighbours, and for an
array one object per element.  Compiling turns a description into a flat list of
instructions in which commas are part of the keys and an array is a begin instruction
that knows the length of what follows.  Running that list writes the rendering.

The proof goes by recursion on the description.  Its invariant is about a compiled
piece in front of any further instructions: the run writes the text of the piece and
then what the further instructions write, for the inputs inside the arrays that are
open at that place.
-/

namespace MappingPlan

section Rendering

variable (reader : FieldReader) (scopes : Scopes) (inputs : Inputs)

mutual

/-- The text of an object.  The elements of the arrays around it are listed from the
innermost outwards. -/
def ObjectSpec.rendering (enclosing : List Instance) : ObjectSpec → String
  | ⟨_, fields⟩ =>
      "\x7b" ++ Text.joinWith "," (FieldSpec.renderings enclosing fields) ++ "\x7d"

def FieldSpec.renderings (enclosing : List Instance) : List FieldSpec → List String
  | [] => []
  | ⟨key, _, node⟩ :: rest =>
      (Json.quoteString key ++ ":" ++ node.rendering enclosing) ::
        FieldSpec.renderings enclosing rest

def FieldNode.rendering (enclosing : List Instance) : FieldNode → String
  | .leaf source type =>
      (source.read reader (scopes.within enclosing) (inputs.within enclosing) type).toJson
  | .object spec => spec.rendering enclosing
  | .array context _ items =>
      let elements :=
        context.readElements reader (scopes.within enclosing) (inputs.within enclosing)
      "[" ++ Text.joinWith "," (elements.map fun element =>
        items.rendering (element :: enclosing)) ++ "]"

end

end Rendering

def ObjectSpec.text (resolver : Resolver) (scopes : Scopes) (inputs : Inputs)
    (spec : ObjectSpec) : String :=
  spec.rendering (.ofResolver resolver) scopes inputs []

/-! ## Texts with separators -/

theorem Text.joinWith_cons (separator text : String) (texts : List String) :
    joinWith separator (text :: texts) =
      text ++ String.join (texts.map (separator ++ ·)) := by
  induction texts generalizing text with
  | nil => simp [joinWith]
  | cons next rest ih =>
      rw [joinWith, ih next, List.map_cons, String.join_cons]
      · simp only [String.append_assoc]
      · simp

theorem join_joinLists (separator : String) (pieces : List (List String)) :
    String.join (joinLists separator pieces) =
      Text.joinWith separator (pieces.map String.join) := by
  induction pieces with
  | nil => rfl
  | cons first rest ih =>
      cases rest with
      | nil => rfl
      | cons second others =>
          have hfirst : joinLists separator (first :: second :: others) =
              first ++ separator :: joinLists separator (second :: others) := by
            simp [joinLists]
          rw [hfirst, String.join_append, String.join_cons, ih]
          simp [Text.joinWith, String.append_assoc]

/-- The texts of the fields of an object from some field on, with the commas that the
first of them asks for. -/
def fieldsText (first : Bool) (texts : List String) : String :=
  if first then Text.joinWith "," texts else String.join (texts.map ("," ++ ·))

theorem fieldsText_cons (first : Bool) (key text : String) (texts : List String) :
    fieldsText first ((Json.quoteString key ++ ":" ++ text) :: texts) =
      propertyText key first ++ text ++ fieldsText false texts := by
  cases first with
  | true => simp [fieldsText, propertyText, Text.joinWith_cons, String.append_assoc]
  | false => simp [fieldsText, propertyText, String.append_assoc]

/-! ## Running compiled pieces -/

theorem joined_beginArray (source : CollectionSource) (body rest : List Op)
    (inputs : Inputs) :
    String.join (writtenPieces (.beginArray source body.length :: body ++ rest) inputs) =
      "[" ++ Text.joinWith "," (((source.items? inputs).getD []).map fun element =>
        String.join (writtenPieces body (inputs.withItem element))) ++
        String.join (writtenPieces rest inputs) := by
  simp [writtenPieces, join_joinLists, Function.comp_def, String.append_assoc]

namespace DocumentPlan

variable {binder : Binder} (scopes : Scopes) (inputs : Inputs)

mutual

theorem joined_opsOfObject (enclosing : List Instance) :
    ∀ (spec : ObjectSpec) (ops : List Op),
      opsOfObject binder (scopes.within enclosing) spec = .ok ops →
      ∀ rest : List Op,
        String.join (writtenPieces (ops ++ rest) (inputs.within enclosing)) =
          spec.rendering (.ofResolver binder.resolver) scopes inputs enclosing ++
            String.join (writtenPieces rest (inputs.within enclosing))
  | ⟨path, fields⟩, ops, hops, rest => by
      simp only [opsOfObject, Outcome.bind_eq_ok_iff, Outcome.pure_eq_ok_iff] at hops
      obtain ⟨body, hbody, rfl⟩ := hops
      have hfields := joined_opsOfFields enclosing true fields body hbody (.endObject :: rest)
      rw [List.append_assoc, List.cons_append, List.singleton_append, writtenPieces,
        String.join_cons, hfields, writtenPieces, String.join_cons,
        ObjectSpec.rendering, fieldsText, if_pos rfl]
      simp only [String.append_assoc]

theorem joined_opsOfFields (enclosing : List Instance) (first : Bool) :
    ∀ (fields : List FieldSpec) (ops : List Op),
      opsOfFields binder (scopes.within enclosing) first fields = .ok ops →
      ∀ rest : List Op,
        String.join (writtenPieces (ops ++ rest) (inputs.within enclosing)) =
          fieldsText first (FieldSpec.renderings (.ofResolver binder.resolver) scopes inputs
              enclosing fields) ++
            String.join (writtenPieces rest (inputs.within enclosing))
  | [], ops, hops, rest => by
      simp only [opsOfFields, Except.ok.injEq] at hops
      subst ops
      cases first <;> simp [FieldSpec.renderings, fieldsText, Text.joinWith]
  | ⟨key, path, node⟩ :: fields, ops, hops, rest => by
      simp only [opsOfFields, Outcome.bind_eq_ok_iff, Outcome.pure_eq_ok_iff] at hops
      obtain ⟨value, hvalue, others, hothers, rfl⟩ := hops
      have hnode := joined_opsOfNode enclosing node path value hvalue (others ++ rest)
      have hrest := joined_opsOfFields enclosing false fields others hothers rest
      rw [List.cons_append, List.cons_append, List.append_assoc, writtenPieces,
        String.join_cons, hnode, hrest, FieldSpec.renderings, fieldsText_cons]
      simp only [String.append_assoc]

theorem joined_opsOfNode (enclosing : List Instance) :
    ∀ (node : FieldNode) (path : ConfigPath) (ops : List Op),
      opsOfNode binder (scopes.within enclosing) path node = .ok ops →
      ∀ rest : List Op,
        String.join (writtenPieces (ops ++ rest) (inputs.within enclosing)) =
          node.rendering (.ofResolver binder.resolver) scopes inputs enclosing ++
            String.join (writtenPieces rest (inputs.within enclosing))
  | .leaf reference type, path, ops, hops, rest => by
      simp only [opsOfNode, Outcome.bind_eq_ok_iff, Outcome.pure_eq_ok_iff] at hops
      obtain ⟨source, hsource, rfl⟩ := hops
      rw [List.singleton_append, writtenPieces, String.join_cons,
        Binder.evaluate_of_scalar hsource, FieldNode.rendering]
  | .object spec, path, ops, hops, rest => by
      rw [opsOfNode] at hops
      rw [joined_opsOfObject enclosing spec ops hops rest, FieldNode.rendering]
  | .array context contextPath items, path, ops, hops, rest => by
      simp only [opsOfNode, Outcome.bind_eq_ok_iff, Outcome.pure_eq_ok_iff] at hops
      obtain ⟨source, hsource, body, hbody, rfl⟩ := hops
      -- The elements have the shape that the body was compiled for, so the recursion
      -- applies to the body inside each of them.
      have helement : ∀ element ∈ (source.items? (inputs.within enclosing)).getD [],
          String.join (writtenPieces body ((inputs.within enclosing).withItem element)) =
            items.rendering (.ofResolver binder.resolver) scopes inputs
              (element :: enclosing) := by
        intro element hmem
        have hshape := CollectionSource.shape_of_mem hmem
        rw [← hshape, ← Scopes.within_cons] at hbody
        have hbodyText := joined_opsOfObject (element :: enclosing) items body hbody []
        rw [List.append_nil, Inputs.within_cons] at hbodyText
        simpa [writtenPieces] using hbodyText
      have helements := Binder.items?_of_collection hsource (inputs.within enclosing)
      rw [List.append_assoc, joined_beginArray, List.map_congr_left helement, helements,
        List.singleton_append, writtenPieces, String.join_cons, FieldNode.rendering]
      simp only [String.append_assoc]

end

variable {scopes} in
theorem render_of_compile {spec : ObjectSpec} {plan : DocumentPlan}
    (hcompile : compile binder scopes spec = .ok plan) :
    plan.render inputs = spec.text binder.resolver scopes inputs := by
  have hops := compile_eq_ok_iff.mp hcompile
  have htext := joined_opsOfObject scopes inputs [] spec plan.ops hops []
  simpa [writtenPieces, Scopes.within, Inputs.within, render, ObjectSpec.text] using htext

end DocumentPlan

/-! ## Every way to compile a description -/

theorem Column.compile_json_eq_ok {binder : Binder} {scopes : Scopes} {spec : ObjectSpec}
    {plan : DocumentPlan} (hcompile : DocumentPlan.compile binder scopes spec = .ok plan)
    {column : ColumnSpec} (hkind : column.kind = .json spec) :
    Column.compile binder scopes column = .ok ⟨column.name, .string, .json plan⟩ := by
  simp only [Column.compile, hkind, hcompile]
  rfl

theorem Compiler.compileDocument_of_compile {compiler : Compiler} {event record : ShapeId}
    {node : Section} {spec : ObjectSpec} {plan : DocumentPlan}
    (hspec : ObjectSpec.ofSection node = .ok spec)
    (hcompile : DocumentPlan.compile compiler.binder ⟨event, record, none⟩ spec = .ok plan) :
    ∃ key, (compiler.compileDocument event record node .empty).1 = .ok ⟨key, plan⟩ := by
  obtain ⟨key, hkey⟩ := exists_documentKey_of_ofSection hspec
  refine ⟨key, compileDocument_empty_eq_ok_iff.mpr ⟨hkey, ?_⟩⟩
  simp only [freshDocument, Outcome.bind_eq_ok_iff]
  exact ⟨spec, hspec, hcompile⟩

theorem IndexTarget.compile_of_parts {compiler : Compiler} {event record : ShapeId}
    {node fields : Section} {index : String} {id : ValueSource} {cache : PlanCache}
    {body : Shared DocumentPlan}
    (hparts : parts compiler event record node = .ok (index, id, fields))
    (hbody : (compiler.compileDocument event record fields cache).1 = .ok body) :
    (compile compiler event record node cache).1 = .ok ⟨index, id, body⟩ := by
  simp only [compile, hparts, hbody]
  rfl

/-- Once a description compiles, its instructions write its rendering, in which the
event and the record are the same at every depth and the item is the element of the
innermost array.  The text is the same where the description is a column, a section of
its own or the body for an index. -/
theorem DocumentPlan.written_eq_rendering {binder : Binder} {scopes : Scopes}
    {spec : ObjectSpec} {plan : DocumentPlan}
    (hcompile : DocumentPlan.compile binder scopes spec = .ok plan) (inputs : Inputs) :
    String.join (writtenPieces plan.ops inputs) = spec.text binder.resolver scopes inputs ∧
      (∀ enclosing : List Instance,
        (inputs.within enclosing).source? .event = some inputs.event ∧
          (inputs.within enclosing).source? .record = some inputs.record ∧
          (inputs.within enclosing).source? .item = enclosing.head?.or inputs.item) ∧
      (∀ column : ColumnSpec, column.kind = .json spec →
        ∃ compiled, Column.compile binder scopes column = .ok compiled ∧
          compiled.evaluate inputs = .string (spec.text binder.resolver scopes inputs)) ∧
      ∀ (compiler : Compiler) (event record : ShapeId), compiler.binder = binder →
        scopes = ⟨event, record, none⟩ →
        (∀ node : Section, ObjectSpec.ofSection node = .ok spec →
          ∃ shared, (compiler.compileDocument event record node .empty).1 = .ok shared ∧
            shared.plan.render inputs = spec.text binder.resolver scopes inputs) ∧
        (∀ (node fields : Section) (index : String) (id : ValueSource),
          IndexTarget.parts compiler event record node = .ok (index, id, fields) →
          ObjectSpec.ofSection fields = .ok spec →
          ∃ target, (IndexTarget.compile compiler event record node .empty).1 = .ok target ∧
            (target.document inputs).body = spec.text binder.resolver scopes inputs) := by
  have hrender := render_of_compile inputs hcompile
  refine ⟨hrender, inputs.source?_within, ?_, ?_⟩
  · intro column hkind
    refine ⟨_, Column.compile_json_eq_ok hcompile hkind, ?_⟩
    simp only [Column.evaluate, hrender]
  · intro compiler event record hbinder hscopes
    subst binder scopes
    refine ⟨?_, ?_⟩
    · intro node hspec
      obtain ⟨key, hshared⟩ := Compiler.compileDocument_of_compile hspec hcompile
      exact ⟨_, hshared, hrender⟩
    · intro node fields index id hparts hspec
      obtain ⟨key, hshared⟩ := Compiler.compileDocument_of_compile hspec hcompile
      exact ⟨_, IndexTarget.compile_of_parts hparts hshared, hrender⟩

namespace Orders

def placed : ShapeId := ⟨"Placed"⟩
def order : ShapeId := ⟨"Order"⟩
def line : ShapeId := ⟨"Line"⟩
def tag : ShapeId := ⟨"Tag"⟩

def registry : Registry :=
  (((Registry.empty.enter placed [⟨"Kind", .scalar .string false, "kind"⟩]).enter order
    [⟨"Id", .scalar .int false, "id"⟩, ⟨"Lines", .items line false, "lines"⟩]).enter line
    [⟨"Sku", .scalar .string false, "sku"⟩, ⟨"Tags", .items tag true, "tags"⟩]).enter tag
    [⟨"Text", .scalar .string false, "text"⟩]

/-- An array in an array, with a field of either element and one of the event. -/
def spec : ObjectSpec :=
  ⟨.root, [
    ⟨"id", ⟨"id"⟩, .leaf (.field .record "Id") (some .string)⟩,
    ⟨"lines", ⟨"lines"⟩, .array (.field .record "Lines") ⟨"lines:context"⟩ ⟨⟨"lines:items"⟩, [
      ⟨"tags", ⟨"lines:items:tags"⟩, .array (.field .item "Tags") ⟨"lines:items:tags:context"⟩
        ⟨⟨"lines:items:tags:items"⟩, [
          ⟨"tag", ⟨"lines:items:tags:items:tag"⟩, .leaf (.field .item "Text") none⟩,
          ⟨"kind", ⟨"lines:items:tags:items:kind"⟩, .leaf (.field .event "Kind") none⟩]⟩⟩,
      ⟨"sku", ⟨"lines:items:sku"⟩, .leaf (.field .item "Sku") none⟩]⟩⟩]⟩

def ops : List Op :=
  let place (shape : ShapeId) (key : String) : Place := ⟨[], shape, key⟩
  [.beginObject,
   .propertyName "id" true,
   .emitValue (.field (.field .record "Id") .record ⟨place order "id", .int, false⟩ (some .string)),
   .propertyName "lines" false,
   .beginArray ⟨.field .record "Lines", .record, ⟨place order "lines", line, false⟩⟩ 13,
   .beginObject,
   .propertyName "tags" true,
   .beginArray ⟨.field .item "Tags", .item, ⟨place line "tags", tag, true⟩⟩ 6,
   .beginObject,
   .propertyName "tag" true,
   .emitValue (.field (.field .item "Text") .item ⟨place tag "text", .string, false⟩ none),
   .propertyName "kind" false,
   .emitValue (.field (.field .event "Kind") .event ⟨place placed "kind", .string, false⟩ none),
   .endObject,
   .endArray,
   .propertyName "sku" false,
   .emitValue (.field (.field .item "Sku") .item ⟨place line "sku", .string, false⟩ none),
   .endObject,
   .endArray,
   .endObject]

def inputs : Inputs where
  event := ⟨placed, ⟨[("kind", .value (.string "new"))]⟩⟩
  record := ⟨order, ⟨[
    ("id", .value (.int 7)),
    ("lines", .items [
      ⟨[("sku", .value (.string "A")), ("tags", .items [⟨[("text", .value (.string "x"))]⟩, ⟨[]⟩])]⟩,
      ⟨[("sku", .value (.string "B"))]⟩])]⟩⟩

end Orders

theorem DocumentPlan.written_eq_rendering_orders :
    DocumentPlan.compile ⟨Orders.registry.resolve, {}⟩ ⟨Orders.placed, Orders.order, none⟩
        Orders.spec = .ok ⟨Orders.ops⟩ ∧
      String.join (writtenPieces Orders.ops Orders.inputs) =
        "\x7b\"id\":\"7\",\"lines\":[" ++
          "\x7b\"tags\":[\x7b\"tag\":\"x\",\"kind\":\"new\"\x7d," ++
          "\x7b\"tag\":\"\",\"kind\":\"new\"\x7d],\"sku\":\"A\"\x7d," ++
          "\x7b\"tags\":[],\"sku\":\"B\"\x7d]\x7d" := by
  have hcompile : DocumentPlan.compile ⟨Orders.registry.resolve, {}⟩
      ⟨Orders.placed, Orders.order, none⟩ Orders.spec = .ok ⟨Orders.ops⟩ := rfl
  refine ⟨hcompile, ?_⟩
  rw [(written_eq_rendering hcompile Orders.inputs).1]
  decide +kernel

end MappingPlan
