import MappingPlan.Proofs.FreshPlan
import MappingPlan.Proofs.Lookup
import MappingPlan.Proofs.MappingGrammar
import MappingPlan.Proofs.OutputReading

/-!
# What written documents are read back as

The output that a tree describes has an object for each object of fields, with the same
keys in the same order, an array with one object for each element, and a value for each
reference.  Its text is what the tree describes, and what a plan compiled from the tree
writes.

A description that stands in a strict document describes strict output.  Its keys are those
of the description, and it is nested no deeper: an array of objects takes two levels, and
so do the object that describes it and the object under `items`.  So whatever the inputs
hold, the text that a plan writes can be read as a document again, and is read as the
output that was described.
-/

namespace MappingPlan

section Meaning

variable (reader : FieldReader) (scopes : Scopes) (inputs : Inputs)

mutual

/-- The output of an object.  The elements of the arrays around it are listed from the
innermost outwards. -/
def Json.objectOutput (enclosing : List Instance) : Json → Output
  | .object members => .object (Json.memberOutputs enclosing members)
  | _ => .object []

def Json.memberOutputs (enclosing : List Instance) :
    List (String × Json) → List (String × Output)
  | [] => []
  | (key, node) :: rest => (key, node.fieldOutput enclosing) :: Json.memberOutputs enclosing rest

/-- The output of the object under the key `items`. -/
def Json.itemOutput (enclosing : List Instance) : List (String × Json) → Output
  | [] => .object []
  | (key, node) :: rest =>
      if key = "items" then node.objectOutput enclosing else Json.itemOutput enclosing rest

def Json.fieldOutput (enclosing : List Instance) : Json → Output
  | .string text =>
      .value (readText reader (scopes.within enclosing) (inputs.within enclosing) none text)
  | .object members =>
      if Json.textAt? "type" (.object members) = some NodeKind.arrayType then
        let elements := ((Json.textAt? "context" (.object members)).map fun context =>
          readElementsText reader (scopes.within enclosing) (inputs.within enclosing)
            context).getD []
        .array (elements.map fun element => Json.itemOutput (element :: enclosing) members)
      else
        match Json.textAt? "source" (.object members) with
        | some source =>
            .value (readText reader (scopes.within enclosing) (inputs.within enclosing)
              (Json.typeNamed (.object members)) source)
        | none => .object (Json.memberOutputs enclosing members)
  | _ => .value .null

end

end Meaning

namespace Json

variable {reader : FieldReader} {scopes : Scopes} {inputs : Inputs} {node : Json}
  {members items : List (String × Json)} {room : Nat}

theorem strict_wholeTree (negative : Bool) (value : Nat) :
    (NumberText.wholeTree negative value).Strict room := by
  rw [NumberText.wholeTree]
  split_ifs
  · exact .integer _
  · exact .fraction
  · exact .integer _
  · exact .fraction

theorem strict_tree (value : Value) : value.tree.Strict room := by
  cases value with
  | null => exact .null
  | string text => exact .string text
  | int value => exact .integer _
  | guid value => exact .string _
  | dateTime value => exact .string _
  | decimal value =>
      rw [Value.tree, Decimal.tree]
      split_ifs
      · exact strict_wholeTree value.negative value.mantissa
      · exact .fraction

variable (reader scopes inputs) in
/-- The output of a field has the text that the field describes, and is as strict as the
field. -/
structure FieldWrites (node : Json) : Prop where
  text : ∀ enclosing, (node.fieldOutput reader scopes inputs enclosing).text =
    node.fieldText reader scopes inputs enclosing
  strict : ∀ enclosing room, node.Strict room →
    (node.fieldOutput reader scopes inputs enclosing).tree.Strict room

/-! ## Objects of fields -/

theorem memberTexts_memberOutputs (enclosing : List Instance)
    (hmembers : ∀ member ∈ members, FieldWrites reader scopes inputs member.2) :
    Output.memberTexts (memberOutputs reader scopes inputs enclosing members) =
      memberTexts reader scopes inputs enclosing members := by
  induction members with
  | nil => rfl
  | cons member rest ih =>
      obtain ⟨key, node⟩ := member
      rw [List.forall_mem_cons] at hmembers
      rw [memberOutputs, Output.memberTexts, memberTexts, hmembers.1.text, ih hmembers.2]

theorem text_object (enclosing : List Instance)
    (hmembers : ∀ member ∈ members, FieldWrites reader scopes inputs member.2) :
    (Output.object (memberOutputs reader scopes inputs enclosing members)).text =
      objectText reader scopes inputs enclosing (.object members) := by
  rw [Output.text, memberTexts_memberOutputs enclosing hmembers, objectText]

theorem keys_memberOutputs (enclosing : List Instance) (members : List (String × Json)) :
    (Output.memberTrees (memberOutputs reader scopes inputs enclosing members)).map Prod.fst =
      members.map Prod.fst := by
  induction members with
  | nil => rfl
  | cons member rest ih =>
      obtain ⟨key, node⟩ := member
      rw [memberOutputs, Output.memberTrees, List.map_cons, List.map_cons, ih]

theorem strict_object (enclosing : List Instance)
    (hmembers : ∀ member ∈ members, FieldWrites reader scopes inputs member.2)
    (hstrict : (object members).Strict room) :
    (Output.object (memberOutputs reader scopes inputs enclosing members)).tree.Strict room := by
  cases hstrict with
  | @object room _ hkeys hvalues =>
      rw [Output.tree]
      refine .object (by rwa [keys_memberOutputs]) ?_
      clear hkeys
      induction members with
      | nil => simp [memberOutputs, Output.memberTrees]
      | cons member rest ih =>
          obtain ⟨key, node⟩ := member
          rw [List.forall_mem_cons] at hmembers hvalues
          rw [memberOutputs, Output.memberTrees, List.forall_mem_cons]
          exact ⟨hmembers.1.strict enclosing _ hvalues.1, ih hmembers.2 hvalues.2⟩

/-! ## Arrays -/

theorem itemOutput_of_lookup (enclosing : List Instance)
    (hitems : members.lookup "items" = some (.object items)) :
    itemOutput reader scopes inputs enclosing members =
        .object (memberOutputs reader scopes inputs enclosing items) ∧
      itemText reader scopes inputs enclosing members =
        objectText reader scopes inputs enclosing (.object items) := by
  induction members with
  | nil => cases hitems
  | cons member rest ih =>
      obtain ⟨key, node⟩ := member
      rw [List.lookup_cons] at hitems
      by_cases hkey : key = "items"
      · have hnode : node = .object items := by simpa [hkey] using hitems
        rw [itemOutput, itemText, if_pos hkey, if_pos hkey, hnode, objectOutput]
        exact ⟨rfl, rfl⟩
      · have hother : ("items" == key) = false := by simpa using Ne.symm hkey
        rw [hother] at hitems
        rw [itemOutput, itemText, if_neg hkey, if_neg hkey]
        exact ih hitems

theorem itemTexts_map {α : Type} (outputs : List α) (f : α → Output) :
    Output.itemTexts (outputs.map f) = outputs.map fun output => (f output).text := by
  induction outputs with
  | nil => rfl
  | cons output rest ih => rw [List.map_cons, Output.itemTexts, List.map_cons, ih]

theorem forall_mem_itemTrees_map {α : Type} {property : Json → Prop} (f : α → Output)
    (hall : ∀ element, property (f element).tree) (elements : List α) :
    ∀ tree ∈ Output.itemTrees (elements.map f), property tree := by
  induction elements with
  | nil => simp [Output.itemTrees]
  | cons element rest ih =>
      rw [List.map_cons, Output.itemTrees]
      exact List.forall_mem_cons.mpr ⟨hall element, ih⟩

theorem FieldWrites.array
    (htype : textAt? "type" (.object members) = some NodeKind.arrayType)
    (hitems : members.lookup "items" = some (.object items))
    (hfields : ∀ member ∈ items, FieldWrites reader scopes inputs member.2) :
    FieldWrites reader scopes inputs (.object members) := by
  have hitem := fun enclosing =>
    @itemOutput_of_lookup reader scopes inputs members items enclosing hitems
  constructor
  · intro enclosing
    rw [fieldOutput, fieldText, if_pos htype, if_pos htype, Output.text, itemTexts_map]
    have htexts : ∀ element : Instance,
        (itemOutput reader scopes inputs (element :: enclosing) members).text =
          itemText reader scopes inputs (element :: enclosing) members := by
      intro element
      rw [(hitem _).1, (hitem _).2, text_object _ hfields]
    simp only [htexts]
  · intro enclosing room hstrict
    cases hstrict with
    | @object room _ hkeys hvalues =>
        have hinner : (object items).Strict room :=
          hvalues _ (mem_of_member?_eq_some hitems)
        rw [fieldOutput, if_pos htype, Output.tree]
        refine .array (forall_mem_itemTrees_map _ (fun element => ?_) _)
        rw [(hitem _).1]
        exact strict_object _ hfields hinner

/-! ## Every description -/

theorem textAt?_of_member?_eq_none {key : String} (hnone : node.member? key = none) :
    node.textAt? key = none := by
  rw [textAt?, hnone, Option.bind_none]

theorem DescribesField.writes (hdescribes : node.DescribesField) :
    FieldWrites reader scopes inputs node := by
  induction hdescribes with
  | reference hwritten =>
      constructor
      · intro enclosing
        rw [fieldOutput, fieldText, Output.text]
      · intro enclosing room _
        rw [fieldOutput, Output.tree]
        exact strict_tree _
  | array htype _ _ hitems _ _ ih => exact .array htype hitems ih
  | @typedLeaf members _ hsource htype =>
      obtain ⟨source, hsource, _⟩ := hsource
      have hnotArray : textAt? "type" (.object members) ≠ some NodeKind.arrayType := by
        rcases htype with hnone | ⟨name, _, hname, hother, _⟩
        · rw [textAt?_of_member?_eq_none hnone]
          simp
        · rw [hname]
          simpa using hother
      constructor
      · intro enclosing
        rw [fieldOutput, fieldText, if_neg hnotArray, if_neg hnotArray, hsource, Output.text]
      · intro enclosing room _
        rw [fieldOutput, if_neg hnotArray, hsource, Output.tree]
        exact strict_tree _
  | @object members htype hsource _ _ ih =>
      have hnotArray : textAt? "type" (.object members) ≠ some NodeKind.arrayType := by
        rw [textAt?_of_member?_eq_none htype]
        simp
      constructor
      · intro enclosing
        rw [fieldOutput, fieldText, if_neg hnotArray, if_neg hnotArray, hsource,
          text_object enclosing ih, objectText]
      · intro enclosing room hstrict
        rw [fieldOutput, if_neg hnotArray, hsource]
        exact strict_object enclosing ih hstrict

theorem DescribesObject.text_output (hdescribes : node.DescribesObject)
    (enclosing : List Instance) :
    (node.objectOutput reader scopes inputs enclosing).text =
      node.objectText reader scopes inputs enclosing := by
  obtain ⟨members, rfl, hmembers⟩ := hdescribes
  exact text_object enclosing fun member hmem => (hmembers member hmem).2.writes

theorem DescribesObject.strict_output (hdescribes : node.DescribesObject)
    (enclosing : List Instance) (hstrict : node.Strict room) :
    (node.objectOutput reader scopes inputs enclosing).tree.Strict room := by
  obtain ⟨members, rfl, hmembers⟩ := hdescribes
  exact strict_object enclosing (fun member hmem => (hmembers member hmem).2.writes) hstrict

end Json

/-! ## Written documents -/

/-- A plan compiled from a section writes the output that the section describes. -/
theorem Compiler.render_of_freshDocument {compiler : Compiler} {event record : ShapeId}
    {node : Section} {plan : DocumentPlan}
    (hplan : compiler.freshDocument event record node = .ok plan) (inputs : Inputs) :
    node.node.DescribesObject ∧
      plan.render inputs = (node.node.objectOutput (.ofResolver compiler.resolver)
        ⟨event, record, none⟩ inputs []).text := by
  rw [freshDocument, Outcome.bind_eq_ok_iff] at hplan
  obtain ⟨spec, hspec, hcompile⟩ := hplan
  have hdescribes : node.node.DescribesObject := ObjectSpec.exists_ofSection_iff.mp ⟨spec, hspec⟩
  refine ⟨hdescribes, ?_⟩
  rw [DocumentPlan.render_of_compile inputs hcompile, ObjectSpec.text,
    ObjectSpec.rendering_of_ofNode _ _ _ [] node.node node.path spec hspec,
    hdescribes.text_output]
  rfl

/-- Whatever the inputs hold, the text that a plan compiled from a section of a document
writes is a document: the one whose tree is the output that the section describes. -/
theorem Document.parse_render {source text : String} {document : Document}
    (hparse : Document.parse source text = .ok document) {keys : List String} {node : Section}
    (hsection : document.rootSection.follow? keys = some node)
    {compiler : Compiler} {event record : ShapeId} {shared : Shared DocumentPlan}
    (hcompile : (compiler.compileDocument event record node .empty).1 = .ok shared)
    (inputs : Inputs) (name : String) :
    Document.parse name (shared.plan.render inputs) =
      .ok ⟨(node.node.objectOutput (.ofResolver compiler.resolver)
        ⟨event, record, none⟩ inputs []).tree⟩ := by
  obtain ⟨_, hplan⟩ := Compiler.compileDocument_empty_eq_ok_iff.mp hcompile
  obtain ⟨hdescribes, hrender⟩ := Compiler.render_of_freshDocument hplan inputs
  have hroot : document.rootSection.node.Strict Json.nestingLimit :=
    Json.strict_of_readStrict (Document.parse_eq_ok_iff.mp hparse)
  obtain ⟨room, hroom, hstrict⟩ := Section.strict_of_follow? hroot hsection
  rw [Document.parse_eq_ok_iff, hrender]
  exact Output.readStrict_text (hdescribes.strict_output [] hstrict) hroom

namespace Invoices

def sent : ShapeId := ⟨"Sent"⟩
def invoice : ShapeId := ⟨"Invoice"⟩
def line : ShapeId := ⟨"Line"⟩

def compiler : Compiler :=
  ⟨(((Registry.empty.enter sent [⟨"Kind", .scalar .string false, "kind"⟩]).enter invoice
    [⟨"Lines", .items line false, "lines"⟩]).enter line
    [⟨"Net", .scalar .decimal true, "net"⟩]).resolve, {}, id⟩

def text : String :=
  "\x7b\"paid\":\x7b\"a \\\"kind\\\"\":\"event.Kind\",\"lines\":" ++
    "\x7b\"type\":\"array\",\"context\":\"record.Lines\"," ++
      "\"items\":\x7b\"net\":\"item.Net\"\x7d\x7d\x7d\x7d"

def paid : Json :=
  .object [
    ("a \"kind\"", .string "event.Kind"),
    ("lines", .object [
      ("type", .string "array"),
      ("context", .string "record.Lines"),
      ("items", .object [("net", .string "item.Net")])])]

def document : Document := ⟨.object [("paid", paid)]⟩

set_option maxRecDepth 1000 in
theorem parse_text : Document.parse "mappings" text = .ok document := by rfl

def price (literal : String) : Datum :=
  .value ((Value.ofLiteral? .decimal literal).getD .null)

/-- An invoice of three lines.  The last line says nothing of its price. -/
def inputs : Inputs where
  event := ⟨sent, ⟨[("kind", .value (.string "say \"no\"\n"))]⟩⟩
  record := ⟨invoice, ⟨[("lines", .items [
    ⟨[("net", price "12.50")]⟩, ⟨[("net", price "-7")]⟩, ⟨[]⟩])]⟩⟩

/-- What the document of the invoice is read back as. -/
def written : Json :=
  .object [
    ("a \"kind\"", .string "say \"no\"\n"),
    ("lines", .array [
      .object [("net", .fraction)], .object [("net", .integer (-7))],
      .object [("net", .null)]])]

end Invoices

theorem Document.parse_render_invoices :
    ∃ shared, (Invoices.compiler.compileDocument Invoices.sent Invoices.invoice
        ⟨⟨"paid"⟩, Invoices.paid⟩ .empty).1 = .ok shared ∧
      Document.parse "invoices" (shared.plan.render Invoices.inputs) = .ok ⟨Invoices.written⟩ := by
  have haccepted : (Invoices.compiler.compileDocument Invoices.sent Invoices.invoice
      ⟨⟨"paid"⟩, Invoices.paid⟩ .empty).1.toBool = true := by decide +kernel
  cases hcompile : (Invoices.compiler.compileDocument Invoices.sent Invoices.invoice
      ⟨⟨"paid"⟩, Invoices.paid⟩ .empty).1 with
  | error error => simp [hcompile, Except.toBool] at haccepted
  | ok shared =>
      have hfollow : Invoices.document.rootSection.follow? ["paid"] =
          some ⟨⟨"paid"⟩, Invoices.paid⟩ := rfl
      refine ⟨shared, rfl, ?_⟩
      rw [parse_render Invoices.parse_text hfollow hcompile Invoices.inputs "invoices"]
      rfl

end MappingPlan
