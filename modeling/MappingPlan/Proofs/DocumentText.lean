import MappingPlan.Proofs.Lookup
import MappingPlan.Proofs.Rendering

/-!
# The text that a document describes

A JSON column is described by a tree of its document.  Its text is given here on that
tree itself, with no description in between: a string is a leaf, an object with the type
`array` repeats what stands under `items`, an object with a text under `source` is a leaf
too, and any other object is written member by member.

A tree that is accepted as a description says the same as its description.
-/

namespace MappingPlan

section Meaning

variable (reader : FieldReader) (scopes : Scopes) (inputs : Inputs)

/-- What the text of a reference reads; a text that is no reference reads nothing. -/
def readText (type : Option ScalarType) (text : String) : Value :=
  match FieldRef.parse text with
  | .ok reference => reference.read reader scopes inputs type
  | .error _ => .null

def readElementsText (text : String) : List Instance :=
  match FieldRef.parse text with
  | .ok reference => reference.readElements reader scopes inputs
  | .error _ => []

/-- The type that an object names, if it names one. -/
def Json.typeNamed (node : Json) : Option ScalarType :=
  (node.textAt? "type").bind ScalarType.ofName?

mutual

def Json.objectText (enclosing : List Instance) : Json → String
  | .object members =>
      "\x7b" ++ Text.joinWith "," (Json.memberTexts enclosing members) ++ "\x7d"
  | _ => ""

def Json.memberTexts (enclosing : List Instance) : List (String × Json) → List String
  | [] => []
  | (key, node) :: rest =>
      (Json.quoteString key ++ ":" ++ node.fieldText enclosing) ::
        Json.memberTexts enclosing rest

/-- The text of the object under the key `items`. -/
def Json.itemText (enclosing : List Instance) : List (String × Json) → String
  | [] => ""
  | (key, node) :: rest =>
      if key = "items" then node.objectText enclosing else Json.itemText enclosing rest

def Json.fieldText (enclosing : List Instance) : Json → String
  | .string text =>
      (readText reader (scopes.within enclosing) (inputs.within enclosing) none text).toJson
  | .object members =>
      if Json.textAt? "type" (.object members) = some NodeKind.arrayType then
        let elements := ((Json.textAt? "context" (.object members)).map fun context =>
          readElementsText reader (scopes.within enclosing) (inputs.within enclosing)
            context).getD []
        "[" ++ Text.joinWith "," (elements.map fun element =>
          Json.itemText (element :: enclosing) members) ++ "]"
      else
        match Json.textAt? "source" (.object members) with
        | some source =>
            (readText reader (scopes.within enclosing) (inputs.within enclosing)
              (Json.typeNamed (.object members)) source).toJson
        | none => "\x7b" ++ Text.joinWith "," (Json.memberTexts enclosing members) ++ "\x7d"
  | _ => ""

end

end Meaning

/-! ## What accepted nodes write -/

theorem FieldRef.ofSection_eq_ok {node : Section} {reference : FieldRef}
    (haccepted : FieldRef.ofSection node = .ok reference) :
    ∃ text, node.node.string? = some text ∧ FieldRef.parse text = .ok reference := by
  simp only [ofSection, Outcome.bind_eq_ok_iff, Section.text_eq_ok_iff] at haccepted
  obtain ⟨text, htext, hparse⟩ := haccepted
  cases hreference : FieldRef.parse text with
  | error fault => simp [hreference, Section.invalid] at hparse
  | ok parsed =>
      simp only [hreference, Except.ok.injEq] at hparse
      exact ⟨text, htext, by rw [hreference, hparse]⟩

/-- The reference under a key that has to be there. -/
theorem FieldRef.ofSection_require_eq_ok {node child : Section} {key : String}
    {reference : FieldRef} (hplain : ConfigPath.hasSeparator key = false)
    (hchild : node.require key = .ok child)
    (haccepted : FieldRef.ofSection child = .ok reference) :
    ∃ text, node.node.textAt? key = some text ∧ FieldRef.parse text = .ok reference := by
  obtain ⟨text, htext, hparse⟩ := FieldRef.ofSection_eq_ok haccepted
  refine ⟨text, ?_, hparse⟩
  rw [← Section.bind_get?_string? hplain, Section.require_eq_ok_iff.mp hchild]
  exact htext

theorem ScalarType.ofSection_eq_ok {node : Section} {type : ScalarType}
    (haccepted : ScalarType.ofSection node = .ok type) :
    node.node.typeNamed = some type := by
  simp only [ofSection, Outcome.bind_eq_ok_iff,
    Section.requireString_eq_ok_iff (by decide : ConfigPath.hasSeparator "type" = false)]
    at haccepted
  obtain ⟨name, hname, htype⟩ := haccepted
  cases hfound : ScalarType.ofName? name with
  | none => simp [hfound] at htype
  | some found =>
      simp only [hfound, Except.ok.injEq] at htype
      rw [Json.typeNamed, hname, Option.bind_some, hfound, htype]

theorem NodeKind.hasSource_eq (node : Section) :
    hasSource node = (node.node.textAt? "source").isSome := by
  rw [hasSource, Section.bind_get?_string? (by decide)]

/-- The members under `type` and `source` tell the kinds apart. -/
theorem NodeKind.ofObject_eq_ok {node : Section} {kind : NodeKind}
    (haccepted : ofObject node = .ok kind) :
    (kind = .array ∧ node.node.textAt? "type" = some arrayType) ∨
      (kind = .typedLeaf ∧ node.node.textAt? "type" ≠ some arrayType) ∨
      (kind = .object ∧ node.node.textAt? "type" ≠ some arrayType ∧
        node.node.textAt? "source" = none) := by
  simp only [ofObject, Outcome.bind_eq_ok_iff] at haccepted
  obtain ⟨type, htype, hkind⟩ := haccepted
  have htext := Section.textAt?_of_optionalString (by decide) htype
  cases type with
  | none =>
      have hnotArray : node.node.textAt? "type" ≠ some arrayType := by simp [htext]
      cases hsource : node.node.textAt? "source" with
      | none =>
          simp only [hasSource_eq, hsource, Option.isSome_none, Bool.false_eq_true,
            if_false] at hkind
          cases hkind
          exact .inr (.inr ⟨rfl, hnotArray, rfl⟩)
      | some source =>
          simp only [hasSource_eq, hsource, Option.isSome_some, if_true] at hkind
          cases hkind
          exact .inr (.inl ⟨rfl, hnotArray⟩)
  | some name =>
      by_cases harray : name = arrayType
      · simp only [if_pos harray] at hkind
        cases hkind
        exact .inl ⟨rfl, by rw [htext, harray]⟩
      · have hnotArray : node.node.textAt? "type" ≠ some arrayType := by
          simpa [htext] using harray
        simp only [if_neg harray] at hkind
        split at hkind
        · cases hkind
          exact .inr (.inl ⟨rfl, hnotArray⟩)
        · cases hkind

theorem FieldNode.ofTypedLeaf_eq_ok {node : Section} {field : FieldNode}
    (haccepted : ofTypedLeaf node = .ok field) :
    ∃ source reference, node.node.textAt? "source" = some source ∧
      FieldRef.parse source = .ok reference ∧
      field = .leaf reference node.node.typeNamed := by
  simp only [ofTypedLeaf, Outcome.bind_eq_ok_iff] at haccepted
  obtain ⟨_, _, child, hchild, reference, hreference, hfield⟩ := haccepted
  obtain ⟨source, hsource, hparse⟩ :=
    FieldRef.ofSection_require_eq_ok (by decide) hchild hreference
  refine ⟨source, reference, hsource, hparse, ?_⟩
  cases htype : node.get? "type" with
  | none =>
      simp only [htype, Outcome.pure_eq_ok_iff] at hfield
      rw [← hfield, Json.typeNamed,
        ← Section.bind_get?_string? (by decide : ConfigPath.hasSeparator "type" = false), htype]
      rfl
  | some found =>
      simp only [htype, Outcome.bind_eq_ok_iff, Outcome.pure_eq_ok_iff] at hfield
      obtain ⟨type, hnamed, rfl⟩ := hfield
      rw [ScalarType.ofSection_eq_ok hnamed]

theorem FieldNode.arrayContext_eq_ok {node : Section} {context : FieldRef}
    {contextPath : ConfigPath} (haccepted : arrayContext node = .ok (context, contextPath)) :
    ∃ text, node.node.textAt? "context" = some text ∧ FieldRef.parse text = .ok context := by
  simp only [arrayContext, Outcome.bind_eq_ok_iff, Outcome.pure_eq_ok_iff,
    Prod.mk.injEq] at haccepted
  obtain ⟨_, _, child, hchild, _, _, reference, hreference, rfl, _⟩ := haccepted
  exact FieldRef.ofSection_require_eq_ok (by decide) hchild hreference

/-! ## Descriptions and trees -/

variable (reader : FieldReader) (scopes : Scopes) (inputs : Inputs)

mutual

theorem ObjectSpec.rendering_of_ofNode (enclosing : List Instance) :
    ∀ (node : Json) (path : ConfigPath) (spec : ObjectSpec),
      ObjectSpec.ofNode path node = .ok spec →
      spec.rendering reader scopes inputs enclosing =
        node.objectText reader scopes inputs enclosing
  | .object members, path, spec, haccepted => by
      simp only [ObjectSpec.ofNode, ObjectSpec.assemble, Outcome.bind_eq_ok_iff,
        Outcome.pure_eq_ok_iff] at haccepted
      obtain ⟨_, _, fields, hfields, rfl⟩ := haccepted
      rw [ObjectSpec.rendering, Json.objectText,
        FieldSpec.renderings_of_ofMembers enclosing members path fields hfields]

theorem ObjectSpec.rendering_of_ofItems (enclosing : List Instance) :
    ∀ (members : List (String × Json)) (path : ConfigPath) (spec : ObjectSpec),
      ObjectSpec.ofItems path members = .ok spec →
      spec.rendering reader scopes inputs enclosing =
        Json.itemText reader scopes inputs enclosing members
  | (key, node) :: rest, path, spec, haccepted => by
      by_cases hkey : key = "items"
      · simp only [ObjectSpec.ofItems, if_pos hkey] at haccepted
        rw [Json.itemText, if_pos hkey]
        exact ObjectSpec.rendering_of_ofNode enclosing node _ spec haccepted
      · simp only [ObjectSpec.ofItems, if_neg hkey] at haccepted
        rw [Json.itemText, if_neg hkey]
        exact ObjectSpec.rendering_of_ofItems enclosing rest path spec haccepted

theorem FieldSpec.renderings_of_ofMembers (enclosing : List Instance) :
    ∀ (members : List (String × Json)) (path : ConfigPath) (fields : List FieldSpec),
      FieldSpec.ofMembers path members = .ok fields →
      FieldSpec.renderings reader scopes inputs enclosing fields =
        Json.memberTexts reader scopes inputs enclosing members
  | [], path, fields, haccepted => by
      simp only [FieldSpec.ofMembers, Except.ok.injEq] at haccepted
      subst fields
      rfl
  | (key, node) :: rest, path, fields, haccepted => by
      simp only [FieldSpec.ofMembers, Outcome.bind_eq_ok_iff,
        Outcome.pure_eq_ok_iff] at haccepted
      obtain ⟨field, hfield, others, hothers, rfl⟩ := haccepted
      rw [FieldSpec.renderings, Json.memberTexts,
        FieldNode.rendering_of_ofNode enclosing node _ field hfield,
        FieldSpec.renderings_of_ofMembers enclosing rest path others hothers]

theorem FieldNode.rendering_of_ofNode (enclosing : List Instance) :
    ∀ (node : Json) (path : ConfigPath) (field : FieldNode),
      FieldNode.ofNode path node = .ok field →
      field.rendering reader scopes inputs enclosing =
        node.fieldText reader scopes inputs enclosing
  | .string text, path, field, haccepted => by
      simp only [FieldNode.ofNode, Outcome.bind_eq_ok_iff, Outcome.pure_eq_ok_iff] at haccepted
      obtain ⟨reference, hreference, rfl⟩ := haccepted
      obtain ⟨_, hstring, hparse⟩ := FieldRef.ofSection_eq_ok hreference
      cases hstring
      rw [FieldNode.rendering, Json.fieldText, readText, hparse]
  | .object members, path, field, haccepted => by
      simp only [FieldNode.ofNode, Outcome.bind_eq_ok_iff] at haccepted
      obtain ⟨kind, hkind, haccepted⟩ := haccepted
      rw [Json.fieldText]
      rcases NodeKind.ofObject_eq_ok hkind with
        ⟨rfl, harray⟩ | ⟨rfl, hnotArray⟩ | ⟨rfl, hnotArray, hnoSource⟩
      · simp only [Outcome.bind_eq_ok_iff, Outcome.pure_eq_ok_iff] at haccepted
        obtain ⟨⟨context, contextPath⟩, hcontext, items, hitems, rfl⟩ := haccepted
        obtain ⟨text, htext, hparse⟩ := FieldNode.arrayContext_eq_ok hcontext
        have hitem : ∀ element : Instance,
            items.rendering reader scopes inputs (element :: enclosing) =
              Json.itemText reader scopes inputs (element :: enclosing) members :=
          fun element =>
            ObjectSpec.rendering_of_ofItems (element :: enclosing) members path items hitems
        rw [if_pos harray, FieldNode.rendering, htext]
        simp only [Option.map_some, Option.getD_some, readElementsText, hparse, hitem]
      · obtain ⟨source, reference, hsource, hparse, rfl⟩ :=
          FieldNode.ofTypedLeaf_eq_ok haccepted
        rw [if_neg hnotArray, hsource, FieldNode.rendering]
        simp only [readText, hparse]
      · simp only [ObjectSpec.assemble, Outcome.bind_eq_ok_iff,
          Outcome.pure_eq_ok_iff] at haccepted
        obtain ⟨_, ⟨_, _, fields, hfields, rfl⟩, rfl⟩ := haccepted
        rw [if_neg hnotArray, hnoSource, FieldNode.rendering, ObjectSpec.rendering,
          FieldSpec.renderings_of_ofMembers enclosing members path fields hfields]

end

end MappingPlan
