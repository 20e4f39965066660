import MappingPlan.Proofs.RowMeaning

/-!
# The grammar of mappings

Which trees are mappings can be said without reading them.  A field of a description is a
string that writes a reference, an object with the type `array`, an object with a text
under `source`, or an object of fields that has neither a `type` nor a text under `source`.
A row mapping holds columns, and a column is one reference with its type or a description
of its own.

Reading accepts these trees and no others.  What it accepts it keeps: the fields and the
columns are the members with their keys, each reference displays as the text that it was
read from, and every path leads to the node that it stands for.
-/

namespace MappingPlan

/-! ## The grammar -/

def FieldRef.IsWritten (text : String) : Prop :=
  ∃ reference, FieldRef.parse text = .ok reference

namespace Json

def HasReference (key : String) (node : Json) : Prop :=
  ∃ text, node.textAt? key = some text ∧ FieldRef.IsWritten text

def KeysAmong (allowed : List String) (members : List (String × Json)) : Prop :=
  ∀ member ∈ members, member.1 ∈ allowed

inductive DescribesField : Json → Prop where
  | reference {text : String} (hwritten : FieldRef.IsWritten text) :
      DescribesField (.string text)
  | array {members items : List (String × Json)}
      (htype : textAt? "type" (.object members) = some NodeKind.arrayType)
      (hkeys : KeysAmong ["type", "context", "items"] members)
      (hcontext : HasReference "context" (.object members))
      (hitems : member? "items" (.object members) = some (.object items))
      (hplain : ∀ member ∈ items, ConfigPath.hasSeparator member.1 = false)
      (hfields : ∀ member ∈ items, DescribesField member.2) :
      DescribesField (.object members)
  | typedLeaf {members : List (String × Json)}
      (hkeys : KeysAmong ["source", "type"] members)
      (hsource : HasReference "source" (.object members))
      (htype : member? "type" (.object members) = none ∨
        ∃ name type, textAt? "type" (.object members) = some name ∧
          name ≠ NodeKind.arrayType ∧ ScalarType.ofName? name = some type) :
      DescribesField (.object members)
  | object {members : List (String × Json)}
      (htype : member? "type" (.object members) = none)
      (hsource : textAt? "source" (.object members) = none)
      (hplain : ∀ member ∈ members, ConfigPath.hasSeparator member.1 = false)
      (hfields : ∀ member ∈ members, DescribesField member.2) :
      DescribesField (.object members)

/-- An object of fields.  The path separator in a key would make its path look nested. -/
def DescribesObject (node : Json) : Prop :=
  ∃ members, node = .object members ∧
    ∀ member ∈ members, ConfigPath.hasSeparator member.1 = false ∧ member.2.DescribesField

/-- Any other order than a whole number of 64 bits is refused. -/
def OrderIsInteger (node : Json) : Prop :=
  ∀ order, node.member? "order" = some order → ∃ value, order.int64? = some value

inductive DescribesColumn : Json → Prop where
  | scalar {members : List (String × Json)}
      (hformat : member? "format" (.object members) = none)
      (hkeys : KeysAmong ["source", "type", "order"] members)
      (hsource : HasReference "source" (.object members))
      (htype : ∃ type, typeNamed (.object members) = some type)
      (horder : OrderIsInteger (.object members)) :
      DescribesColumn (.object members)
  | document {members : List (String × Json)} {fields : Json}
      (hformat : textAt? "format" (.object members) = some OutputFormat.json.name)
      (hkeys : KeysAmong ["format", "fields", "order"] members)
      (hfields : member? "fields" (.object members) = some fields)
      (hobject : fields.DescribesObject)
      (horder : OrderIsInteger (.object members)) :
      DescribesColumn (.object members)

def DescribesRows (node : Json) : Prop :=
  node.textAt? "format" = some OutputFormat.rows.name ∧
    ∃ members, node.member? "items" = some (.object members) ∧
      ∀ member ∈ members, ConfigPath.hasSeparator member.1 = false ∧ member.2.DescribesColumn

end Json

/-! ## What sections answer -/

theorem Json.textAt?_eq_some_iff {key text : String} {node : Json} :
    node.textAt? key = some text ↔ node.member? key = some (.string text) := by
  unfold textAt?
  cases hmember : node.member? key with
  | none => simp
  | some tree => cases tree <;> simp [string?]

namespace Section

variable {node : Section} {key : String}

theorem optionalString_eq_ok_iff (hplain : ConfigPath.hasSeparator key = false)
    {text : Option String} :
    node.optionalString key = .ok text ↔
      node.node.member? key = text.map Json.string := by
  unfold optionalString
  rw [get?_of_plain hplain]
  cases hmember : node.node.member? key with
  | none => cases text <;> simp
  | some tree =>
      cases tree <;> cases text <;>
        simp [Section.text, Json.string?, invalid, Except.map, eq_comm]

theorem checkKeys_object_iff {path : ConfigPath} {members : List (String × Json)}
    {allowed : List String}
    (hplain : ∀ key ∈ allowed, ConfigPath.hasSeparator key = false) :
    checkKeys ⟨path, .object members⟩ allowed = .ok () ↔ Json.KeysAmong allowed members := by
  rw [checkKeys_eq_ok_iff]
  constructor
  · rintro ⟨_, hmembers, hall⟩ member hmem
    cases hmembers
    exact (hall member hmem).2
  · intro hkeys
    exact ⟨members, rfl, fun member hmem =>
      ⟨hplain _ (hkeys member hmem), hkeys member hmem⟩⟩

theorem exists_children_iff {path : ConfigPath} {members : List (String × Json)} :
    (∃ listed, Section.children ⟨path, .object members⟩ = .ok listed) ↔
      ∀ member ∈ members, ConfigPath.hasSeparator member.1 = false := by
  simp only [children_eq_ok_iff, Json.members?, Option.some.injEq, exists_eq_left']
  constructor
  · rintro ⟨_, hplain, _⟩
    exact hplain
  · intro hplain
    exact ⟨_, hplain, rfl⟩

/-- A reference under a key is found exactly where the tree has one. -/
theorem exists_reference_iff (hplain : ConfigPath.hasSeparator key = false) :
    (∃ child, node.require key = .ok child ∧
      ∃ reference, FieldRef.ofSection child = .ok reference) ↔
      node.node.HasReference key := by
  constructor
  · rintro ⟨child, hchild, reference, hreference⟩
    obtain ⟨text, htext, hparse⟩ :=
      FieldRef.ofSection_require_eq_ok hplain hchild hreference
    exact ⟨text, htext, reference, hparse⟩
  · rintro ⟨text, htext, reference, hparse⟩
    rw [Json.textAt?_eq_some_iff] at htext
    have hget : node.get? key = some ⟨node.path.child key, .string text⟩ := by
      rw [get?_of_plain hplain, htext, Option.map_some]
    refine ⟨_, require_eq_ok_iff.mpr hget, reference, ?_⟩
    simp [FieldRef.ofSection, Section.text, Json.string?, hparse, Outcome.ok_bind]

end Section

theorem ScalarType.exists_ofSection_iff {node : Section} :
    (∃ type, ScalarType.ofSection node = .ok type) ↔
      ∃ type, node.node.typeNamed = some type := by
  constructor
  · rintro ⟨type, htype⟩
    exact ⟨type, ofSection_eq_ok htype⟩
  · rintro ⟨type, htype⟩
    rw [Json.typeNamed, Option.bind_eq_some_iff] at htype
    obtain ⟨name, hname, htype⟩ := htype
    have hrequire : node.requireString "type" = .ok name :=
      (Section.requireString_eq_ok_iff (by decide)).mpr hname
    exact ⟨type, by simp [ofSection, hrequire, Outcome.ok_bind, htype]⟩

theorem NodeKind.ofObject_eq_ok_iff {node : Section} {kind : NodeKind} :
    ofObject node = .ok kind ↔
      match kind with
      | .array => node.node.textAt? "type" = some arrayType
      | .typedLeaf =>
          (node.node.textAt? "source").isSome ∧
            (node.node.member? "type" = none ∨
              ∃ name, node.node.textAt? "type" = some name ∧ name ≠ arrayType)
      | .object =>
          node.node.textAt? "source" = none ∧ node.node.member? "type" = none := by
  have hoptional : ∀ text, node.optionalString "type" = .ok text ↔
      node.node.member? "type" = text.map Json.string :=
    fun _ => Section.optionalString_eq_ok_iff (by decide)
  simp only [ofObject, Outcome.bind_eq_ok_iff, hoptional, hasSource_eq, Json.textAt?_eq_some_iff]
  constructor
  · rintro ⟨text, htext, hkind⟩
    cases text with
    | none =>
        cases hsource : node.node.textAt? "source" <;> simp [hsource] at hkind <;>
          subst hkind <;> simp [htext]
    | some name =>
        by_cases harray : name = arrayType
        · simp [harray] at hkind
          subst hkind
          simp [htext, harray]
        · cases hsource : node.node.textAt? "source" <;> simp [harray, hsource] at hkind
          subst hkind
          simp [htext, harray]
  · intro hkind
    cases kind with
    | array => exact ⟨some arrayType, hkind, by simp⟩
    | object => exact ⟨none, hkind.2, by simp [hkind.1]⟩
    | typedLeaf =>
        obtain ⟨hsource, habsent | ⟨name, hname, harray⟩⟩ := hkind
        · exact ⟨none, habsent, by simp [hsource]⟩
        · exact ⟨some name, hname, by simp [harray, hsource]⟩

/-! ## Descriptions -/

theorem FieldSpec.ofMembers_eq_mapM (path : ConfigPath) (members : List (String × Json)) :
    ofMembers path members = members.mapM fun member =>
      (FieldNode.ofNode (path.child member.1) member.2).map fun node =>
        ⟨member.1, path.child member.1, node⟩ := by
  induction members with
  | nil => rfl
  | cons member rest ih =>
      obtain ⟨key, node⟩ := member
      rw [List.mapM_cons, ← ih, ofMembers]
      cases FieldNode.ofNode (path.child key) node <;> rfl

theorem ObjectSpec.ofItems_eq (path : ConfigPath) (members : List (String × Json)) :
    ofItems path members =
      match Json.member? "items" (.object members) with
      | some items => ofNode (path.child "items") items
      | none => .error (.missingKey path "items") := by
  rw [Json.member?]
  induction members with
  | nil => rfl
  | cons member rest ih =>
      obtain ⟨key, node⟩ := member
      by_cases hkey : key = "items"
      · simp [ofItems, hkey]
      · have hother : ("items" == key) = false := by simpa using Ne.symm hkey
        rw [ofItems, if_neg hkey, ih, List.lookup_cons, hother]

theorem ObjectSpec.exists_assemble_iff {path : ConfigPath} {members : List (String × Json)} :
    (∃ spec, assemble ⟨path, .object members⟩ (FieldSpec.ofMembers path members) = .ok spec) ↔
      ∀ member ∈ members, ConfigPath.hasSeparator member.1 = false ∧
        ∃ field, FieldNode.ofNode (path.child member.1) member.2 = .ok field := by
  have hfields : (∃ fields, FieldSpec.ofMembers path members = .ok fields) ↔
      ∀ member ∈ members,
        ∃ field, FieldNode.ofNode (path.child member.1) member.2 = .ok field := by
    rw [FieldSpec.ofMembers_eq_mapM, Outcome.exists_mapM_eq_ok_iff]
    simp only [Outcome.map_eq_ok_iff, exists_comm (α := FieldSpec), exists_and_left,
      exists_eq', and_true]
  have hkeys := @Section.exists_children_iff path members
  rw [forall₂_and, ← hfields, ← hkeys]
  simp only [assemble, Outcome.bind_eq_ok_iff, Outcome.pure_eq_ok_iff]
  constructor
  · rintro ⟨_, listed, hlisted, fields, hread, _⟩
    exact ⟨⟨listed, hlisted⟩, fields, hread⟩
  · rintro ⟨⟨listed, hlisted⟩, fields, hread⟩
    exact ⟨_, listed, hlisted, fields, hread, rfl⟩

namespace FieldNode

variable {path : ConfigPath} {members : List (String × Json)}

theorem exists_ofTypedLeaf_iff :
    (∃ field, ofTypedLeaf ⟨path, .object members⟩ = .ok field) ↔
      Json.KeysAmong ["source", "type"] members ∧
        Json.HasReference "source" (.object members) ∧
        (Json.member? "type" (.object members) = none ∨
          ∃ type, Json.typeNamed (.object members) = some type) := by
  have hkeys := @Section.checkKeys_object_iff path members ["source", "type"] (by decide)
  have hsource := @Section.exists_reference_iff ⟨path, .object members⟩ "source" (by decide)
  have htype := @ScalarType.exists_ofSection_iff ⟨path, .object members⟩
  rw [← hkeys, ← hsource, ← htype]
  simp only [ofTypedLeaf, Outcome.bind_eq_ok_iff,
    Section.get?_of_plain (by decide : ConfigPath.hasSeparator "type" = false)]
  cases hmember : Json.member? "type" (.object members) with
  | none =>
      simp only [Option.map_none, Outcome.pure_eq_ok_iff, true_or, and_true]
      constructor
      · rintro ⟨_, _, hchecked, child, hchild, reference, hreference, _⟩
        exact ⟨hchecked, child, hchild, reference, hreference⟩
      · rintro ⟨hchecked, child, hchild, reference, hreference⟩
        exact ⟨_, _, hchecked, child, hchild, reference, hreference, rfl⟩
  | some tree =>
      simp only [Option.map_some, Outcome.bind_eq_ok_iff, Outcome.pure_eq_ok_iff, reduceCtorEq,
        false_or]
      constructor
      · rintro ⟨_, _, hchecked, child, hchild, reference, hreference, type, hnamed, _⟩
        exact ⟨hchecked, ⟨child, hchild, reference, hreference⟩, type, hnamed⟩
      · rintro ⟨hchecked, ⟨child, hchild, reference, hreference⟩, type, hnamed⟩
        exact ⟨_, _, hchecked, child, hchild, reference, hreference, type, hnamed, rfl⟩

theorem exists_arrayContext_iff :
    (∃ found, arrayContext ⟨path, .object members⟩ = .ok found) ↔
      Json.KeysAmong ["type", "context", "items"] members ∧
        Json.HasReference "context" (.object members) ∧
        ∃ items, Json.member? "items" (.object members) = some items := by
  have hkeys :=
    @Section.checkKeys_object_iff path members ["type", "context", "items"] (by decide)
  have hcontext := @Section.exists_reference_iff ⟨path, .object members⟩ "context" (by decide)
  rw [← hkeys, ← hcontext]
  simp only [arrayContext, Outcome.bind_eq_ok_iff, Outcome.pure_eq_ok_iff,
    Section.require_eq_ok_iff,
    Section.get?_of_plain (by decide : ConfigPath.hasSeparator "items" = false),
    Option.map_eq_some_iff]
  constructor
  · rintro ⟨_, _, hchecked, child, hchild, _, ⟨items, hitems, _⟩, reference, hreference, _⟩
    exact ⟨hchecked, ⟨child, hchild, reference, hreference⟩, items, hitems⟩
  · rintro ⟨hchecked, ⟨child, hchild, reference, hreference⟩, items, hitems⟩
    exact ⟨_, _, hchecked, child, hchild, _, ⟨items, hitems, rfl⟩, reference, hreference, rfl⟩

theorem exists_ofNode_string_iff {text : String} :
    (∃ field, ofNode path (.string text) = .ok field) ↔
      (Json.string text).DescribesField := by
  simp only [ofNode, Outcome.bind_eq_ok_iff, Outcome.pure_eq_ok_iff]
  constructor
  · rintro ⟨_, reference, hread, _⟩
    obtain ⟨_, htext, hparse⟩ := FieldRef.ofSection_eq_ok hread
    cases htext
    exact .reference ⟨reference, hparse⟩
  · intro hdescribes
    cases hdescribes with
    | reference hwritten =>
        obtain ⟨reference, hparse⟩ := hwritten
        have hread : FieldRef.ofSection ⟨path, .string text⟩ = .ok reference := by
          simp [FieldRef.ofSection, Section.text, Json.string?, hparse, Outcome.ok_bind]
        exact ⟨_, reference, hread, rfl⟩

section Smaller

variable (hread : ∀ tree, sizeOf tree < sizeOf (Json.object members) → ∀ path,
  (∃ field, ofNode path tree = .ok field) ↔ tree.DescribesField)

include hread

/-- Objects of fields, once the fields are known to be read by the grammar. -/
theorem exists_assemble_iff_describes {fields : List (String × Json)}
    (hsize : sizeOf (Json.object fields) ≤ sizeOf (Json.object members)) (path : ConfigPath) :
    (∃ spec, ObjectSpec.assemble ⟨path, .object fields⟩
        (FieldSpec.ofMembers path fields) = .ok spec) ↔
      ∀ member ∈ fields, ConfigPath.hasSeparator member.1 = false ∧
        member.2.DescribesField := by
  rw [ObjectSpec.exists_assemble_iff]
  refine forall₂_congr fun member hmem => and_congr_right fun _ => hread _ ?_ _
  have hsmaller : sizeOf member.2 < sizeOf (Json.object fields) :=
    @Json.sizeOf_lt_of_mem_members fields member.1 member.2 hmem
  omega

theorem exists_ofItems_iff (path : ConfigPath) :
    (∃ items, ObjectSpec.ofItems path members = .ok items) ↔
      ∃ items, Json.member? "items" (.object members) = some (.object items) ∧
        ∀ member ∈ items, ConfigPath.hasSeparator member.1 = false ∧
          member.2.DescribesField := by
  rw [ObjectSpec.ofItems_eq]
  cases hitems : Json.member? "items" (.object members) with
  | none => simp
  | some tree =>
      have hsmaller := Json.sizeOf_member?_lt hitems
      cases tree with
      | object items =>
          have hobject :=
            exists_assemble_iff_describes hread (Nat.le_of_lt hsmaller) (path.child "items")
          simp only [ObjectSpec.ofNode, hobject, Option.some.injEq, Json.object.injEq,
            exists_eq_left']
      | _ => simp [ObjectSpec.ofNode]

theorem exists_ofNode_object_iff (path : ConfigPath) :
    (∃ field, ofNode path (.object members) = .ok field) ↔
      (Json.object members).DescribesField := by
  have hitems := exists_ofItems_iff hread path
  have hobject := exists_assemble_iff_describes hread (Nat.le_refl _) path
  have hcontext := @exists_arrayContext_iff path members
  have hleaf := @exists_ofTypedLeaf_iff path members
  simp only [ofNode, Outcome.bind_eq_ok_iff, NodeKind.ofObject_eq_ok_iff]
  constructor
  · rintro ⟨field, kind, hkind, haccepted⟩
    cases kind with
    | array =>
        simp only [Outcome.bind_eq_ok_iff] at haccepted
        obtain ⟨found, hfound, spec, hspec, _⟩ := haccepted
        obtain ⟨hkeys, href, _⟩ := hcontext.mp ⟨found, hfound⟩
        obtain ⟨items, hmember, hfields⟩ := hitems.mp ⟨spec, hspec⟩
        exact .array hkind hkeys href hmember (fun member hmem => (hfields member hmem).1)
          fun member hmem => (hfields member hmem).2
    | typedLeaf =>
        obtain ⟨hkeys, href, htype⟩ := hleaf.mp ⟨field, haccepted⟩
        refine .typedLeaf hkeys href ?_
        rcases hkind.2 with habsent | ⟨name, hname, hother⟩
        · exact .inl habsent
        · have hpresent := Json.textAt?_eq_some_iff.mp hname
          rcases htype with habsent | ⟨type, htype⟩
          · exact .inl habsent
          · rw [Json.typeNamed, hname, Option.bind_some] at htype
            exact .inr ⟨name, type, hname, hother, htype⟩
    | object =>
        simp only [Outcome.bind_eq_ok_iff] at haccepted
        obtain ⟨spec, hspec, _⟩ := haccepted
        have hfields := hobject.mp ⟨spec, hspec⟩
        exact .object hkind.2 hkind.1 (fun member hmem => (hfields member hmem).1)
          fun member hmem => (hfields member hmem).2
  · intro hdescribes
    cases hdescribes with
    | array htype hkeys href hmember hplain hfields =>
        obtain ⟨found, hfound⟩ := hcontext.mpr ⟨hkeys, href, _, hmember⟩
        obtain ⟨spec, hspec⟩ := hitems.mpr ⟨_, hmember, fun member hmem =>
          ⟨hplain member hmem, hfields member hmem⟩⟩
        refine ⟨.array found.1 found.2 spec, .array, htype, ?_⟩
        simp only [Outcome.bind_eq_ok_iff]
        exact ⟨found, hfound, spec, hspec, rfl⟩
    | typedLeaf hkeys href htype =>
        have hsource : (Json.textAt? "source" (.object members)).isSome := by
          obtain ⟨source, hsource, _⟩ := href
          simp [hsource]
        rcases htype with habsent | ⟨name, type, hname, hother, htype⟩
        · obtain ⟨field, hfield⟩ := hleaf.mpr ⟨hkeys, href, .inl habsent⟩
          exact ⟨field, .typedLeaf, ⟨hsource, .inl habsent⟩, hfield⟩
        · have hnamed : Json.typeNamed (.object members) = some type := by
            rw [Json.typeNamed, hname, Option.bind_some, htype]
          obtain ⟨field, hfield⟩ := hleaf.mpr ⟨hkeys, href, .inr ⟨type, hnamed⟩⟩
          exact ⟨field, .typedLeaf, ⟨hsource, .inr ⟨name, hname, hother⟩⟩, hfield⟩
    | object htype hsource hplain hfields =>
        obtain ⟨spec, hspec⟩ := hobject.mpr fun member hmem =>
          ⟨hplain member hmem, hfields member hmem⟩
        refine ⟨.object spec, .object, ⟨hsource, htype⟩, ?_⟩
        simp only [Outcome.bind_eq_ok_iff]
        exact ⟨spec, hspec, rfl⟩

end Smaller

theorem exists_ofNode_iff (node : Json) (path : ConfigPath) :
    (∃ field, ofNode path node = .ok field) ↔ node.DescribesField := by
  induction hsize : sizeOf node using Nat.strongRecOn generalizing node path with
  | ind size ih =>
      subst hsize
      cases node with
      | string text => exact exists_ofNode_string_iff
      | object members =>
          exact exists_ofNode_object_iff
            (fun tree hsmaller path => ih _ hsmaller tree path rfl) path
      | _ =>
          constructor
          · rintro ⟨field, haccepted⟩
            cases haccepted
          · intro hdescribes
            cases hdescribes

end FieldNode

theorem ObjectSpec.exists_ofSection_iff {node : Section} :
    (∃ spec, ofSection node = .ok spec) ↔ node.node.DescribesObject := by
  obtain ⟨path, tree⟩ := node
  cases tree with
  | object members =>
      simp only [ofSection, ofNode, exists_assemble_iff, FieldNode.exists_ofNode_iff,
        Json.DescribesObject, Json.object.injEq, exists_eq_left']
  | _ => simp [ofSection, ofNode, Json.DescribesObject]

/-! ## Columns and rows -/

theorem OutputFormat.ofName?_eq_some_iff {name : String} {format : OutputFormat} :
    ofName? name = some format ↔ name = format.name := by
  constructor
  · intro hname
    have hfound := List.find?_some hname
    exact (beq_iff_eq.mp hfound).symm
  · rintro rfl
    exact ofName?_name format

theorem OutputFormat.requireRows_eq_ok_iff {node : Section} :
    requireRows node = .ok () ↔ node.node.textAt? "format" = some rows.name := by
  have hoptional : ∀ text, node.optionalString "format" = .ok text ↔
      node.node.member? "format" = text.map Json.string :=
    fun _ => Section.optionalString_eq_ok_iff (by decide)
  simp only [requireRows, ofSection, Outcome.bind_eq_ok_iff, hoptional,
    Json.textAt?_eq_some_iff]
  constructor
  · rintro ⟨format, ⟨text, htext, hformat⟩, hrows⟩
    cases text with
    | none => cases hformat
    | some name =>
        cases hfound : ofName? name with
        | none => simp [hfound] at hformat
        | some found =>
            simp only [hfound, Except.ok.injEq] at hformat
            subst found
            cases format with
            | json => cases hrows
            | rows => rw [htext, ofName?_eq_some_iff.mp hfound, Option.map_some]
  · intro hformat
    exact ⟨.rows, ⟨some rows.name, hformat, by simp only [ofName?_name]⟩, rfl⟩

namespace ColumnSpec

theorem orderOfSection_eq_ok_iff {node : Section} {order : Option Int64} :
    orderOfSection node = .ok order ↔
      node.node.OrderIsInteger ∧
        order = (node.node.member? "order").bind Json.int64? := by
  unfold orderOfSection Json.OrderIsInteger
  rw [Section.get?_of_plain (by decide)]
  cases hmember : node.node.member? "order" with
  | none => simp [eq_comm]
  | some tree => cases hvalue : tree.int64? <;> simp [hvalue, Section.invalid, eq_comm]

theorem exists_scalarKind_iff {path : ConfigPath} {members : List (String × Json)}
    (hformat : Json.member? "format" (.object members) = none) :
    (∃ kind, kindOfSection ⟨path, .object members⟩ = .ok kind) ↔
      Json.KeysAmong ["source", "type", "order"] members ∧
        Json.HasReference "source" (.object members) ∧
        ∃ type, Json.typeNamed (.object members) = some type := by
  have hkeys :=
    @Section.checkKeys_object_iff path members ["source", "type", "order"] (by decide)
  have hsource := @Section.exists_reference_iff ⟨path, .object members⟩ "source" (by decide)
  have htype := @ScalarType.exists_ofSection_iff ⟨path, .object members⟩
  have hoptional : Section.optionalString ⟨path, .object members⟩ "format" = .ok none :=
    (Section.optionalString_eq_ok_iff (by decide)).mpr hformat
  rw [← hkeys, ← hsource, ← htype]
  simp only [kindOfSection, hoptional, Outcome.ok_bind, Outcome.bind_eq_ok_iff,
    Outcome.pure_eq_ok_iff]
  constructor
  · rintro ⟨_, _, hchecked, child, hchild, reference, hreference, type, hnamed, _⟩
    exact ⟨hchecked, ⟨child, hchild, reference, hreference⟩, type, hnamed⟩
  · rintro ⟨hchecked, ⟨child, hchild, reference, hreference⟩, type, hnamed⟩
    exact ⟨_, _, hchecked, child, hchild, reference, hreference, type, hnamed, rfl⟩

theorem exists_documentKind_iff {path : ConfigPath} {members : List (String × Json)}
    {tree : Json} (hformat : Json.member? "format" (.object members) = some tree) :
    (∃ kind, kindOfSection ⟨path, .object members⟩ = .ok kind) ↔
      tree = .string OutputFormat.json.name ∧
        Json.KeysAmong ["format", "fields", "order"] members ∧
        ∃ fields, Json.member? "fields" (.object members) = some fields ∧
          fields.DescribesObject := by
  have hkeys :=
    @Section.checkKeys_object_iff path members ["format", "fields", "order"] (by decide)
  have hoptional : ∀ text,
      Section.optionalString ⟨path, .object members⟩ "format" = .ok text ↔
        some tree = text.map Json.string := by
    intro text
    rw [← hformat]
    exact Section.optionalString_eq_ok_iff (by decide)
  rw [← hkeys]
  simp only [kindOfSection, Outcome.bind_eq_ok_iff, hoptional]
  constructor
  · rintro ⟨kind, text, htext, hkind⟩
    cases text with
    | none => cases htext
    | some name =>
        obtain rfl : tree = .string name := Option.some.inj htext
        by_cases hjson : OutputFormat.ofName? name = some .json
        · simp only [if_pos hjson, Outcome.bind_eq_ok_iff, Section.require_eq_ok_iff,
            Section.get?_of_plain (by decide : ConfigPath.hasSeparator "fields" = false),
            Option.map_eq_some_iff] at hkind
          obtain ⟨_, hchecked, _, ⟨fields, hfields, rfl⟩, spec, hspec, _⟩ := hkind
          have hobject := ObjectSpec.exists_ofSection_iff.mp ⟨spec, hspec⟩
          exact ⟨by rw [OutputFormat.ofName?_eq_some_iff.mp hjson], hchecked, fields, hfields,
            hobject⟩
        · simp [hjson] at hkind
  · rintro ⟨rfl, hchecked, fields, hfields, hobject⟩
    obtain ⟨spec, hspec⟩ :=
      (@ObjectSpec.exists_ofSection_iff ⟨path.child "fields", fields⟩).mpr hobject
    refine ⟨.json spec, some OutputFormat.json.name, rfl, ?_⟩
    simp only [OutputFormat.ofName?_name, if_true, Outcome.bind_eq_ok_iff,
      Section.require_eq_ok_iff,
      Section.get?_of_plain (by decide : ConfigPath.hasSeparator "fields" = false),
      Option.map_eq_some_iff]
    exact ⟨_, hchecked, _, ⟨fields, hfields, rfl⟩, spec, hspec, rfl⟩

theorem exists_order_iff {node : Section} :
    (∃ order, orderOfSection node = .ok order) ↔ node.node.OrderIsInteger := by
  simp only [orderOfSection_eq_ok_iff, exists_and_left, exists_eq, and_true]

theorem exists_ofSection_iff {name : String} {node : Section} :
    (∃ spec, ofSection name node = .ok spec) ↔ node.node.DescribesColumn := by
  have hparts : (∃ spec, ofSection name node = .ok spec) ↔
      node.node.members?.isSome ∧ node.node.OrderIsInteger ∧
        ∃ kind, kindOfSection node = .ok kind := by
    simp only [ofSection_eq_ok_iff]
    rw [← exists_order_iff]
    constructor
    · rintro ⟨spec, hmembers, _, _, horder, hkind⟩
      exact ⟨hmembers, ⟨_, horder⟩, _, hkind⟩
    · rintro ⟨hmembers, ⟨order, horder⟩, kind, hkind⟩
      exact ⟨⟨name, node.path, order, kind⟩, hmembers, rfl, rfl, horder, hkind⟩
  rw [hparts]
  obtain ⟨path, tree⟩ := node
  constructor
  · rintro ⟨hmembers, horder, hkind⟩
    cases tree with
    | object members =>
        cases hformat : Json.member? "format" (.object members) with
        | none =>
            obtain ⟨hkeys, hsource, htype⟩ := (exists_scalarKind_iff hformat).mp hkind
            exact .scalar hformat hkeys hsource htype horder
        | some format =>
            obtain ⟨rfl, hkeys, fields, hfields, hobject⟩ :=
              (exists_documentKind_iff hformat).mp hkind
            exact .document (Json.textAt?_eq_some_iff.mpr hformat) hkeys hfields hobject horder
    | _ => cases hmembers
  · intro hdescribes
    cases hdescribes with
    | scalar hformat hkeys hsource htype horder =>
        exact ⟨rfl, horder, (exists_scalarKind_iff hformat).mpr ⟨hkeys, hsource, htype⟩⟩
    | document hformat hkeys hfields hobject horder =>
        refine ⟨rfl, horder, ?_⟩
        rw [Json.textAt?_eq_some_iff] at hformat
        exact (exists_documentKind_iff hformat).mpr ⟨rfl, hkeys, _, hfields, hobject⟩

end ColumnSpec

theorem RowMapping.exists_ofSection_iff {node : Section} :
    (∃ mapping, ofSection node = .ok mapping) ↔ node.node.DescribesRows := by
  have hcolumns : ∀ members : List (String × Json),
      (∃ columns, (members.map (itemsSection node members).childOf).mapM
          (fun column => ColumnSpec.ofSection column.1 column.2) = .ok columns) ↔
        ∀ member ∈ members, member.2.DescribesColumn := by
    intro members
    rw [Outcome.exists_mapM_eq_ok_iff, List.forall_mem_map]
    exact forall₂_congr fun member _ => ColumnSpec.exists_ofSection_iff
  rw [Json.DescribesRows, ← OutputFormat.requireRows_eq_ok_iff]
  simp only [ofSection, Outcome.bind_eq_ok_iff, Outcome.pure_eq_ok_iff, declared_eq_ok_iff]
  constructor
  · rintro ⟨_, _, hrows, _, ⟨members, hmembers, hplain, rfl⟩, columns, hread, _⟩
    have hdescribe := (hcolumns members).mp ⟨columns, hread⟩
    exact ⟨hrows, members, hmembers, fun member hmem =>
      ⟨hplain member hmem, hdescribe member hmem⟩⟩
  · rintro ⟨hrows, members, hmembers, hall⟩
    obtain ⟨columns, hread⟩ := (hcolumns members).mpr fun member hmem => (hall member hmem).2
    exact ⟨_, _, hrows, _, ⟨members, hmembers, fun member hmem => (hall member hmem).1, rfl⟩,
      columns, hread, rfl⟩

end MappingPlan
