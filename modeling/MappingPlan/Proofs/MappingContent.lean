import MappingPlan.Proofs.MappingGrammar

/-!
# What a mapping keeps of its tree

A description that was read says where it stands and what stood there: its fields are the
members of the tree with their keys, in order, every reference displays as the text that
it was read from, and an array has its context and its items.  A row mapping has one column
for each member of its `items`.

Together with the grammar this says all that reading does.  The tree decides whether there
is a description, and the description has everything of the tree but the spelling of the
types and the order in which the parts of an array or of a typed leaf were written.
-/

namespace MappingPlan

/-! ## References -/

theorem Text.eq_append_of_splitOnceChars {separator : Char} {text before after : List Char}
    (hsplit : splitOnceChars separator text = some (before, after)) :
    text = before ++ separator :: after := by
  induction text generalizing before with
  | nil => cases hsplit
  | cons c rest ih =>
      rw [splitOnceChars] at hsplit
      by_cases hc : c = separator
      · rw [if_pos hc, Option.some.injEq, Prod.mk.injEq] at hsplit
        obtain ⟨rfl, rfl⟩ := hsplit
        simp [hc]
      · rw [if_neg hc, Option.map_eq_some_iff] at hsplit
        obtain ⟨⟨earlier, later⟩, hrest, hpair⟩ := hsplit
        rw [Prod.mk.injEq] at hpair
        obtain ⟨rfl, rfl⟩ := hpair
        rw [ih hrest, List.cons_append]

namespace FieldRef

theorem eq_field_of_inScope {scope : Scope} {path text : String} {reference : FieldRef}
    (hread : inScope scope path text = .ok reference) : reference = .field scope path := by
  unfold inScope at hread
  split at hread
  · cases hread
  · exact (Except.ok.inj hread).symm

theorem display_of_parse {text : String} {reference : FieldRef}
    (hparse : parse text = .ok reference) : reference.display = text := by
  unfold parse at hparse
  cases hsplit : Text.splitOnceChars '.' text.toList with
  | none => simp [hsplit] at hparse
  | some parts =>
      obtain ⟨before, after⟩ := parts
      have htext : text = String.ofList before ++ "." ++ String.ofList after := by
        rw [← String.ofList_toList (s := text), Text.eq_append_of_splitOnceChars hsplit,
          String.append_assoc]
        simp
      simp only [hsplit] at hparse
      split at hparse
      · rename_i hscope
        rw [eq_field_of_inScope hparse, htext, hscope]
        rfl
      · rename_i hscope
        rw [eq_field_of_inScope hparse, htext, hscope]
        rfl
      · rename_i hscope
        rw [eq_field_of_inScope hparse, htext, hscope]
        rfl
      · rename_i hscope
        rw [← Except.ok.inj hparse, htext, hscope]
        rfl
      · cases hparse

end FieldRef

/-! ## Descriptions of trees -/

mutual

def ObjectSpec.Keeps (path : ConfigPath) : ObjectSpec → Json → Prop
  | ⟨place, fields⟩, tree =>
      place = path ∧ ∃ members, tree = .object members ∧ FieldSpec.KeepAll path fields members

def FieldSpec.KeepAll (path : ConfigPath) : List FieldSpec → List (String × Json) → Prop
  | [], members => members = []
  | ⟨key, place, node⟩ :: fields, members =>
      ∃ tree rest, members = (key, tree) :: rest ∧ place = path.child key ∧
        node.Keeps place tree ∧ FieldSpec.KeepAll path fields rest

def FieldNode.Keeps (path : ConfigPath) : FieldNode → Json → Prop
  | .leaf source type, tree =>
      (tree = .string source.display ∧ type = none) ∨
        (∃ members, tree = .object members ∧ Json.KeysAmong ["source", "type"] members ∧
          tree.textAt? "source" = some source.display ∧ type = tree.typeNamed)
  | .object spec, tree => spec.Keeps path tree
  | .array context contextPath items, tree =>
      tree.textAt? "type" = some NodeKind.arrayType ∧
        tree.textAt? "context" = some context.display ∧ contextPath = path.child "context" ∧
        ∃ itemTree, tree.member? "items" = some itemTree ∧
          items.Keeps (path.child "items") itemTree

end

theorem FieldNode.keeps_of_ofTypedLeaf {path : ConfigPath} {members : List (String × Json)}
    {field : FieldNode} (haccepted : ofTypedLeaf ⟨path, .object members⟩ = .ok field) :
    field.Keeps path (.object members) := by
  obtain ⟨source, reference, hsource, hparse, rfl⟩ := ofTypedLeaf_eq_ok haccepted
  obtain ⟨hkeys, _⟩ := exists_ofTypedLeaf_iff.mp ⟨_, haccepted⟩
  rw [Keeps]
  exact .inr ⟨members, rfl, hkeys, by rw [hsource, FieldRef.display_of_parse hparse], rfl⟩

theorem FieldNode.place_of_arrayContext {node : Section} {context : FieldRef}
    {contextPath : ConfigPath} (haccepted : arrayContext node = .ok (context, contextPath)) :
    contextPath = node.path.child "context" := by
  simp only [arrayContext, Outcome.bind_eq_ok_iff, Outcome.pure_eq_ok_iff, Prod.mk.injEq,
    Section.require_eq_ok_iff,
    Section.get?_of_plain (by decide : ConfigPath.hasSeparator "context" = false),
    Option.map_eq_some_iff] at haccepted
  obtain ⟨_, _, child, ⟨_, _, rfl⟩, _, _, _, _, _, hpath⟩ := haccepted
  exact hpath.symm

mutual

theorem ObjectSpec.keeps_of_ofNode :
    ∀ (tree : Json) (path : ConfigPath) (spec : ObjectSpec),
      ObjectSpec.ofNode path tree = .ok spec → spec.Keeps path tree
  | .object members, path, spec, haccepted => by
      simp only [ObjectSpec.ofNode, ObjectSpec.assemble, Outcome.bind_eq_ok_iff,
        Outcome.pure_eq_ok_iff] at haccepted
      obtain ⟨_, _, fields, hfields, rfl⟩ := haccepted
      rw [ObjectSpec.Keeps]
      exact ⟨rfl, members, rfl, FieldSpec.keepAll_of_ofMembers members path fields hfields⟩

theorem ObjectSpec.keeps_of_ofItems :
    ∀ (members : List (String × Json)) (path : ConfigPath) (spec : ObjectSpec),
      ObjectSpec.ofItems path members = .ok spec →
      ∃ tree, members.lookup "items" = some tree ∧ spec.Keeps (path.child "items") tree
  | (key, node) :: rest, path, spec, haccepted => by
      rw [ObjectSpec.ofItems] at haccepted
      by_cases hkey : key = "items"
      · rw [if_pos hkey] at haccepted
        exact ⟨node, by simp [hkey], ObjectSpec.keeps_of_ofNode node _ spec haccepted⟩
      · rw [if_neg hkey] at haccepted
        have hother : ("items" == key) = false := by simpa using Ne.symm hkey
        rw [List.lookup_cons, hother]
        exact ObjectSpec.keeps_of_ofItems rest path spec haccepted

theorem FieldSpec.keepAll_of_ofMembers :
    ∀ (members : List (String × Json)) (path : ConfigPath) (fields : List FieldSpec),
      FieldSpec.ofMembers path members = .ok fields → FieldSpec.KeepAll path fields members
  | [], path, fields, haccepted => by
      simp only [FieldSpec.ofMembers, Except.ok.injEq] at haccepted
      subst fields
      rw [FieldSpec.KeepAll]
  | (key, node) :: rest, path, fields, haccepted => by
      simp only [FieldSpec.ofMembers, Outcome.bind_eq_ok_iff,
        Outcome.pure_eq_ok_iff] at haccepted
      obtain ⟨field, hfield, others, hothers, rfl⟩ := haccepted
      rw [FieldSpec.KeepAll]
      exact ⟨node, rest, rfl, rfl, FieldNode.keeps_of_ofNode node _ field hfield,
        FieldSpec.keepAll_of_ofMembers rest path others hothers⟩

theorem FieldNode.keeps_of_ofNode :
    ∀ (tree : Json) (path : ConfigPath) (field : FieldNode),
      FieldNode.ofNode path tree = .ok field → field.Keeps path tree
  | .string text, path, field, haccepted => by
      simp only [FieldNode.ofNode, Outcome.bind_eq_ok_iff, Outcome.pure_eq_ok_iff] at haccepted
      obtain ⟨reference, hreference, rfl⟩ := haccepted
      obtain ⟨_, hstring, hparse⟩ := FieldRef.ofSection_eq_ok hreference
      cases hstring
      rw [FieldNode.Keeps, FieldRef.display_of_parse hparse]
      exact .inl ⟨rfl, rfl⟩
  | .object members, path, field, haccepted => by
      simp only [FieldNode.ofNode, Outcome.bind_eq_ok_iff,
        NodeKind.ofObject_eq_ok_iff] at haccepted
      obtain ⟨kind, hkind, haccepted⟩ := haccepted
      cases kind with
      | typedLeaf => exact FieldNode.keeps_of_ofTypedLeaf haccepted
      | array =>
          simp only [Outcome.bind_eq_ok_iff, Outcome.pure_eq_ok_iff] at haccepted
          obtain ⟨⟨context, contextPath⟩, hcontext, items, hitems, rfl⟩ := haccepted
          obtain ⟨text, htext, hparse⟩ := FieldNode.arrayContext_eq_ok hcontext
          rw [FieldNode.Keeps, FieldRef.display_of_parse hparse]
          exact ⟨hkind, htext, FieldNode.place_of_arrayContext hcontext,
            ObjectSpec.keeps_of_ofItems members path items hitems⟩
      | object =>
          simp only [ObjectSpec.assemble, Outcome.bind_eq_ok_iff,
            Outcome.pure_eq_ok_iff] at haccepted
          obtain ⟨_, ⟨_, _, fields, hfields, rfl⟩, rfl⟩ := haccepted
          rw [FieldNode.Keeps, ObjectSpec.Keeps]
          exact ⟨rfl, members, rfl, FieldSpec.keepAll_of_ofMembers members path fields hfields⟩

end

/-! ## Row mappings of trees -/

/-- A column at the place of its member, with what the member says. -/
def ColumnSpec.Keeps (path : ConfigPath) (column : ColumnSpec) (member : String × Json) :
    Prop :=
  column.name = member.1 ∧ column.path = path.child member.1 ∧
    column.order = (member.2.member? "order").bind Json.int64? ∧
    match column.kind with
    | .scalar source type =>
        member.2.member? "format" = none ∧
          member.2.textAt? "source" = some source.display ∧ member.2.typeNamed = some type
    | .json fields =>
        member.2.textAt? "format" = some OutputFormat.json.name ∧
          ∃ tree, member.2.member? "fields" = some tree ∧
            fields.Keeps (column.path.child "fields") tree

def RowMapping.Keeps (path : ConfigPath) (mapping : RowMapping) (tree : Json) : Prop :=
  mapping.path = path ∧ ∃ members columns, tree.member? "items" = some (.object members) ∧
    mapping.columns.Perm columns ∧
    List.Forall₂ (ColumnSpec.Keeps (path.child "items")) columns members

theorem ColumnSpec.keeps_of_ofSection {items : Section} {member : String × Json}
    {column : ColumnSpec}
    (haccepted : ofSection member.1 (items.childOf member).2 = .ok column) :
    column.Keeps items.path member := by
  obtain ⟨_, hname, hpath, horder, hkind⟩ := ofSection_eq_ok_iff.mp haccepted
  refine ⟨hname, hpath, (orderOfSection_eq_ok_iff.mp horder).2, ?_⟩
  rw [hpath]
  simp only [kindOfSection, Outcome.bind_eq_ok_iff,
    Section.optionalString_eq_ok_iff (by decide : ConfigPath.hasSeparator "format" = false)]
    at hkind
  obtain ⟨format, hformat, hkind⟩ := hkind
  cases format with
  | none =>
      simp only [Outcome.bind_eq_ok_iff, Outcome.pure_eq_ok_iff] at hkind
      obtain ⟨_, _, child, hchild, reference, hreference, type, htype, hspec⟩ := hkind
      obtain ⟨text, htext, hparse⟩ :=
        FieldRef.ofSection_require_eq_ok (by decide) hchild hreference
      rw [← hspec]
      exact ⟨hformat, by rw [FieldRef.display_of_parse hparse]; exact htext,
        ScalarType.ofSection_eq_ok htype⟩
  | some name =>
      by_cases hjson : OutputFormat.ofName? name = some .json
      · simp only [if_pos hjson, Outcome.bind_eq_ok_iff, Outcome.pure_eq_ok_iff,
          Section.require_eq_ok_iff,
          Section.get?_of_plain (by decide : ConfigPath.hasSeparator "fields" = false),
          Option.map_eq_some_iff] at hkind
        obtain ⟨_, _, _, ⟨tree, htree, rfl⟩, fields, hfields, hspec⟩ := hkind
        rw [← hspec]
        rw [OutputFormat.ofName?_eq_some_iff.mp hjson] at hformat
        exact ⟨Json.textAt?_eq_some_iff.mpr hformat, tree, htree,
          ObjectSpec.keeps_of_ofNode tree _ fields hfields⟩
      · simp [hjson] at hkind

theorem RowMapping.keeps_of_ofSection {node : Section} {mapping : RowMapping}
    (haccepted : ofSection node = .ok mapping) : mapping.Keeps node.path node.node := by
  simp only [ofSection, Outcome.bind_eq_ok_iff, Outcome.pure_eq_ok_iff, declared_eq_ok_iff,
    Outcome.mapM_eq_ok_iff] at haccepted
  obtain ⟨_, _, _, ⟨members, hmembers, _, rfl⟩, columns, hcolumns, rfl⟩ := haccepted
  rw [List.forall₂_map_left_iff] at hcolumns
  refine ⟨rfl, members, columns, hmembers, List.mergeSort_perm columns _, ?_⟩
  refine hcolumns.flip.imp fun column member hread => ?_
  exact @ColumnSpec.keeps_of_ofSection (itemsSection node members) _ _ hread

/-- Reading accepts the trees of the grammar and no others, and what it gives keeps what the
tree says: descriptions are objects of fields, row mappings have columns under `items`. -/
theorem Section.read_iff_grammatical (node : Section) :
    ((∃ spec, ObjectSpec.ofSection node = .ok spec) ↔ node.node.DescribesObject) ∧
      ((∃ mapping, RowMapping.ofSection node = .ok mapping) ↔ node.node.DescribesRows) ∧
      (∀ spec, ObjectSpec.ofSection node = .ok spec → spec.Keeps node.path node.node) ∧
      ∀ mapping, RowMapping.ofSection node = .ok mapping →
        mapping.Keeps node.path node.node := by
  refine ⟨ObjectSpec.exists_ofSection_iff, RowMapping.exists_ofSection_iff, ?_, ?_⟩
  · intro spec haccepted
    exact ObjectSpec.keeps_of_ofNode node.node node.path spec haccepted
  · intro mapping haccepted
    exact RowMapping.keeps_of_ofSection haccepted

end MappingPlan
