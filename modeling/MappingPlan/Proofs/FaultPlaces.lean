import MappingPlan.Proofs.CompiledOps
import MappingPlan.Proofs.MappingContent
import MappingPlan.Target

/-!
# Where errors are reported

An error of a compilation is about one node of the mapping: something is missing in the
node, or what stands there cannot be used.  The path in the error is the path of that node.
Only the error for a missing format has the path at which the format should stand.

Every step reports its errors at the section that it is given or somewhere below it, and so
does a chain of steps.  The steps that bind references know only the paths that the
descriptions carry.  Those are paths of nodes because a description keeps its tree.

One fault is not about a mapping at all: that the plan found under a key has another output
format.  No step reports it, whatever the section is, so it can only come from the cache.
-/

namespace MappingPlan

namespace Section

/-- The keys lead from a section to a section in it. -/
inductive Encloses : Section → List String → Section → Prop
  | self {node : Section} : Encloses node [] node
  | member {path : ConfigPath} {members : List (String × Json)} {key : String} {tree : Json}
      {keys : List String} {target : Section} (hmem : (key, tree) ∈ members)
      (hinner : Encloses ⟨path.child key, tree⟩ keys target) :
      Encloses ⟨path, .object members⟩ (key :: keys) target

/-- The errors that are about one section. -/
inductive Reports (target : Section) : CompileError → Prop
  | missingKey {key : String} (habsent : target.node.member? key = none) :
      Reports target (.missingKey target.path key)
  | missingFormat (habsent : target.node.member? "format" = none) :
      Reports target (.unsupportedFormat (target.path.child "format") "<missing>")
  | unsupportedFormat (format : String) : Reports target (.unsupportedFormat target.path format)
  | invalid {fault : MappingFault} (hfault : fault ≠ .otherFormatCached) :
      Reports target (.invalid target.path fault)
  | unresolvable (reference : FieldRef) (shape : ShapeId) :
      Reports target (.unresolvable target.path reference shape)
  | coercion (reference : FieldRef) (demand : Demand) (offer : Offer) :
      Reports target (.coercion target.path reference demand offer)

def Blames (node : Section) (error : CompileError) : Prop :=
  ∃ keys target, node.Encloses keys target ∧ target.Reports error

variable {node inner target : Section} {key : String} {keys : List String}
  {error : CompileError}

theorem Encloses.under {tree : Json} (hmember : node.node.member? key = some tree)
    (hinner : Encloses ⟨node.path.child key, tree⟩ keys target) :
    node.Encloses (key :: keys) target := by
  obtain ⟨path, root⟩ := node
  cases root with
  | object members => exact .member (Json.mem_of_member?_eq_some hmember) hinner
  | _ => cases hmember

theorem Encloses.child (hget : node.get? key = some inner)
    (hinner : inner.Encloses keys target) : node.Encloses (key :: keys) target := by
  unfold get? at hget
  split at hget
  · cases hget
  · obtain ⟨tree, hmember, rfl⟩ := Option.map_eq_some_iff.mp hget
    exact hinner.under hmember

theorem Reports.blames (hreports : node.Reports error) : node.Blames error :=
  ⟨[], node, .self, hreports⟩

theorem Blames.member {path : ConfigPath} {members : List (String × Json)} {tree : Json}
    (hmem : (key, tree) ∈ members) (hblames : Blames ⟨path.child key, tree⟩ error) :
    Blames ⟨path, .object members⟩ error := by
  obtain ⟨keys, target, hinner, hreports⟩ := hblames
  exact ⟨key :: keys, target, .member hmem hinner, hreports⟩

theorem Blames.under {tree : Json} (hmember : node.node.member? key = some tree)
    (hblames : Blames ⟨node.path.child key, tree⟩ error) : node.Blames error := by
  obtain ⟨keys, target, hinner, hreports⟩ := hblames
  exact ⟨key :: keys, target, hinner.under hmember, hreports⟩

theorem Blames.child (hget : node.get? key = some inner) (hblames : inner.Blames error) :
    node.Blames error := by
  obtain ⟨keys, target, hinner, hreports⟩ := hblames
  exact ⟨key :: keys, target, hinner.child hget, hreports⟩

theorem Blames.listed {children : List (String × Section)}
    (hchildren : node.children = .ok children) (hmem : (key, inner) ∈ children)
    (hblames : inner.Blames error) : node.Blames error := by
  obtain ⟨members, hmembers, _, rfl⟩ := children_eq_ok_iff.mp hchildren
  obtain ⟨⟨name, tree⟩, hmember, hpair⟩ := List.mem_map.mp hmem
  obtain ⟨rfl, rfl⟩ := Prod.mk.inj hpair
  obtain ⟨path, root⟩ := node
  cases root with
  | object members =>
      cases hmembers
      exact hblames.member hmember
  | _ => cases hmembers

end Section

/-! ## Chains of steps -/

/-- An error is about the section or one in it. -/
def Result.FailsWithin {α : Type} (node : Section) (result : Result α) : Prop :=
  ∀ error, result = .error error → node.Blames error

namespace Result.FailsWithin

variable {α β : Type} {node inner : Section} {error : CompileError}

theorem ok (value : α) : FailsWithin node (.ok value) := by
  intro error herror
  cases herror

theorem pure (value : α) : FailsWithin node (Pure.pure value) := ok value

theorem blames (hblames : node.Blames error) : FailsWithin node (.error error : Result α) := by
  intro other hother
  cases hother
  exact hblames

theorem reports (hreports : node.Reports error) :
    FailsWithin node (.error error : Result α) :=
  blames hreports.blames

theorem bind {first : Result α} {next : α → Result β} (hfirst : first.FailsWithin node)
    (hnext : ∀ value, first = .ok value → (next value).FailsWithin node) :
    FailsWithin node (first >>= next) := by
  intro error herror
  rcases Outcome.bind_eq_error_iff.mp herror with hfailed | ⟨value, hvalue, hfailed⟩
  · exact hfirst error hfailed
  · exact hnext value hvalue error hfailed

theorem map {result : Result α} (hresult : result.FailsWithin node) (f : α → β) :
    FailsWithin node (result.map f) := by
  intro error herror
  exact hresult error (Outcome.map_eq_error_iff.mp herror)

theorem mapM {step : α → Result β} {items : List α}
    (hstep : ∀ item ∈ items, (step item).FailsWithin node) :
    FailsWithin node (items.mapM step) := by
  induction items with
  | nil => exact pure []
  | cons item rest ih =>
      rw [List.forall_mem_cons] at hstep
      rw [List.mapM_cons]
      exact .bind hstep.1 fun _ _ => .bind (ih hstep.2) fun _ _ => pure _

theorem forM {step : α → Result PUnit} {items : List α}
    (hstep : ∀ item ∈ items, (step item).FailsWithin node) :
    FailsWithin node (items.forM step) := by
  induction items with
  | nil => exact pure _
  | cons item rest ih =>
      rw [List.forall_mem_cons] at hstep
      rw [List.forM_eq_forM, List.forM_cons]
      exact .bind hstep.1 fun _ _ => ih hstep.2

theorem child {key : String} {result : Result α} (hget : node.get? key = some inner)
    (hresult : result.FailsWithin inner) : FailsWithin node result :=
  fun error herror => (hresult error herror).child hget

theorem under {key : String} {tree : Json} {result : Result α}
    (hmember : node.node.member? key = some tree)
    (hresult : FailsWithin ⟨node.path.child key, tree⟩ result) : FailsWithin node result :=
  fun error herror => (hresult error herror).under hmember

end Result.FailsWithin

/-- Not the refusal of a plan that is cached with another format. -/
def Result.NotMismatched {α : Type} (result : Result α) : Prop :=
  ∀ path, result ≠ .error (.invalid path .otherFormatCached)

theorem Result.FailsWithin.notMismatched {α : Type} {node : Section} {result : Result α}
    (hresult : result.FailsWithin node) : result.NotMismatched := by
  intro path herror
  obtain ⟨_, _, _, hreports⟩ := hresult _ herror
  cases hreports with
  | invalid hfault => exact hfault rfl

open Result (FailsWithin)

/-! ## Reading sections -/

namespace Section

variable (node : Section) {key : String}

theorem invalid_failsWithin {α : Type} {fault : MappingFault}
    (hfault : fault ≠ .otherFormatCached) : FailsWithin node (node.invalid fault : Result α) :=
  .reports (.invalid hfault)

theorem require_failsWithin (hplain : ConfigPath.hasSeparator key = false) :
    FailsWithin node (node.require key) := by
  unfold require
  cases hget : node.get? key with
  | some child => exact .ok child
  | none =>
      rw [get?_of_plain hplain, Option.map_eq_none_iff] at hget
      exact .reports (.missingKey hget)

theorem text_failsWithin {fault : MappingFault} (hfault : fault ≠ .otherFormatCached) :
    FailsWithin node (node.text fault) := by
  unfold Section.text
  split
  · exact .ok _
  · exact node.invalid_failsWithin hfault

theorem requireString_failsWithin (hplain : ConfigPath.hasSeparator key = false) :
    FailsWithin node (node.requireString key) :=
  .bind (node.require_failsWithin hplain) fun child hchild =>
    .child (require_eq_ok_iff.mp hchild) (child.text_failsWithin (by simp))

theorem optionalString_failsWithin (key : String) :
    FailsWithin node (node.optionalString key) := by
  unfold optionalString
  cases hget : node.get? key with
  | none => exact .ok none
  | some child => exact .child hget (.map (child.text_failsWithin (by simp)) some)

theorem children_failsWithin : FailsWithin node node.children := by
  unfold Section.children
  cases node.node.members? with
  | none => exact node.invalid_failsWithin (by simp)
  | some members =>
      refine .mapM fun member _ => ?_
      dsimp only
      split
      · exact node.invalid_failsWithin (by simp)
      · exact .ok _

theorem checkKeys_failsWithin (allowed : List String) :
    FailsWithin node (node.checkKeys allowed) := by
  refine .bind node.children_failsWithin fun children hchildren => .forM fun member hmem => ?_
  dsimp only
  split
  · exact .ok ()
  · intro error herror
    exact (member.2.invalid_failsWithin (by simp) error herror).listed hchildren hmem

/-- The place of a name that is not supported, when it was read there. -/
theorem blames_unsupported {name : String} (hname : node.node.textAt? key = some name) :
    node.Blames (.unsupportedFormat (node.path.child key) name) := by
  have hmember := Json.textAt?_eq_some_iff.mp hname
  exact (Reports.unsupportedFormat name).blames.under hmember

end Section

/-! ## Reading mappings -/

theorem FieldRef.ofSection_failsWithin (node : Section) : FailsWithin node (ofSection node) := by
  refine .bind (node.text_failsWithin (by simp)) fun text _ => ?_
  split
  · exact .ok _
  · exact node.invalid_failsWithin (by simp)

theorem ScalarType.ofSection_failsWithin (node : Section) :
    FailsWithin node (ofSection node) := by
  refine .bind (node.requireString_failsWithin (by decide)) fun name hname => ?_
  rw [Section.requireString_eq_ok_iff (by decide)] at hname
  split
  · exact .ok _
  · exact .blames (node.blames_unsupported hname)

theorem NodeKind.ofObject_failsWithin (node : Section) : FailsWithin node (ofObject node) := by
  refine .bind (node.optionalString_failsWithin _) fun type htype => ?_
  have htext := Section.textAt?_of_optionalString (by decide) htype
  cases type with
  | none => exact .pure _
  | some name =>
      dsimp only
      split
      · exact .ok _
      · split
        · exact .ok _
        · exact .blames (node.blames_unsupported htext)

/-- A reference under a required key, and what is read after it. -/
theorem FieldRef.require_failsWithin {α : Type} {node : Section} {key : String}
    {next : FieldRef → Result α} (hplain : ConfigPath.hasSeparator key = false)
    (hnext : ∀ reference, FailsWithin node (next reference)) :
    FailsWithin node (do
      let child ← node.require key
      let reference ← ofSection child
      next reference) := by
  refine .bind (node.require_failsWithin hplain) fun child hchild => ?_
  have hget := Section.require_eq_ok_iff.mp hchild
  have hreference : FailsWithin node (ofSection child) := .child hget (ofSection_failsWithin child)
  exact .bind hreference fun reference _ => hnext reference

theorem FieldNode.ofTypedLeaf_failsWithin (node : Section) :
    FailsWithin node (ofTypedLeaf node) := by
  refine .bind (node.checkKeys_failsWithin _) fun _ _ =>
    FieldRef.require_failsWithin (by decide) fun reference => ?_
  split
  · exact .bind (ScalarType.ofSection_failsWithin node) fun _ _ => .pure _
  · exact .pure _

theorem FieldNode.arrayContext_failsWithin (node : Section) :
    FailsWithin node (arrayContext node) := by
  have hcontext : FailsWithin node (node.require "context") :=
    node.require_failsWithin (by decide)
  have hitems : FailsWithin node (node.require "items") := node.require_failsWithin (by decide)
  refine .bind (node.checkKeys_failsWithin _) fun _ _ =>
    .bind hcontext fun context hfound => .bind hitems fun _ _ => ?_
  have hget := Section.require_eq_ok_iff.mp hfound
  have hreference : FailsWithin node (FieldRef.ofSection context) :=
    .child hget (FieldRef.ofSection_failsWithin context)
  exact .bind hreference fun _ _ => .pure _

/-- The fields of a description fail in one of the members. -/
def FieldSpec.FailsInMember {α : Type} (path : ConfigPath) (members : List (String × Json))
    (fields : Result α) : Prop :=
  ∀ error, fields = .error error →
    ∃ member ∈ members, Section.Blames ⟨path.child member.1, member.2⟩ error

theorem FieldSpec.FailsInMember.failsWithin {α : Type} {path : ConfigPath}
    {members : List (String × Json)} {fields : Result α}
    (hfields : FailsInMember path members fields) :
    FailsWithin ⟨path, .object members⟩ fields := by
  intro error herror
  obtain ⟨member, hmem, hblames⟩ := hfields error herror
  exact hblames.member hmem

/-- Members in turn: the first fails in itself, or else the rest fail in one of them. -/
theorem FieldSpec.FailsInMember.cons {α β γ : Type} {path : ConfigPath} {key : String}
    {tree : Json} {rest : List (String × Json)} {first : Result α} {others : Result β}
    {join : α → β → γ} (hfirst : FailsWithin ⟨path.child key, tree⟩ first)
    (hothers : FailsInMember path rest others) :
    FailsInMember path ((key, tree) :: rest) (do
      let value ← first
      let values ← others
      return join value values) := by
  intro error herror
  rcases Outcome.bind_eq_error_iff.mp herror with hfailed | ⟨value, _, hrest⟩
  · exact ⟨(key, tree), List.mem_cons_self, hfirst error hfailed⟩
  · rcases Outcome.bind_eq_error_iff.mp hrest with hfailed | ⟨_, _, hpure⟩
    · obtain ⟨member, hmem, hblames⟩ := hothers error hfailed
      exact ⟨member, List.mem_cons_of_mem _ hmem, hblames⟩
    · exact absurd hpure (Outcome.pure_ne_error _ _)

theorem ObjectSpec.assemble_failsWithin {path : ConfigPath} {members : List (String × Json)}
    {fields : Result (List FieldSpec)} (hfields : FieldSpec.FailsInMember path members fields) :
    FailsWithin ⟨path, .object members⟩ (assemble ⟨path, .object members⟩ fields) :=
  .bind (Section.children_failsWithin _) fun _ _ =>
    .bind hfields.failsWithin fun _ _ => .pure _

mutual

theorem ObjectSpec.ofNode_failsWithin :
    ∀ (tree : Json) (path : ConfigPath), FailsWithin ⟨path, tree⟩ (ObjectSpec.ofNode path tree)
  | .object members, path => by
      rw [ObjectSpec.ofNode]
      exact ObjectSpec.assemble_failsWithin (FieldSpec.ofMembers_failsInMember members path)
  | .null, path | .bool _, path | .integer _, path | .fraction, path | .string _, path
  | .array _, path => by
      rw [ObjectSpec.ofNode]
      · exact .reports (.invalid (by simp))
      · simp

/-- Only the items count: they may be missing, or fail in themselves. -/
theorem ObjectSpec.ofItems_failsWithin :
    ∀ (members : List (String × Json)) (path : ConfigPath) (error : CompileError),
      ObjectSpec.ofItems path members = .error error →
      (members.lookup "items" = none ∧ error = .missingKey path "items") ∨
        ∃ tree, members.lookup "items" = some tree ∧
          Section.Blames ⟨path.child "items", tree⟩ error
  | [], path, error, herror => by
      cases herror
      exact .inl ⟨rfl, rfl⟩
  | (key, node) :: rest, path, error, herror => by
      rw [ObjectSpec.ofItems] at herror
      by_cases hkey : key = "items"
      · rw [if_pos hkey] at herror
        refine .inr ⟨node, by simp [hkey], ?_⟩
        exact ObjectSpec.ofNode_failsWithin node (path.child "items") error herror
      · rw [if_neg hkey] at herror
        have hother : ("items" == key) = false := by simpa using Ne.symm hkey
        rw [List.lookup_cons, hother]
        exact ObjectSpec.ofItems_failsWithin rest path error herror

theorem FieldSpec.ofMembers_failsInMember :
    ∀ (members : List (String × Json)) (path : ConfigPath),
      FieldSpec.FailsInMember path members (FieldSpec.ofMembers path members)
  | [], path => by
      intro error herror
      cases herror
  | (key, node) :: rest, path => by
      rw [FieldSpec.ofMembers]
      exact .cons (FieldNode.ofNode_failsWithin node (path.child key))
        (FieldSpec.ofMembers_failsInMember rest path)

theorem FieldNode.ofNode_failsWithin :
    ∀ (tree : Json) (path : ConfigPath), FailsWithin ⟨path, tree⟩ (FieldNode.ofNode path tree)
  | .string text, path => by
      rw [FieldNode.ofNode]
      exact .bind (FieldRef.ofSection_failsWithin _) fun _ _ => .pure _
  | .object members, path => by
      rw [FieldNode.ofNode]
      refine .bind (NodeKind.ofObject_failsWithin _) fun kind _ => ?_
      cases kind with
      | typedLeaf => exact FieldNode.ofTypedLeaf_failsWithin _
      | array =>
          refine .bind (FieldNode.arrayContext_failsWithin _) fun _ _ =>
            .bind (fun error herror => ?_) fun _ _ => .pure _
          rcases ObjectSpec.ofItems_failsWithin members path error herror with
            ⟨habsent, rfl⟩ | ⟨tree, htree, hblames⟩
          · have hreports : Section.Reports ⟨path, .object members⟩ (.missingKey path "items") :=
              .missingKey habsent
            exact hreports.blames
          · exact hblames.under htree
      | object =>
          exact .bind (ObjectSpec.assemble_failsWithin
            (FieldSpec.ofMembers_failsInMember members path)) fun _ _ => .pure _
  | .null, path | .bool _, path | .integer _, path | .fraction, path | .array _, path => by
      rw [FieldNode.ofNode]
      · exact .reports (.invalid (by simp))
      · simp
      · simp

end

theorem OutputFormat.ofSection_failsWithin (node : Section) :
    FailsWithin node (ofSection node) := by
  refine .bind (node.optionalString_failsWithin _) fun name hname => ?_
  rw [Section.optionalString_eq_ok_iff (by decide)] at hname
  cases name with
  | none => exact .reports (.missingFormat hname)
  | some name =>
      dsimp only
      split
      · exact .ok _
      · exact .blames (node.blames_unsupported (Json.textAt?_eq_some_iff.mpr hname))

theorem OutputFormat.textAt?_of_ofSection {node : Section} {format : OutputFormat}
    (hformat : ofSection node = .ok format) : node.node.textAt? "format" = some format.name := by
  simp only [ofSection, Outcome.bind_eq_ok_iff] at hformat
  obtain ⟨name, hname, hfound⟩ := hformat
  have htext := Section.textAt?_of_optionalString (by decide) hname
  cases name with
  | none => cases hfound
  | some name =>
      dsimp only at hfound
      split at hfound
      next found hformat =>
        cases hfound
        rw [htext, OutputFormat.ofName?_eq_some_iff.mp hformat]
      next => cases hfound

theorem OutputFormat.requireRows_failsWithin (node : Section) :
    FailsWithin node (requireRows node) := by
  refine .bind (ofSection_failsWithin node) fun format hformat => ?_
  have htext := textAt?_of_ofSection hformat
  cases format with
  | rows => exact .pure ()
  | json => exact .blames (node.blames_unsupported htext)

namespace ColumnSpec

theorem orderOfSection_failsWithin (node : Section) :
    FailsWithin node (orderOfSection node) := by
  unfold orderOfSection
  cases hget : node.get? "order" with
  | none => exact .ok none
  | some order =>
      dsimp only
      split
      · exact .ok _
      · exact .child hget (order.invalid_failsWithin (by simp))

theorem kindOfSection_failsWithin (node : Section) : FailsWithin node (kindOfSection node) := by
  refine .bind (node.optionalString_failsWithin _) fun format hformat => ?_
  have htext := Section.textAt?_of_optionalString (by decide) hformat
  cases format with
  | none =>
      exact .bind (node.checkKeys_failsWithin _) fun _ _ =>
        FieldRef.require_failsWithin (by decide) fun _ =>
          .bind (ScalarType.ofSection_failsWithin node) fun _ _ => .pure _
  | some name =>
      dsimp only
      split
      · have hfields : FailsWithin node (node.require "fields") :=
          node.require_failsWithin (by decide)
        refine .bind (node.checkKeys_failsWithin _) fun _ _ => .bind hfields fun fields hfound => ?_
        have hget := Section.require_eq_ok_iff.mp hfound
        have hspec := ObjectSpec.ofNode_failsWithin fields.node fields.path
        exact .bind (.child hget hspec) fun _ _ => .pure _
      · exact .blames (node.blames_unsupported htext)

theorem ofSection_failsWithin (name : String) (node : Section) :
    FailsWithin node (ofSection name node) := by
  unfold ofSection
  split
  · exact node.invalid_failsWithin (by simp)
  · exact .bind (orderOfSection_failsWithin node) fun _ _ =>
      .bind (kindOfSection_failsWithin node) fun _ _ => .pure _

end ColumnSpec

namespace RowMapping

theorem declared_failsWithin (node : Section) : FailsWithin node (declared node) :=
  .bind (node.require_failsWithin (by decide)) fun items hitems =>
    .child (Section.require_eq_ok_iff.mp hitems) items.children_failsWithin

theorem ofSection_failsWithin (node : Section) : FailsWithin node (ofSection node) := by
  refine .bind (OutputFormat.requireRows_failsWithin node) fun _ _ =>
    .bind (declared_failsWithin node) fun columns hcolumns =>
    .bind (.mapM fun column hmem => ?_) fun _ _ => .pure _
  simp only [declared, Outcome.bind_eq_ok_iff, Section.require_eq_ok_iff] at hcolumns
  obtain ⟨items, hitems, hlisted⟩ := hcolumns
  intro error herror
  have hblames := ColumnSpec.ofSection_failsWithin column.1 column.2 error herror
  exact (hblames.listed hlisted hmem).child hitems

end RowMapping

/-! ## Binding references -/

namespace Binder

variable (binder : Binder) (scopes : Scopes) (reference : FieldRef) (target : Section)

theorem lookup_failsWithin (scope : Scope) (field : String) :
    FailsWithin target (binder.lookup scopes reference scope field target.path) := by
  unfold lookup
  split
  · exact .reports (.invalid (by simp))
  · split
    · exact .ok _
    · exact .reports (.unresolvable _ _)

theorem conversion_failsWithin (getter : ScalarGetter) (declared : Option ScalarType) :
    FailsWithin target (binder.conversion reference getter declared target.path) := by
  unfold conversion
  split
  · exact .ok _
  · split
    · exact .ok _
    · split
      · exact .ok _
      · exact .reports (.coercion _ _ _)

theorem scalar_failsWithin (declared : Option ScalarType) :
    FailsWithin target (binder.scalar scopes reference declared target.path) := by
  unfold scalar
  cases reference with
  | constant literal =>
      dsimp only [constant]
      split
      · exact .ok _
      · split
        · exact .ok _
        · exact .reports (.coercion _ _ _)
  | field scope field =>
      refine .bind (binder.lookup_failsWithin scopes _ target scope field) fun accessor _ => ?_
      cases accessor with
      | scalar getter =>
          exact .bind (binder.conversion_failsWithin _ target getter declared) fun _ _ => .pure _
      | items getter => exact .reports (.coercion _ _ _)
      | object getter => exact .reports (.coercion _ _ _)

theorem collection_failsWithin :
    FailsWithin target (binder.collection scopes reference target.path) := by
  unfold collection
  cases reference with
  | constant literal => exact .reports (.invalid (by simp))
  | field scope field =>
      refine .bind (binder.lookup_failsWithin scopes _ target scope field) fun accessor _ => ?_
      cases accessor with
      | items getter => exact .pure _
      | scalar getter => exact .reports (.coercion _ _ _)
      | object getter => exact .reports (.coercion _ _ _)

end Binder

namespace DocumentPlan

variable (binder : Binder)

mutual

theorem opsOfObject_failsWithin :
    ∀ (spec : ObjectSpec) (scopes : Scopes) (path : ConfigPath) (tree : Json),
      spec.Keeps path tree → FailsWithin ⟨path, tree⟩ (opsOfObject binder scopes spec)
  | ⟨place, fields⟩, scopes, path, tree, hkeeps => by
      rw [ObjectSpec.Keeps] at hkeeps
      obtain ⟨_, members, rfl, hfields⟩ := hkeeps
      rw [opsOfObject]
      have hmember := opsOfFields_failsInMember fields scopes true path members hfields
      exact .bind hmember.failsWithin fun _ _ => .pure _

theorem opsOfFields_failsInMember :
    ∀ (fields : List FieldSpec) (scopes : Scopes) (first : Bool) (path : ConfigPath)
      (members : List (String × Json)), FieldSpec.KeepAll path fields members →
      FieldSpec.FailsInMember path members (opsOfFields binder scopes first fields)
  | [], scopes, first, path, members, hkeeps => by
      intro error herror
      cases herror
  | ⟨key, place, node⟩ :: rest, scopes, first, path, members, hkeeps => by
      rw [FieldSpec.KeepAll] at hkeeps
      obtain ⟨tree, others, rfl, rfl, hnode, hrest⟩ := hkeeps
      rw [opsOfFields]
      exact .cons (opsOfNode_failsWithin node scopes (path.child key) tree hnode)
        (opsOfFields_failsInMember rest scopes false path others hrest)

theorem opsOfNode_failsWithin :
    ∀ (node : FieldNode) (scopes : Scopes) (path : ConfigPath) (tree : Json),
      node.Keeps path tree → FailsWithin ⟨path, tree⟩ (opsOfNode binder scopes path node)
  | .leaf reference type, scopes, path, tree, _ => by
      rw [opsOfNode]
      exact .bind (binder.scalar_failsWithin scopes reference ⟨path, tree⟩ type)
        fun _ _ => .pure _
  | .object spec, scopes, path, tree, hkeeps => by
      rw [FieldNode.Keeps] at hkeeps
      rw [opsOfNode]
      exact opsOfObject_failsWithin spec scopes path tree hkeeps
  | .array context contextPath items, scopes, path, tree, hkeeps => by
      rw [FieldNode.Keeps] at hkeeps
      obtain ⟨_, hcontext, rfl, itemTree, hmember, hitems⟩ := hkeeps
      have hcontextMember := Json.textAt?_eq_some_iff.mp hcontext
      rw [opsOfNode]
      refine .bind (.under hcontextMember (binder.collection_failsWithin scopes context
        ⟨path.child "context", _⟩)) fun source _ => ?_
      exact .bind (.under hmember (opsOfObject_failsWithin items _ (path.child "items")
        itemTree hitems)) fun _ _ => .pure _

end

theorem compile_failsWithin {scopes : Scopes} {spec : ObjectSpec} {node : Section}
    (hkeeps : spec.Keeps node.path node.node) :
    FailsWithin node (compile binder scopes spec) := by
  rw [compile_eq]
  exact .bind (opsOfObject_failsWithin binder spec scopes node.path node.node hkeeps) fun _ _ =>
    .pure _

end DocumentPlan

theorem Column.compile_failsWithin (binder : Binder) (scopes : Scopes) {path : ConfigPath}
    {column : ColumnSpec} {member : String × Json} (hkeeps : column.Keeps path member) :
    FailsWithin ⟨path.child member.1, member.2⟩ (compile binder scopes column) := by
  obtain ⟨_, hpath, _, hkind⟩ := hkeeps
  rw [compile, hpath]
  rw [hpath] at hkind
  cases hcolumn : column.kind with
  | scalar source type =>
      rw [hcolumn] at hkind
      obtain ⟨_, hsource, _⟩ := hkind
      have hmember := Json.textAt?_eq_some_iff.mp hsource
      exact .bind (.under hmember (binder.scalar_failsWithin scopes source
        ⟨(path.child member.1).child "source", _⟩ (some type))) fun _ _ => .pure _
  | json fields =>
      rw [hcolumn] at hkind
      obtain ⟨_, tree, hmember, hfields⟩ := hkind
      have hcompile : FailsWithin ⟨(path.child member.1).child "fields", tree⟩
          (DocumentPlan.compile binder scopes fields) :=
        DocumentPlan.compile_failsWithin binder hfields
      exact .bind (.under hmember hcompile) fun _ _ => .pure _

theorem RowPlan.compile_failsWithin (binder : Binder) (scopes : Scopes) {mapping : RowMapping}
    {node : Section} (hkeeps : mapping.Keeps node.path node.node) :
    FailsWithin node (compile binder scopes mapping) := by
  obtain ⟨_, members, columns, hmembers, hperm, hcolumns⟩ := hkeeps
  refine .bind (.mapM fun column hmem => ?_) fun _ _ => .pure _
  obtain ⟨index, rfl⟩ := List.mem_iff_get.mp (hperm.mem_iff.mp hmem)
  obtain ⟨hlength, hpaired⟩ := List.forall₂_iff_get.mp hcolumns
  have hindex : index.1 < members.length := hlength ▸ index.2
  have hcolumn := hpaired index.1 index.2 hindex
  have hmember := List.get_mem members ⟨index.1, hindex⟩
  intro error herror
  have hblames := Column.compile_failsWithin binder scopes hcolumn error herror
  exact (hblames.member hmember).under hmembers

/-! ## Fresh compilations -/

namespace Compiler

variable (compiler : Compiler) (event record : ShapeId) (node : Section)

theorem rowKey_failsWithin : FailsWithin node (compiler.rowKey event record node) :=
  .bind (OutputFormat.requireRows_failsWithin node) fun _ _ =>
    .bind (.bind (RowMapping.declared_failsWithin node) fun _ _ => .pure _) fun _ _ => .pure _

theorem documentKey_failsWithin :
    FailsWithin node (compiler.documentKey event record node) :=
  .bind node.children_failsWithin fun _ _ => .pure _

theorem freshRows_failsWithin : FailsWithin node (compiler.freshRows event record node) :=
  .bind (RowMapping.ofSection_failsWithin node) fun _ hmapping =>
    RowPlan.compile_failsWithin _ _ (RowMapping.keeps_of_ofSection hmapping)

theorem freshDocument_failsWithin :
    FailsWithin node (compiler.freshDocument event record node) :=
  .bind (ObjectSpec.ofNode_failsWithin node.node node.path) fun _ hspec =>
    DocumentPlan.compile_failsWithin _ (ObjectSpec.keeps_of_ofNode _ _ _ hspec)

theorem compileField_failsWithin :
    FailsWithin node (compiler.compileField event record node) :=
  .bind (FieldRef.ofSection_failsWithin node) fun reference _ =>
    Binder.scalar_failsWithin _ _ reference node _

end Compiler

namespace IndexTarget

theorem checkFormat_failsWithin (node : Section) : FailsWithin node (checkFormat node) := by
  refine .bind (node.optionalString_failsWithin _) fun name hname => ?_
  have htext := Section.textAt?_of_optionalString (by decide) hname
  cases name with
  | none => exact .pure ()
  | some name =>
      dsimp only
      split
      · exact .ok ()
      · exact .blames (node.blames_unsupported htext)

theorem parts_failsWithin (compiler : Compiler) (event record : ShapeId) (node : Section) :
    FailsWithin node (parts compiler event record node) := by
  have hindex : FailsWithin node (node.requireString "index") :=
    node.requireString_failsWithin (by decide)
  have hid : FailsWithin node (node.require "id") := node.require_failsWithin (by decide)
  have hfields : FailsWithin node (node.require "fields") := node.require_failsWithin (by decide)
  refine .bind hindex fun _ _ => .bind (checkFormat_failsWithin node) fun _ _ =>
    .bind hid fun id hfound => ?_
  have hget := Section.require_eq_ok_iff.mp hfound
  have hsource : FailsWithin node (compiler.compileField event record id) :=
    .child hget (compiler.compileField_failsWithin event record id)
  exact .bind hsource fun _ _ => .bind hfields fun _ _ => .pure _

end IndexTarget

end MappingPlan
