import MappingPlan.Proofs.CacheTransparency
import MappingPlan.Proofs.KeyRule
import MappingPlan.Proofs.Rendering

/-!
# Errors and the nodes that they are about

Whatever a compiler is asked to do with a section, an error has the path of a node that can be
reached from the section key by key.

Two steps lead there.  With a cache, a compiler fails as an unused one does, or it refuses a
plan of another format, and that is said about the section itself.  And the members in which an
error was found are those that a lookup by key gives, because no key of an object is repeated.
-/

namespace MappingPlan

namespace Json

/-- The keys of each object of a tree, at any depth, are distinct. -/
def Distinct (tree : Json) : Prop :=
  ∀ keys ∈ tree.keyLists, keys.Nodup

theorem distinct_object_iff {members : List (String × Json)} :
    (Json.object members).Distinct ↔
      (members.map Prod.fst).Nodup ∧ ∀ member ∈ members, member.2.Distinct := by
  simp only [Distinct, keyLists, List.forall_mem_cons, mem_memberKeyLists_iff]
  constructor
  · rintro ⟨hkeys, hvalues⟩
    exact ⟨hkeys, fun member hmem keys hin => hvalues keys ⟨member, hmem, hin⟩⟩
  · rintro ⟨hkeys, hvalues⟩
    refine ⟨hkeys, ?_⟩
    rintro keys ⟨member, hmem, hin⟩
    exact hvalues member hmem keys hin

end Json

namespace Section

variable {node target : Section} {keys : List String}

theorem Encloses.path_eq (hencloses : node.Encloses keys target) :
    target.path = node.path.descend keys := by
  induction hencloses with
  | self => rfl
  | member hmem hinner ih => exact ih

/-- Where keys are distinct, a section is found by the keys that lead to it. -/
theorem Encloses.follow? (hencloses : node.Encloses keys target)
    (hdistinct : node.node.Distinct) : node.node.follow? keys = some target.node := by
  induction hencloses with
  | self => rfl
  | member hmem hinner ih =>
      obtain ⟨hkeys, hvalues⟩ := Json.distinct_object_iff.mp hdistinct
      rw [Json.follow?_cons, Json.member?_object, Pairs.lookup_of_mem hkeys hmem,
        Option.bind_some]
      exact ih (hvalues _ hmem)

end Section

namespace Compiler

variable {compiler : Compiler} {event record : ShapeId} {node : Section} {cache : PlanCache}
  {error : CompileError}

/-- What goes wrong with a plan goes wrong without a cache, or else it is the choice of the
plan that fails. -/
theorem planFor_error {α : Type} {key : Result PlanKey} {compile : PlanKey → Result CachedPlan}
    {choose : CachedPlan → Result α}
    (hfailed : (planFor key compile cache).1 >>= choose = .error error) :
    (planFor key compile .empty).1 >>= choose = .error error ∨
      ∃ plan, choose plan = .error error := by
  rcases planFor_cases key compile cache with
    ⟨cause, hcause, hplan⟩ | ⟨_, plan, _, ⟨_, hplan⟩ | ⟨_, hplan⟩⟩
  · rw [hplan] at hfailed
    rcases planFor_cases key compile .empty with
      ⟨other, hother, hempty⟩ | ⟨found, plan, hkey, ⟨hget, _⟩ | ⟨hcompile, _⟩⟩
    · rw [hcause] at hother
      cases hother
      rw [hempty]
      exact .inl hfailed
    · cases hget
    · rw [hkey, Outcome.ok_bind, hcompile] at hcause
      cases hcause
  · rw [hplan, Outcome.ok_bind] at hfailed
    exact .inr ⟨plan, hfailed⟩
  · rw [hplan, Outcome.ok_bind] at hfailed
    exact .inr ⟨plan, hfailed⟩

/-- A cache only adds the refusal of a plan of the other format. -/
theorem compileRows_error
    (hfailed : (compiler.compileRows event record node cache).1 = .error error) :
    (compiler.compileRows event record node .empty).1 = .error error ∨
      error = .invalid node.path .otherFormatCached := by
  refine (planFor_error hfailed).imp_right ?_
  rintro ⟨plan, hchosen⟩
  cases plan with
  | rows shared => cases hchosen
  | document shared =>
      cases hchosen
      rfl

theorem compileDocument_error
    (hfailed : (compiler.compileDocument event record node cache).1 = .error error) :
    (compiler.compileDocument event record node .empty).1 = .error error ∨
      error = .invalid node.path .otherFormatCached := by
  refine (planFor_error hfailed).imp_right ?_
  rintro ⟨plan, hchosen⟩
  cases plan with
  | rows shared =>
      cases hchosen
      rfl
  | document shared => cases hchosen

/-- The same for a call, where the plan may be that of the fields of an index. -/
theorem answerAt_error {call : Call}
    (hfailed : (compiler.answerAt call node cache).1 = .error error) :
    (compiler.answerAt call node .empty).1 = .error error ∨
      ∃ keys target, node.Encloses keys target ∧
        error = .invalid target.path .otherFormatCached := by
  have hself : error = .invalid node.path .otherFormatCached →
      ∃ keys target, node.Encloses keys target ∧
        error = .invalid target.path .otherFormatCached :=
    fun hrefused => ⟨[], node, .self, hrefused⟩
  obtain ⟨request, event, record, path⟩ := call
  cases request with
  | mapping =>
      simp only [answerAt, compileMapping_eq, Outcome.map_eq_error_iff] at hfailed ⊢
      exact (compileRows_error hfailed).imp_right hself
  | rows =>
      simp only [answerAt, Outcome.map_eq_error_iff] at hfailed ⊢
      exact (compileRows_error hfailed).imp_right hself
  | document =>
      simp only [answerAt, Outcome.map_eq_error_iff] at hfailed ⊢
      exact (compileDocument_error hfailed).imp_right hself
  | field => exact .inl hfailed
  | table =>
      simp only [answerAt, TableTarget.compile, Outcome.map_eq_error_iff] at hfailed ⊢
      cases htable : node.requireString "table" with
      | error cause =>
          rw [htable] at hfailed
          exact .inl hfailed
      | ok table =>
          simp only [htable, Outcome.map_eq_error_iff] at hfailed ⊢
          exact (compileRows_error hfailed).imp_right hself
  | index =>
      simp only [answerAt, IndexTarget.compile, Outcome.map_eq_error_iff] at hfailed ⊢
      cases hparts : IndexTarget.parts compiler event record node with
      | error cause =>
          rw [hparts] at hfailed
          exact .inl hfailed
      | ok parts =>
          simp only [hparts, Outcome.map_eq_error_iff] at hfailed ⊢
          refine (compileDocument_error hfailed).imp_right fun hrefused => ?_
          exact ⟨_, _, .child (IndexTarget.get?_of_parts hparts) .self, hrefused⟩

/-- Every error about a section, whatever the compiler is asked for and whatever its cache
holds, has the path of a node that some keys lead to.  A key said to be missing is not in
that node.  Only the path for a missing format has one more key, and it is that which the
node does not have. -/
theorem error_at_node (compiler : Compiler) {call : Call} {node : Section} {cache : PlanCache}
    {error : CompileError} (hdistinct : node.node.Distinct)
    (hfailed : (compiler.answerAt call node cache).1 = .error error) :
    ∃ keys target, node.node.follow? keys = some target ∧
      ((error.path? = some (node.path.descend keys) ∧
          ∀ path key, error = .missingKey path key → target.member? key = none) ∨
        (error = .unsupportedFormat ((node.path.descend keys).child "format") "<missing>" ∧
          target.member? "format" = none)) := by
  rcases answerAt_error hfailed with hfresh | ⟨keys, target, hencloses, rfl⟩
  · obtain ⟨keys, target, hencloses, hreports⟩ := answerAt_empty_failsWithin call node error hfresh
    refine ⟨keys, target.node, hencloses.follow? hdistinct, ?_⟩
    rw [← hencloses.path_eq]
    cases hreports with
    | missingKey habsent =>
        refine .inl ⟨rfl, fun path key hkey => ?_⟩
        cases hkey
        exact habsent
    | missingFormat habsent => exact .inr ⟨rfl, habsent⟩
    | unsupportedFormat _ => exact .inl ⟨rfl, by simp⟩
    | invalid _ => exact .inl ⟨rfl, by simp⟩
    | unresolvable _ _ => exact .inl ⟨rfl, by simp⟩
    | coercion _ _ _ => exact .inl ⟨rfl, by simp⟩
  · refine ⟨keys, target.node, hencloses.follow? hdistinct, .inl ⟨?_, by simp⟩⟩
    rw [← hencloses.path_eq]
    rfl

end Compiler

/-- An index whose documents name a field that a line of an order does not have. -/
def Orders.misspelled : Section :=
  ⟨⟨"orders"⟩, .object [
    ("index", .string "orders"), ("id", .string "record.Id"),
    ("fields", .object [
      ("id", .string "record.Id"),
      ("lines", .object [
        ("type", .string "array"), ("context", .string "record.Lines"),
        ("items", .object [("sku", .string "item.Sku"), ("note", .string "item.Note")])])])]⟩

theorem Compiler.error_at_node_misspelled :
    Orders.misspelled.node.Distinct ∧
      ∃ error, error.path? = some ⟨"orders:fields:lines:items:note"⟩ ∧
        (answerAt ⟨Orders.registry.resolve, {}, id⟩ ⟨.index, Orders.placed, Orders.order, ""⟩
          Orders.misspelled .empty).1 = .error error ∧
        ∃ keys target, Orders.misspelled.node.follow? keys = some target ∧
          ((error.path? = some (Orders.misspelled.path.descend keys) ∧
              ∀ path key, error = .missingKey path key → target.member? key = none) ∨
            (error = .unsupportedFormat
                ((Orders.misspelled.path.descend keys).child "format") "<missing>" ∧
              target.member? "format" = none)) := by
  have hdistinct : Orders.misspelled.node.Distinct := by
    unfold Json.Distinct
    decide +kernel
  have hfailed : (answerAt ⟨Orders.registry.resolve, {}, id⟩
      ⟨.index, Orders.placed, Orders.order, ""⟩ Orders.misspelled .empty).1 =
        .error (.unresolvable ⟨"orders:fields:lines:items:note"⟩ (.field .item "Note")
          Orders.line) := by
    decide +kernel
  exact ⟨hdistinct, _, rfl, hfailed, error_at_node _ hdistinct hfailed⟩

end MappingPlan
