import MappingPlan.Proofs.CacheTransparency
import MappingPlan.Proofs.Rendering

/-!
# Allowing more conversions

A compiler is told which conversions it may use.  With more of them allowed, every mapping
that was compiled before is compiled to the same plan: a reference that has the declared
type is not converted, and one that is converted is converted to the declared type, so what
else is allowed never decides between two plans.

The two compilers are compared call by call.  Only the conversion of a field looks at what
is allowed; everything above it passes successes on.
-/

namespace MappingPlan

/-- What the first conversions allow, the others allow too. -/
structure Coercions.Within (strict relaxed : Coercions) : Prop where
  toString : strict.toString = true → relaxed.toString = true
  intToDecimal : strict.intToDecimal = true → relaxed.intToDecimal = true

def Compiler.withCoercions (compiler : Compiler) (coercions : Coercions) : Compiler :=
  { compiler with coercions }

theorem ScalarType.coercibleTo_of_within {strict relaxed : Coercions}
    (hwithin : strict.Within relaxed) {actual target : ScalarType}
    (hallowed : actual.coercibleTo target strict = true) :
    actual.coercibleTo target relaxed = true := by
  by_cases hsame : actual = target
  · rw [hsame, coercibleTo_self]
  · have hbeq : (actual == target) = false := by simpa using hsame
    simp only [coercibleTo, hbeq, Bool.false_or] at hallowed ⊢
    split at hallowed
    · exact hwithin.toString hallowed
    · exact hwithin.intToDecimal hallowed
    · cases hallowed

/-! ## Binding -/

section Binding

variable {resolver : Resolver} {strict relaxed : Coercions}

namespace Binder

variable {scopes : Scopes} {reference : FieldRef} {declared : Option ScalarType}
  {path : ConfigPath}

theorem conversion_of_within (hwithin : strict.Within relaxed) {getter : ScalarGetter}
    {target : Option ScalarType}
    (hstrict : conversion ⟨resolver, strict⟩ reference getter declared path = .ok target) :
    conversion ⟨resolver, relaxed⟩ reference getter declared path = .ok target := by
  cases declared with
  | none => exact hstrict
  | some type =>
      simp only [conversion] at hstrict ⊢
      by_cases hsame : type = getter.type
      · rw [if_pos hsame] at hstrict ⊢
        exact hstrict
      · rw [if_neg hsame] at hstrict ⊢
        split at hstrict
        next hallowed =>
          have hmore := ScalarType.coercibleTo_of_within hwithin hallowed
          rw [if_pos hmore]
          exact hstrict
        next => cases hstrict

theorem scalar_of_within (hwithin : strict.Within relaxed) {source : ValueSource}
    (hstrict : scalar ⟨resolver, strict⟩ scopes reference declared path = .ok source) :
    scalar ⟨resolver, relaxed⟩ scopes reference declared path = .ok source := by
  cases reference with
  | constant literal => exact hstrict
  | field scope field =>
      simp only [scalar, Outcome.bind_eq_ok_iff] at hstrict ⊢
      obtain ⟨accessor, hlookup, hrest⟩ := hstrict
      refine ⟨accessor, hlookup, ?_⟩
      cases accessor with
      | scalar getter =>
          simp only [Outcome.bind_eq_ok_iff] at hrest ⊢
          obtain ⟨target, htarget, hsource⟩ := hrest
          exact ⟨target, conversion_of_within hwithin htarget, hsource⟩
      | items getter => cases hrest
      | object getter => cases hrest

end Binder

/-! ## Plans -/

namespace DocumentPlan

mutual

theorem opsOfObject_of_within (hwithin : strict.Within relaxed) :
    ∀ (spec : ObjectSpec) (scopes : Scopes) (ops : List Op),
      opsOfObject ⟨resolver, strict⟩ scopes spec = .ok ops →
      opsOfObject ⟨resolver, relaxed⟩ scopes spec = .ok ops
  | ⟨_, fields⟩, scopes, ops, hstrict => by
      rw [opsOfObject, Outcome.bind_eq_ok_iff] at hstrict ⊢
      obtain ⟨body, hbody, hops⟩ := hstrict
      exact ⟨body, opsOfFields_of_within hwithin fields scopes true body hbody, hops⟩

theorem opsOfFields_of_within (hwithin : strict.Within relaxed) :
    ∀ (fields : List FieldSpec) (scopes : Scopes) (first : Bool) (ops : List Op),
      opsOfFields ⟨resolver, strict⟩ scopes first fields = .ok ops →
      opsOfFields ⟨resolver, relaxed⟩ scopes first fields = .ok ops
  | [], _, _, _, hstrict => by
      rw [opsOfFields] at hstrict ⊢
      exact hstrict
  | ⟨_, path, node⟩ :: rest, scopes, first, ops, hstrict => by
      simp only [opsOfFields, Outcome.bind_eq_ok_iff] at hstrict ⊢
      obtain ⟨value, hvalue, others, hothers, hops⟩ := hstrict
      exact ⟨value, opsOfNode_of_within hwithin node scopes path value hvalue,
        others, opsOfFields_of_within hwithin rest scopes false others hothers, hops⟩

theorem opsOfNode_of_within (hwithin : strict.Within relaxed) :
    ∀ (node : FieldNode) (scopes : Scopes) (path : ConfigPath) (ops : List Op),
      opsOfNode ⟨resolver, strict⟩ scopes path node = .ok ops →
      opsOfNode ⟨resolver, relaxed⟩ scopes path node = .ok ops
  | .leaf reference type, scopes, path, ops, hstrict => by
      rw [opsOfNode, Outcome.bind_eq_ok_iff] at hstrict ⊢
      obtain ⟨source, hsource, hops⟩ := hstrict
      exact ⟨source, Binder.scalar_of_within hwithin hsource, hops⟩
  | .object spec, scopes, path, ops, hstrict => by
      rw [opsOfNode] at hstrict ⊢
      exact opsOfObject_of_within hwithin spec scopes ops hstrict
  | .array context contextPath items, scopes, path, ops, hstrict => by
      simp only [opsOfNode, Outcome.bind_eq_ok_iff] at hstrict ⊢
      -- binding a collection does not look at the conversions
      obtain ⟨source, hsource, body, hbody, hops⟩ := hstrict
      exact ⟨source, hsource, body, opsOfObject_of_within hwithin items _ body hbody, hops⟩

end

theorem compile_of_within (hwithin : strict.Within relaxed) {scopes : Scopes}
    {spec : ObjectSpec} {plan : DocumentPlan}
    (hstrict : compile ⟨resolver, strict⟩ scopes spec = .ok plan) :
    compile ⟨resolver, relaxed⟩ scopes spec = .ok plan := by
  rw [compile_eq_ok_iff] at hstrict ⊢
  exact opsOfObject_of_within hwithin spec scopes plan.ops hstrict

end DocumentPlan

theorem Column.compile_of_within (hwithin : strict.Within relaxed) {scopes : Scopes}
    {spec : ColumnSpec} {column : Column}
    (hstrict : compile ⟨resolver, strict⟩ scopes spec = .ok column) :
    compile ⟨resolver, relaxed⟩ scopes spec = .ok column := by
  unfold compile at hstrict ⊢
  cases hkind : spec.kind with
  | scalar reference type =>
      simp only [hkind, Outcome.bind_eq_ok_iff] at hstrict ⊢
      obtain ⟨source, hsource, hcolumn⟩ := hstrict
      exact ⟨source, Binder.scalar_of_within hwithin hsource, hcolumn⟩
  | json fields =>
      simp only [hkind, Outcome.bind_eq_ok_iff] at hstrict ⊢
      obtain ⟨plan, hplan, hcolumn⟩ := hstrict
      exact ⟨plan, DocumentPlan.compile_of_within hwithin hplan, hcolumn⟩

theorem RowPlan.compile_of_within (hwithin : strict.Within relaxed) {scopes : Scopes}
    {mapping : RowMapping} {plan : RowPlan}
    (hstrict : compile ⟨resolver, strict⟩ scopes mapping = .ok plan) :
    compile ⟨resolver, relaxed⟩ scopes mapping = .ok plan := by
  rw [compile, Outcome.bind_eq_ok_iff] at hstrict ⊢
  obtain ⟨columns, hcolumns, hplan⟩ := hstrict
  refine ⟨columns, ?_, hplan⟩
  rw [Outcome.mapM_eq_ok_iff] at hcolumns ⊢
  exact hcolumns.imp fun spec column => Column.compile_of_within hwithin

end Binding

/-! ## Calls -/

namespace Compiler

variable {compiler : Compiler} {relaxed : Coercions} {event record : ShapeId} {node : Section}

theorem compileRows_of_within (hwithin : compiler.coercions.Within relaxed)
    {shared : Shared RowPlan}
    (hstrict : (compiler.compileRows event record node .empty).1 = .ok shared) :
    ((compiler.withCoercions relaxed).compileRows event record node .empty).1 =
      .ok shared := by
  rw [compileRows_empty_eq_ok_iff] at hstrict ⊢
  obtain ⟨hkey, hplan⟩ := hstrict
  refine ⟨hkey, ?_⟩
  rw [freshRows, Outcome.bind_eq_ok_iff] at hplan ⊢
  obtain ⟨mapping, hmapping, hcompiled⟩ := hplan
  exact ⟨mapping, hmapping, RowPlan.compile_of_within hwithin hcompiled⟩

theorem compileDocument_of_within (hwithin : compiler.coercions.Within relaxed)
    {shared : Shared DocumentPlan}
    (hstrict : (compiler.compileDocument event record node .empty).1 = .ok shared) :
    ((compiler.withCoercions relaxed).compileDocument event record node .empty).1 =
      .ok shared := by
  rw [compileDocument_empty_eq_ok_iff] at hstrict ⊢
  obtain ⟨hkey, hplan⟩ := hstrict
  refine ⟨hkey, ?_⟩
  rw [freshDocument, Outcome.bind_eq_ok_iff] at hplan ⊢
  obtain ⟨spec, hspec, hcompiled⟩ := hplan
  exact ⟨spec, hspec, DocumentPlan.compile_of_within hwithin hcompiled⟩

theorem compileField_of_within (hwithin : compiler.coercions.Within relaxed)
    {source : ValueSource} (hstrict : compiler.compileField event record node = .ok source) :
    (compiler.withCoercions relaxed).compileField event record node = .ok source := by
  rw [compileField, Outcome.bind_eq_ok_iff] at hstrict ⊢
  obtain ⟨reference, hreference, hsource⟩ := hstrict
  exact ⟨reference, hreference, Binder.scalar_of_within hwithin hsource⟩

theorem indexParts_of_within
    (hwithin : compiler.coercions.Within relaxed) {parts : String × ValueSource × Section}
    (hstrict : IndexTarget.parts compiler event record node = .ok parts) :
    IndexTarget.parts (compiler.withCoercions relaxed) event record node = .ok parts := by
  simp only [IndexTarget.parts, Outcome.bind_eq_ok_iff] at hstrict ⊢
  obtain ⟨index, hindex, format, hformat, id, hid, source, hsource, hrest⟩ := hstrict
  exact ⟨index, hindex, format, hformat, id, hid, source,
    compileField_of_within hwithin hsource, hrest⟩

/-- Whatever a compiler makes of a section, a compiler that allows more conversions makes
the same of it: the same columns, instructions and conversions, under the same key. -/
theorem answerAt_of_within (hwithin : compiler.coercions.Within relaxed) {call : Call}
    {answer : Answer} (hstrict : (compiler.answerAt call node .empty).1 = .ok answer) :
    ((compiler.withCoercions relaxed).answerAt call node .empty).1 = .ok answer := by
  obtain ⟨request, event, record, path⟩ := call
  cases request with
  | mapping =>
      simp only [answerAt, compileMapping_eq, Outcome.map_eq_ok_iff] at hstrict ⊢
      obtain ⟨shared, hshared, hanswer⟩ := hstrict
      exact ⟨shared, compileRows_of_within hwithin hshared, hanswer⟩
  | rows =>
      simp only [answerAt, Outcome.map_eq_ok_iff] at hstrict ⊢
      obtain ⟨shared, hshared, hanswer⟩ := hstrict
      exact ⟨shared, compileRows_of_within hwithin hshared, hanswer⟩
  | document =>
      simp only [answerAt, Outcome.map_eq_ok_iff] at hstrict ⊢
      obtain ⟨shared, hshared, hanswer⟩ := hstrict
      exact ⟨shared, compileDocument_of_within hwithin hshared, hanswer⟩
  | field =>
      simp only [answerAt, Outcome.map_eq_ok_iff] at hstrict ⊢
      obtain ⟨source, hsource, hanswer⟩ := hstrict
      exact ⟨source, compileField_of_within hwithin hsource, hanswer⟩
  | table =>
      simp only [answerAt, TableTarget.compile] at hstrict ⊢
      cases htable : node.requireString "table" with
      | error error => simp [htable, Except.map] at hstrict
      | ok table =>
          simp only [htable, Outcome.map_eq_ok_iff] at hstrict ⊢
          obtain ⟨target, ⟨shared, hshared, htarget⟩, hanswer⟩ := hstrict
          exact ⟨target, ⟨shared, compileRows_of_within hwithin hshared, htarget⟩, hanswer⟩
  | index =>
      simp only [answerAt, IndexTarget.compile] at hstrict ⊢
      cases hparts : IndexTarget.parts compiler event record node with
      | error error => simp [hparts, Except.map] at hstrict
      | ok parts =>
          have hrelaxed := indexParts_of_within hwithin hparts
          simp only [hparts, hrelaxed, Outcome.map_eq_ok_iff] at hstrict ⊢
          obtain ⟨target, ⟨shared, hshared, htarget⟩, hanswer⟩ := hstrict
          exact ⟨target, ⟨shared, compileDocument_of_within hwithin hshared, htarget⟩, hanswer⟩

end Compiler

/-- An integer as a decimal at the top, and the element of an array below. -/
def Orders.index : Section :=
  ⟨.root, .object [
    ("index", .string "orders"), ("id", .string "record.Id"),
    ("fields", .object [
      ("amount", .object [("source", .string "record.Id"), ("type", .string "decimal")]),
      ("lines", .object [
        ("type", .string "array"), ("context", .string "record.Lines"),
        ("items", .object [("sku", .string "item.Sku")])])])]⟩

/-- An index of documents that needs one conversion, compiled with that conversion alone and
with all of them. -/
theorem Compiler.answerAt_of_within_index :
    ∃ answer,
      (answerAt ⟨Orders.registry.resolve, ⟨false, true⟩, id⟩
        ⟨.index, Orders.placed, Orders.order, ""⟩ Orders.index .empty).1 = .ok answer ∧
      (answerAt ⟨Orders.registry.resolve, ⟨true, true⟩, id⟩
        ⟨.index, Orders.placed, Orders.order, ""⟩ Orders.index .empty).1 = .ok answer := by
  have hwithin : Coercions.Within ⟨false, true⟩ ⟨true, true⟩ :=
    ⟨fun _ => rfl, fun _ => rfl⟩
  cases hanswer : (answerAt ⟨Orders.registry.resolve, ⟨false, true⟩, id⟩
      ⟨.index, Orders.placed, Orders.order, ""⟩ Orders.index .empty).1 with
  | error error =>
      have haccepted : (answerAt ⟨Orders.registry.resolve, ⟨false, true⟩, id⟩
          ⟨.index, Orders.placed, Orders.order, ""⟩ Orders.index .empty).1.toBool = true := by
        decide +kernel
      rw [hanswer] at haccepted
      cases haccepted
  | ok answer => exact ⟨answer, rfl, answerAt_of_within hwithin hanswer⟩

end MappingPlan
