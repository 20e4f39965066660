import MappingPlan.Plan.Row
import MappingPlan.Proofs.CompiledOps
import MappingPlan.Proofs.Reading

/-!
# Well-typed mappings

Whether a mapping can be compiled is a question of types.  Every reference has to see the
scope that it names, a leaf has to find a scalar that may stand for what is declared, a
constant has to be a literal of its type, and the context of an array has to find a
collection, whose elements give the shape of `item` for what stands under it.

Compiling comes upon the references of a mapping in the order in which they are listed
here: columns as they come out, fields as they are declared, the context of an array before
its items.  It succeeds if every reference is used well, and otherwise it reports the first
one that is not.
-/

namespace MappingPlan

/-! ## Typing -/

/-- A scalar of the first type may stand where the second is declared. -/
inductive Coercions.Feeds (coercions : Coercions) : ScalarType → ScalarType → Prop where
  | same (type : ScalarType) : Feeds coercions type type
  | toString (actual : ScalarType) (hallowed : coercions.toString = true) :
      Feeds coercions actual .string
  | intToDecimal (hallowed : coercions.intToDecimal = true) : Feeds coercions .int .decimal

namespace Binder

/-- A reference that gives a value of the type that is declared, if one is. -/
inductive GivesScalar (binder : Binder) (scopes : Scopes) :
    FieldRef → Option ScalarType → Prop where
  | field {scope : Scope} {path : String} {shape : ShapeId} {getter : ScalarGetter}
      {declared : Option ScalarType}
      (hscope : scopes.shape? scope = some shape)
      (hresolve : binder.resolver shape path = some (.scalar getter))
      (htype : ∀ type, declared = some type → binder.coercions.Feeds getter.type type) :
      GivesScalar binder scopes (.field scope path) declared
  | constant {literal : String} {declared : Option ScalarType}
      (hliteral : ∀ type, declared = some type →
        ∃ value, Value.ofLiteral? type literal = some value) :
      GivesScalar binder scopes (.constant literal) declared

/-- A reference that gives a collection with elements of a shape. -/
inductive GivesItems (binder : Binder) (scopes : Scopes) : FieldRef → ShapeId → Prop where
  | field {scope : Scope} {path : String} {shape : ShapeId} {getter : ItemsGetter}
      (hscope : scopes.shape? scope = some shape)
      (hresolve : binder.resolver shape path = some (.items getter)) :
      GivesItems binder scopes (.field scope path) getter.element

end Binder

section Judgement

variable (binder : Binder)

mutual

def ObjectSpec.WellTyped (scopes : Scopes) : ObjectSpec → Prop
  | ⟨_, fields⟩ => FieldSpec.AllWellTyped scopes fields

def FieldSpec.AllWellTyped (scopes : Scopes) : List FieldSpec → Prop
  | [] => True
  | ⟨_, _, node⟩ :: rest => node.WellTyped scopes ∧ FieldSpec.AllWellTyped scopes rest

def FieldNode.WellTyped (scopes : Scopes) : FieldNode → Prop
  | .leaf source type => binder.GivesScalar scopes source type
  | .object spec => spec.WellTyped scopes
  | .array context _ items =>
      ∃ element, binder.GivesItems scopes context element ∧
        items.WellTyped (scopes.withItem element)

end

def ColumnSpec.WellTyped (scopes : Scopes) (column : ColumnSpec) : Prop :=
  match column.kind with
  | .scalar source type => binder.GivesScalar scopes source (some type)
  | .json fields => fields.WellTyped binder scopes

def RowMapping.WellTyped (scopes : Scopes) (mapping : RowMapping) : Prop :=
  ∀ column ∈ mapping.columns, column.WellTyped binder scopes

end Judgement

/-! ## Uses of references -/

/-- A reference at its place, with the scopes that are open there. -/
inductive Use where
  | value (scopes : Scopes) (reference : FieldRef) (declared : Option ScalarType)
      (path : ConfigPath)
  | collection (scopes : Scopes) (reference : FieldRef) (path : ConfigPath)

namespace Use

variable (binder : Binder)

def Good : Use → Prop
  | value scopes reference declared _ => binder.GivesScalar scopes reference declared
  | collection scopes reference _ => ∃ element, binder.GivesItems scopes reference element

/-- What a place of the declared type asks for. -/
def demand : Option ScalarType → Demand
  | some type => .declared type
  | none => .anyScalar

/-- The ways to use a reference badly, with what is reported. -/
inductive Fault : Use → CompileError → Prop where
  | valueOutside {scopes scope field declared path}
      (hscope : scopes.shape? scope = none) :
      Fault (.value scopes (.field scope field) declared path)
        (.invalid path (.itemOutsideArray (.field scope field)))
  | valueUnresolvable {scopes scope field declared path shape}
      (hscope : scopes.shape? scope = some shape)
      (hresolve : binder.resolver shape field = none) :
      Fault (.value scopes (.field scope field) declared path)
        (.unresolvable path (.field scope field) shape)
  | notScalar {scopes scope field declared path shape accessor}
      (hscope : scopes.shape? scope = some shape)
      (hresolve : binder.resolver shape field = some accessor)
      (hkind : ∀ getter, accessor ≠ .scalar getter) :
      Fault (.value scopes (.field scope field) declared path)
        (.coercion path (.field scope field) (demand declared) (.field accessor))
  | otherType {scopes scope field path shape getter type}
      (hscope : scopes.shape? scope = some shape)
      (hresolve : binder.resolver shape field = some (.scalar getter))
      (htype : ¬binder.coercions.Feeds getter.type type) :
      Fault (.value scopes (.field scope field) (some type) path)
        (.coercion path (.field scope field) (.declared type) (.field (.scalar getter)))
  | badLiteral {scopes literal path type}
      (hliteral : Value.ofLiteral? type literal = none) :
      Fault (.value scopes (.constant literal) (some type) path)
        (.coercion path (.constant literal) (.declared type) (.literal literal))
  | constantContext {scopes literal path} :
      Fault (.collection scopes (.constant literal) path) (.invalid path .constantContext)
  | collectionOutside {scopes scope field path}
      (hscope : scopes.shape? scope = none) :
      Fault (.collection scopes (.field scope field) path)
        (.invalid path (.itemOutsideArray (.field scope field)))
  | collectionUnresolvable {scopes scope field path shape}
      (hscope : scopes.shape? scope = some shape)
      (hresolve : binder.resolver shape field = none) :
      Fault (.collection scopes (.field scope field) path)
        (.unresolvable path (.field scope field) shape)
  | notCollection {scopes scope field path shape accessor}
      (hscope : scopes.shape? scope = some shape)
      (hresolve : binder.resolver shape field = some accessor)
      (hkind : ∀ getter, accessor ≠ .items getter) :
      Fault (.collection scopes (.field scope field) path)
        (.coercion path (.field scope field) .collection (.field accessor))

end Use

section Listing

variable (binder : Binder)

/-- The shape of the elements of a context, if it is a collection. -/
def Binder.element? (scopes : Scopes) : FieldRef → Option ShapeId
  | .constant _ => none
  | .field scope path =>
      match (scopes.shape? scope).bind (binder.resolver · path) with
      | some (.items getter) => some getter.element
      | _ => none

mutual

def ObjectSpec.uses (scopes : Scopes) : ObjectSpec → List Use
  | ⟨_, fields⟩ => FieldSpec.uses scopes fields

def FieldSpec.uses (scopes : Scopes) : List FieldSpec → List Use
  | [] => []
  | ⟨_, path, node⟩ :: rest => node.uses scopes path ++ FieldSpec.uses scopes rest

/-- What stands under a context that is no collection has no shape for its items, and is
not looked at. -/
def FieldNode.uses (scopes : Scopes) (path : ConfigPath) : FieldNode → List Use
  | .leaf source type => [.value scopes source type path]
  | .object spec => spec.uses scopes
  | .array context contextPath items =>
      .collection scopes context contextPath ::
        match binder.element? scopes context with
        | some element => items.uses (scopes.withItem element)
        | none => []

end

def ColumnSpec.uses (scopes : Scopes) (column : ColumnSpec) : List Use :=
  match column.kind with
  | .scalar source type => [.value scopes source (some type) (column.path.child "source")]
  | .json fields => fields.uses binder scopes

def RowMapping.uses (scopes : Scopes) (mapping : RowMapping) : List Use :=
  mapping.columns.flatMap (ColumnSpec.uses binder scopes)

end Listing

/-! ## Checking one use -/

theorem ScalarType.coercibleTo_iff {actual target : ScalarType} {coercions : Coercions} :
    actual.coercibleTo target coercions = true ↔ coercions.Feeds actual target := by
  constructor
  · intro hcoercible
    by_cases hsame : actual = target
    · exact hsame ▸ .same actual
    · simp only [coercibleTo, beq_eq_false_iff_ne.mpr hsame, Bool.false_or] at hcoercible
      split at hcoercible
      · exact .toString _ hcoercible
      · exact .intToDecimal hcoercible
      · cases hcoercible
  · intro hfeeds
    cases hfeeds with
    | same => exact coercibleTo_self actual coercions
    | toString _ hallowed => simp [coercibleTo, hallowed]
    | intToDecimal hallowed => simp [coercibleTo, hallowed]

theorem Binder.conversion_eq_ok {binder : Binder} {reference : FieldRef}
    {getter : ScalarGetter} {declared : Option ScalarType} {path : ConfigPath}
    (htype : ∀ type, declared = some type → binder.coercions.Feeds getter.type type) :
    ∃ target, binder.conversion reference getter declared path = .ok target := by
  cases declared with
  | none => exact ⟨none, rfl⟩
  | some type =>
      by_cases hsame : type = getter.type
      · exact ⟨none, by simp [conversion, hsame]⟩
      · have hcoercible := ScalarType.coercibleTo_iff.mpr (htype type rfl)
        exact ⟨some type, by simp [conversion, hsame, hcoercible]⟩

namespace Use

variable (binder : Binder)

def check : Use → Result Unit
  | value scopes reference declared path =>
      (binder.scalar scopes reference declared path).map fun _ => ()
  | collection scopes reference path =>
      (binder.collection scopes reference path).map fun _ => ()

variable {binder} {use : Use}

theorem check_of_good (hgood : use.Good binder) : use.check binder = .ok () := by
  cases use with
  | value scopes reference declared path =>
      refine Outcome.map_eq_ok_iff.mpr ?_
      cases hgood with
      | @field scope field shape getter _ hscope hresolve htype =>
          obtain ⟨target, htarget⟩ := Binder.conversion_eq_ok htype
          refine ⟨.field (.field scope field) scope getter target, ?_, rfl⟩
          simp only [Binder.scalar]
          refine Outcome.bind_eq_ok_iff.mpr
            ⟨.scalar getter, Binder.lookup_eq_ok_iff.mpr ⟨shape, hscope, hresolve⟩, ?_⟩
          exact Outcome.bind_eq_ok_iff.mpr ⟨target, htarget, rfl⟩
      | @constant literal _ hliteral =>
          cases declared with
          | none => exact ⟨_, rfl, rfl⟩
          | some type =>
              obtain ⟨value, hvalue⟩ := hliteral type rfl
              exact ⟨.constant value, by simp [Binder.scalar, Binder.constant, hvalue], rfl⟩
  | collection scopes reference path =>
      obtain ⟨element, hgood⟩ := hgood
      cases hgood with
      | @field scope field shape getter hscope hresolve =>
          refine Outcome.map_eq_ok_iff.mpr ⟨⟨.field scope field, scope, getter⟩, ?_, rfl⟩
          simp only [Binder.collection]
          exact Outcome.bind_eq_ok_iff.mpr
            ⟨.items getter, Binder.lookup_eq_ok_iff.mpr ⟨shape, hscope, hresolve⟩, rfl⟩

theorem check_of_fault {error : CompileError} (hfault : use.Fault binder error) :
    use.check binder = .error error := by
  cases use with
  | value scopes reference declared path =>
      refine Outcome.map_eq_error_iff.mpr ?_
      cases hfault with
      | valueOutside hscope => simp only [Binder.scalar, Binder.lookup, hscope, Outcome.error_bind]
      | valueUnresolvable hscope hresolve =>
          simp only [Binder.scalar, Binder.lookup, hscope, hresolve, Outcome.error_bind]
      | @notScalar _ _ _ _ _ _ accessor hscope hresolve hkind =>
          simp only [Binder.scalar, Binder.lookup, hscope, hresolve, Outcome.ok_bind]
          cases accessor with
          | scalar getter => exact absurd rfl (hkind getter)
          | items getter => cases declared <;> rfl
          | object getter => cases declared <;> rfl
      | @otherType _ _ _ _ _ getter type hscope hresolve htype =>
          have hother : type ≠ getter.type := fun hsame => htype (hsame ▸ .same _)
          have hrefused : getter.type.coercibleTo type binder.coercions = false := by
            simpa using mt ScalarType.coercibleTo_iff.mp htype
          simp only [Binder.scalar, Binder.lookup, hscope, hresolve, Outcome.ok_bind,
            Binder.conversion, if_neg hother, hrefused, Bool.false_eq_true, if_false,
            Outcome.error_bind]
      | badLiteral hliteral => simp only [Binder.scalar, Binder.constant, hliteral]
  | collection scopes reference path =>
      refine Outcome.map_eq_error_iff.mpr ?_
      cases hfault with
      | constantContext => rfl
      | collectionOutside hscope =>
          simp only [Binder.collection, Binder.lookup, hscope, Outcome.error_bind]
      | collectionUnresolvable hscope hresolve =>
          simp only [Binder.collection, Binder.lookup, hscope, hresolve, Outcome.error_bind]
      | notCollection hscope hresolve hkind =>
          simp only [Binder.collection, Binder.lookup, hscope, hresolve, Outcome.ok_bind]

theorem good_or_fault (use : Use) : use.Good binder ∨ ∃ error, use.Fault binder error := by
  cases use with
  | value scopes reference declared path =>
      cases reference with
      | constant literal =>
          cases declared with
          | none => exact .inl (.constant (by simp))
          | some type =>
              cases hliteral : Value.ofLiteral? type literal with
              | none => exact .inr ⟨_, .badLiteral hliteral⟩
              | some value => exact .inl (.constant (by simp [hliteral]))
      | field scope field =>
          cases hscope : scopes.shape? scope with
          | none => exact .inr ⟨_, .valueOutside hscope⟩
          | some shape =>
              cases hresolve : binder.resolver shape field with
              | none => exact .inr ⟨_, .valueUnresolvable hscope hresolve⟩
              | some accessor =>
                  cases accessor with
                  | items getter => exact .inr ⟨_, .notScalar hscope hresolve (by simp)⟩
                  | object getter => exact .inr ⟨_, .notScalar hscope hresolve (by simp)⟩
                  | scalar getter =>
                      cases declared with
                      | none => exact .inl (.field hscope hresolve (by simp))
                      | some type =>
                          by_cases htype : binder.coercions.Feeds getter.type type
                          · exact .inl (.field hscope hresolve (by simpa using htype))
                          · exact .inr ⟨_, .otherType hscope hresolve htype⟩
  | collection scopes reference path =>
      cases reference with
      | constant literal => exact .inr ⟨_, .constantContext⟩
      | field scope field =>
          cases hscope : scopes.shape? scope with
          | none => exact .inr ⟨_, .collectionOutside hscope⟩
          | some shape =>
              cases hresolve : binder.resolver shape field with
              | none => exact .inr ⟨_, .collectionUnresolvable hscope hresolve⟩
              | some accessor =>
                  cases accessor with
                  | items getter => exact .inl ⟨_, .field hscope hresolve⟩
                  | scalar getter => exact .inr ⟨_, .notCollection hscope hresolve (by simp)⟩
                  | object getter => exact .inr ⟨_, .notCollection hscope hresolve (by simp)⟩

theorem check_eq_ok_iff : use.check binder = .ok () ↔ use.Good binder := by
  refine ⟨fun hcheck => ?_, check_of_good⟩
  rcases use.good_or_fault with hgood | ⟨error, hfault⟩
  · exact hgood
  · rw [check_of_fault hfault] at hcheck
    cases hcheck

theorem check_eq_error_iff {error : CompileError} :
    use.check binder = .error error ↔ use.Fault binder error := by
  refine ⟨fun hcheck => ?_, check_of_fault⟩
  rcases use.good_or_fault with hgood | ⟨found, hfault⟩
  · rw [check_of_good hgood] at hcheck
    cases hcheck
  · rw [check_of_fault hfault] at hcheck
    obtain rfl := Except.error.inj hcheck
    exact hfault

end Use

/-! ## Compiling checks every use in turn -/

theorem Binder.element?_eq_some_iff {binder : Binder} {scopes : Scopes} {context : FieldRef}
    {element : ShapeId} :
    binder.element? scopes context = some element ↔
      binder.GivesItems scopes context element := by
  constructor
  · intro helement
    cases context with
    | constant literal => cases helement
    | field scope path =>
        simp only [element?] at helement
        split at helement
        next getter hfound =>
          obtain ⟨shape, hscope, hresolve⟩ := Option.bind_eq_some_iff.mp hfound
          cases helement
          exact .field hscope hresolve
        next => cases helement
  · intro hgives
    cases hgives with
    | field hscope hresolve => simp only [element?, hscope, Option.bind_some, hresolve]

theorem Binder.givesItems_of_collection {binder : Binder} {scopes : Scopes}
    {context : FieldRef} {path : ConfigPath} {source : CollectionSource}
    (hsource : binder.collection scopes context path = .ok source) :
    binder.GivesItems scopes context source.getter.element := by
  unfold collection at hsource
  cases context with
  | constant literal => cases hsource
  | field scope field =>
      obtain ⟨accessor, hlookup, hsource⟩ := Outcome.bind_eq_ok_iff.mp hsource
      obtain ⟨shape, hscope, hresolve⟩ := lookup_eq_ok_iff.mp hlookup
      cases accessor with
      | items getter =>
          cases hsource
          exact .field hscope hresolve
      | scalar getter => cases hsource
      | object getter => cases hsource

/-- What is left of a result when its value does not matter. -/
def Result.toCheck {α : Type} (result : Result α) : Result Unit :=
  result.map fun _ => ()

section Checks

variable (binder : Binder)

namespace DocumentPlan

mutual

theorem toCheck_opsOfObject (scopes : Scopes) :
    ∀ spec : ObjectSpec, (opsOfObject binder scopes spec).toCheck =
      (spec.uses binder scopes).forM (Use.check binder)
  | ⟨path, fields⟩ => by
      rw [ObjectSpec.uses, ← toCheck_opsOfFields scopes true fields, opsOfObject]
      cases opsOfFields binder scopes true fields <;> rfl

theorem toCheck_opsOfFields (scopes : Scopes) (first : Bool) :
    ∀ fields : List FieldSpec, (opsOfFields binder scopes first fields).toCheck =
      (FieldSpec.uses binder scopes fields).forM (Use.check binder)
  | [] => by
      rw [opsOfFields, FieldSpec.uses]
      rfl
  | ⟨key, path, node⟩ :: rest => by
      have hnode := toCheck_opsOfNode scopes path node
      have hrest := toCheck_opsOfFields scopes false rest
      rw [FieldSpec.uses, List.forM_eq_forM, List.forM_append, ← List.forM_eq_forM, ← hnode,
        ← hrest, opsOfFields]
      cases opsOfNode binder scopes path node with
      | error error => rfl
      | ok value => cases opsOfFields binder scopes false rest <;> rfl

theorem toCheck_opsOfNode (scopes : Scopes) (path : ConfigPath) :
    ∀ node : FieldNode, (opsOfNode binder scopes path node).toCheck =
      (node.uses binder scopes path).forM (Use.check binder)
  | .leaf reference type => by
      rw [opsOfNode, FieldNode.uses, List.forM_eq_forM, List.forM_cons, Use.check]
      cases binder.scalar scopes reference type path <;> rfl
  | .object spec => by
      rw [opsOfNode, FieldNode.uses, toCheck_opsOfObject scopes spec]
  | .array context contextPath items => by
      rw [opsOfNode, FieldNode.uses, List.forM_eq_forM, List.forM_cons, Use.check]
      cases hsource : binder.collection scopes context contextPath with
      | error error => rfl
      | ok source =>
          have helement := Binder.element?_eq_some_iff.mpr
            (Binder.givesItems_of_collection hsource)
          have hitems := toCheck_opsOfObject (scopes.withItem source.getter.element) items
          simp only [helement, ← List.forM_eq_forM, ← hitems, Outcome.ok_bind]
          cases opsOfObject binder (scopes.withItem source.getter.element) items <;> rfl

end

theorem toCheck_compile (scopes : Scopes) (spec : ObjectSpec) :
    (compile binder scopes spec).toCheck =
      (spec.uses binder scopes).forM (Use.check binder) := by
  rw [← toCheck_opsOfObject, compile_eq]
  cases opsOfObject binder scopes spec <;> rfl

end DocumentPlan

theorem Column.toCheck_compile (scopes : Scopes) (column : ColumnSpec) :
    (compile binder scopes column).toCheck =
      (column.uses binder scopes).forM (Use.check binder) := by
  unfold compile ColumnSpec.uses
  cases column.kind with
  | scalar source type =>
      simp only [List.forM_eq_forM, List.forM_cons, Use.check]
      cases binder.scalar scopes source (some type) (column.path.child "source") <;> rfl
  | json fields =>
      simp only [← DocumentPlan.toCheck_compile]
      cases DocumentPlan.compile binder scopes fields <;> rfl

theorem RowPlan.toCheck_compile (scopes : Scopes) (mapping : RowMapping) :
    (compile binder scopes mapping).toCheck =
      (mapping.uses binder scopes).forM (Use.check binder) := by
  have hcolumns : ∀ columns : List ColumnSpec,
      (columns.mapM (Column.compile binder scopes)).toCheck =
        (columns.flatMap (ColumnSpec.uses binder scopes)).forM (Use.check binder) := by
    intro columns
    induction columns with
    | nil => rfl
    | cons column rest ih =>
        rw [List.flatMap_cons, List.forM_eq_forM, List.forM_append, ← List.forM_eq_forM,
          ← Column.toCheck_compile, ← ih, List.mapM_cons]
        cases Column.compile binder scopes column with
        | error error => rfl
        | ok compiled => cases rest.mapM (Column.compile binder scopes) <;> rfl
  rw [RowMapping.uses, ← hcolumns, compile]
  cases mapping.columns.mapM (Column.compile binder scopes) <;> rfl

/-! ## A well-typed mapping has only good uses -/

mutual

theorem ObjectSpec.wellTyped_iff_good (scopes : Scopes) :
    ∀ spec : ObjectSpec, spec.WellTyped binder scopes ↔
      ∀ use ∈ spec.uses binder scopes, use.Good binder
  | ⟨path, fields⟩ => by
      rw [ObjectSpec.WellTyped, ObjectSpec.uses]
      exact FieldSpec.allWellTyped_iff_good scopes fields

theorem FieldSpec.allWellTyped_iff_good (scopes : Scopes) :
    ∀ fields : List FieldSpec, FieldSpec.AllWellTyped binder scopes fields ↔
      ∀ use ∈ FieldSpec.uses binder scopes fields, use.Good binder
  | [] => by simp [FieldSpec.AllWellTyped, FieldSpec.uses]
  | ⟨key, path, node⟩ :: rest => by
      rw [FieldSpec.AllWellTyped, FieldSpec.uses, List.forall_mem_append,
        FieldNode.wellTyped_iff_good scopes path node,
        FieldSpec.allWellTyped_iff_good scopes rest]

theorem FieldNode.wellTyped_iff_good (scopes : Scopes) (path : ConfigPath) :
    ∀ node : FieldNode, node.WellTyped binder scopes ↔
      ∀ use ∈ node.uses binder scopes path, use.Good binder
  | .leaf source type => by
      rw [FieldNode.WellTyped, FieldNode.uses, List.forall_mem_singleton, Use.Good]
  | .object spec => by
      rw [FieldNode.WellTyped, FieldNode.uses]
      exact ObjectSpec.wellTyped_iff_good scopes spec
  | .array context contextPath items => by
      rw [FieldNode.WellTyped, FieldNode.uses, List.forall_mem_cons, Use.Good]
      cases helement : binder.element? scopes context with
      | none =>
          have hnone : ∀ element, ¬binder.GivesItems scopes context element := by
            intro element hgives
            rw [← Binder.element?_eq_some_iff, helement] at hgives
            cases hgives
          simp [hnone]
      | some element =>
          have hgives := Binder.element?_eq_some_iff.mp helement
          have hitems := ObjectSpec.wellTyped_iff_good (scopes.withItem element) items
          constructor
          · rintro ⟨other, hother, htyped⟩
            rw [← Binder.element?_eq_some_iff, helement] at hother
            obtain rfl := Option.some.inj hother
            exact ⟨⟨element, hgives⟩, hitems.mp htyped⟩
          · rintro ⟨_, hgood⟩
            exact ⟨element, hgives, hitems.mpr hgood⟩

end

theorem RowMapping.wellTyped_iff_good (scopes : Scopes) (mapping : RowMapping) :
    mapping.WellTyped binder scopes ↔ ∀ use ∈ mapping.uses binder scopes, use.Good binder := by
  have hcolumn : ∀ column : ColumnSpec, column.WellTyped binder scopes ↔
      ∀ use ∈ column.uses binder scopes, use.Good binder := by
    intro column
    unfold ColumnSpec.WellTyped ColumnSpec.uses
    cases column.kind with
    | scalar source type => rw [List.forall_mem_singleton, Use.Good]
    | json fields => exact ObjectSpec.wellTyped_iff_good binder scopes fields
  simp only [WellTyped, uses, List.forall_mem_flatMap, hcolumn]

end Checks

/-- The first bad use in a list, with what is reported for it. -/
def Use.FirstFault (binder : Binder) (uses : List Use) (error : CompileError) : Prop :=
  ∃ before use after, uses = before ++ use :: after ∧
    (∀ earlier ∈ before, earlier.Good binder) ∧ use.Fault binder error

theorem Use.forM_check_iff {binder : Binder} {uses : List Use} :
    (uses.forM (check binder) = .ok () ↔ ∀ use ∈ uses, use.Good binder) ∧
      ∀ error, uses.forM (check binder) = .error error ↔ FirstFault binder uses error := by
  constructor
  · simp only [Outcome.forM_eq_ok_iff, check_eq_ok_iff]
  · intro error
    simp only [Outcome.forM_eq_error_iff, check_eq_ok_iff, check_eq_error_iff, FirstFault]

theorem Result.toCheck_iff {α : Type} {result : Result α} :
    ((∃ value, result = .ok value) ↔ result.toCheck = .ok ()) ∧
      ∀ error, result = .error error ↔ result.toCheck = .error error := by
  cases result <;> simp [toCheck, Except.map]

/-- A mapping is compiled if and only if it is well-typed, be it an object description or
a row mapping.  If it is not, the first reference that is used badly is reported. -/
theorem Binder.compile_iff_wellTyped (binder : Binder) (scopes : Scopes) :
    (∀ spec : ObjectSpec,
      ((∃ plan, DocumentPlan.compile binder scopes spec = .ok plan) ↔
        spec.WellTyped binder scopes) ∧
      ∀ error, DocumentPlan.compile binder scopes spec = .error error ↔
        Use.FirstFault binder (spec.uses binder scopes) error) ∧
    ∀ mapping : RowMapping,
      ((∃ plan, RowPlan.compile binder scopes mapping = .ok plan) ↔
        mapping.WellTyped binder scopes) ∧
      ∀ error, RowPlan.compile binder scopes mapping = .error error ↔
        Use.FirstFault binder (mapping.uses binder scopes) error := by
  constructor
  · intro spec
    constructor
    · rw [Result.toCheck_iff.1, DocumentPlan.toCheck_compile, Use.forM_check_iff.1,
        ObjectSpec.wellTyped_iff_good]
    · intro error
      rw [Result.toCheck_iff.2, DocumentPlan.toCheck_compile, Use.forM_check_iff.2]
  · intro mapping
    constructor
    · rw [Result.toCheck_iff.1, RowPlan.toCheck_compile, Use.forM_check_iff.1,
        RowMapping.wellTyped_iff_good]
    · intro error
      rw [Result.toCheck_iff.2, RowPlan.toCheck_compile, Use.forM_check_iff.2]

end MappingPlan
