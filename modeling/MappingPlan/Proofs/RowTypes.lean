import MappingPlan.Proofs.Rendering

/-!
# The types of rows

A compiled source has a type before it is ever run, and each value that it gives is null
or of that type.  What binds the two is the table of coercions: a source only converts
between types that the table allows for the given settings, and for those the conversion
reaches its target for every value.  The types that a row plan announces are the declared
ones, so each value of a row fits the type at its place.
-/

namespace MappingPlan

/-- Null, or of the type. -/
def Value.Fits (value : Value) (type? : Option ScalarType) : Prop :=
  value = .null ∨ value.type? = type?

instance (value : Value) (type? : Option ScalarType) : Decidable (value.Fits type?) :=
  inferInstanceAs (Decidable (_ ∨ _))

/-! ## Conversions -/

namespace Value

theorem Fits.coerce {value : Value} {actual target : ScalarType} {coercions : Coercions}
    (hfits : value.Fits (some actual))
    (hcoercible : actual.coercibleTo target coercions = true) :
    (value.coerce target).Fits (some target) := by
  rcases hfits with hnull | htype
  · left
    rw [hnull, coerce_null]
  · right
    exact type?_coerce htype hcoercible

theorem display_ofInt64 (value : Int64) :
    (Decimal.ofInt64 value).display = displayInt value := by
  simp [Decimal.display, Decimal.ofInt64, Decimal.magnitude, displayInt]

/-- A conversion changes the type of a value and not how it is displayed. -/
theorem display_coerce (value : Value) (target : ScalarType) :
    (value.coerce target).display = value.display := by
  cases value with
  | int value =>
      cases target with
      | decimal => exact display_ofInt64 value
      | _ => rfl
  | _ => cases target <;> rfl

theorem type?_of_ofLiteral? {type : ScalarType} {literal : String} {value : Value}
    (hvalue : ofLiteral? type literal = some value) : value.type? = some type := by
  cases type with
  | string =>
      cases hvalue
      rfl
  | _ =>
      obtain ⟨read, _, rfl⟩ := Option.map_eq_some_iff.mp hvalue
      rfl

end Value

/-! ## Sources -/

/-- The source converts only where the settings allow it. -/
def ValueSource.Allowed (coercions : Coercions) : ValueSource → Prop
  | .field _ _ getter (some target) => getter.type.coercibleTo target coercions = true
  | _ => True

theorem ValueSource.Allowed.fits {coercions : Coercions} {source : ValueSource}
    (hallowed : source.Allowed coercions) (inputs : Inputs) :
    (source.evaluate inputs).Fits source.type? := by
  cases source with
  | constant value => exact Or.inr rfl
  | field reference scope getter target =>
      rw [evaluate]
      cases inputs.source? scope with
      | none => exact Or.inl rfl
      | some input =>
          have hget : (getter.get input).Fits (some getter.type) := getter.type?_get input
          cases target with
          | none => exact hget
          | some target => exact hget.coerce hallowed

namespace Binder

variable {binder : Binder} {scopes : Scopes} {reference : FieldRef}
  {declared : Option ScalarType} {path : ConfigPath} {source : ValueSource}

theorem conversion_cases {getter : ScalarGetter} {target : Option ScalarType}
    (hconversion : binder.conversion reference getter declared path = .ok target) :
    (target = none ∧ ∀ type, declared = some type → getter.type = type) ∨
      ∃ type, target = some type ∧ declared = some type ∧
        getter.type.coercibleTo type binder.coercions = true := by
  unfold conversion at hconversion
  cases declared with
  | none =>
      cases hconversion
      refine Or.inl ⟨rfl, ?_⟩
      intro type hdeclared
      cases hdeclared
  | some type =>
      simp only at hconversion
      split at hconversion
      next hsame =>
        cases hconversion
        refine Or.inl ⟨rfl, ?_⟩
        rintro _ ⟨⟩
        exact hsame.symm
      next =>
        split at hconversion
        next hcoercible =>
          cases hconversion
          exact Or.inr ⟨type, rfl, rfl, hcoercible⟩
        next => cases hconversion

theorem type?_of_constant {literal : String} {type : ScalarType}
    (hsource : constant reference literal (some type) path = .ok source) :
    source.type? = some type := by
  unfold constant at hsource
  cases hvalue : Value.ofLiteral? type literal with
  | none => simp [hvalue] at hsource
  | some value =>
      simp only [hvalue, Except.ok.injEq] at hsource
      subst source
      exact Value.type?_of_ofLiteral? hvalue

theorem exists_of_constant {literal : String}
    (hsource : constant reference literal declared path = .ok source) :
    ∃ value, source = .constant value := by
  unfold constant at hsource
  split at hsource
  next => exact ⟨_, (Except.ok.inj hsource).symm⟩
  next =>
    split at hsource
    next => exact ⟨_, (Except.ok.inj hsource).symm⟩
    next => cases hsource

/-- A reference that is bound gives a constant of the declared type, or a field that has
the declared type or is converted to it as the settings allow. -/
theorem allowed_of_scalar
    (hsource : binder.scalar scopes reference declared path = .ok source) :
    source.Allowed binder.coercions ∧
      ∀ type, declared = some type → source.type? = some type := by
  unfold scalar at hsource
  cases reference with
  | constant literal =>
      obtain ⟨value, rfl⟩ := exists_of_constant hsource
      refine ⟨trivial, ?_⟩
      rintro type rfl
      exact type?_of_constant hsource
  | field scope field =>
      simp only [Outcome.bind_eq_ok_iff] at hsource
      obtain ⟨accessor, _, hsource⟩ := hsource
      cases accessor with
      | items getter => cases hsource
      | object getter => cases hsource
      | scalar getter =>
          simp only [Outcome.bind_eq_ok_iff, Outcome.pure_eq_ok_iff] at hsource
          obtain ⟨target, hconversion, rfl⟩ := hsource
          rcases conversion_cases hconversion with ⟨rfl, hsame⟩ | ⟨type, rfl, rfl, hcoercible⟩
          · refine ⟨trivial, ?_⟩
            intro type hdeclared
            exact congrArg some (hsame type hdeclared)
          · exact ⟨hcoercible, fun _ hdeclared => hdeclared⟩

end Binder

/-! ## Plans -/

def Op.source? : Op → Option ValueSource
  | .emitValue source => some source
  | _ => none

/-- The sources of the values in a document, of all of its depths. -/
def emitted (ops : List Op) : List ValueSource :=
  ops.filterMap Op.source?

def Column.sources (column : Column) : List ValueSource :=
  match column.value with
  | .scalar source => [source]
  | .json plan => emitted plan.ops

def RowPlan.sources (plan : RowPlan) : List ValueSource :=
  plan.columns.flatMap Column.sources

theorem emitted_append (front back : List Op) :
    emitted (front ++ back) = emitted front ++ emitted back :=
  List.filterMap_append

theorem emitted_bracketed {opening closing : Op} (hopening : opening.source? = none)
    (hclosing : closing.source? = none) (inside : List Op) :
    emitted (opening :: (inside ++ [closing])) = emitted inside := by
  rw [emitted, List.filterMap_cons_none hopening, ← emitted, emitted_append]
  simp [emitted, hclosing]

section Documents

variable {binder : Binder}

namespace DocumentPlan

mutual

theorem allowed_opsOfObject :
    ∀ (spec : ObjectSpec) (scopes : Scopes) (ops : List Op),
      opsOfObject binder scopes spec = .ok ops →
      ∀ source ∈ emitted ops, source.Allowed binder.coercions
  | ⟨_, fields⟩, scopes, ops, hops => by
      simp only [opsOfObject, Outcome.bind_eq_ok_iff, Outcome.pure_eq_ok_iff] at hops
      obtain ⟨body, hbody, rfl⟩ := hops
      rw [List.cons_append, emitted_bracketed rfl rfl]
      exact allowed_opsOfFields fields scopes true body hbody

theorem allowed_opsOfFields :
    ∀ (fields : List FieldSpec) (scopes : Scopes) (first : Bool) (ops : List Op),
      opsOfFields binder scopes first fields = .ok ops →
      ∀ source ∈ emitted ops, source.Allowed binder.coercions
  | [], scopes, first, ops, hops => by
      cases hops
      exact List.forall_mem_nil _
  | ⟨key, path, node⟩ :: fields, scopes, first, ops, hops => by
      simp only [opsOfFields, Outcome.bind_eq_ok_iff, Outcome.pure_eq_ok_iff] at hops
      obtain ⟨value, hvalue, others, hothers, rfl⟩ := hops
      have hkey : emitted (.propertyName key first :: value ++ others) =
          emitted value ++ emitted others := emitted_append value others
      rw [hkey, List.forall_mem_append]
      exact ⟨allowed_opsOfNode node scopes path value hvalue,
        allowed_opsOfFields fields scopes false others hothers⟩

theorem allowed_opsOfNode :
    ∀ (node : FieldNode) (scopes : Scopes) (path : ConfigPath) (ops : List Op),
      opsOfNode binder scopes path node = .ok ops →
      ∀ source ∈ emitted ops, source.Allowed binder.coercions
  | .leaf reference type, scopes, path, ops, hops => by
      simp only [opsOfNode, Outcome.bind_eq_ok_iff, Outcome.pure_eq_ok_iff] at hops
      obtain ⟨source, hsource, rfl⟩ := hops
      intro other hmem
      rw [List.mem_singleton.mp hmem]
      exact (Binder.allowed_of_scalar hsource).1
  | .object spec, scopes, path, ops, hops => by
      rw [opsOfNode] at hops
      exact allowed_opsOfObject spec scopes ops hops
  | .array context contextPath items, scopes, path, ops, hops => by
      simp only [opsOfNode, Outcome.bind_eq_ok_iff, Outcome.pure_eq_ok_iff] at hops
      obtain ⟨source, _, body, hbody, rfl⟩ := hops
      rw [List.cons_append, emitted_bracketed rfl rfl]
      exact allowed_opsOfObject items _ body hbody

end

end DocumentPlan

/-- What compiling a column says about its types. -/
structure Column.Typed (coercions : Coercions) (column : Column) : Prop where
  allowed : ∀ source ∈ column.sources, source.Allowed coercions
  scalar : ∀ source, column.value = .scalar source → source.type? = some column.type
  json : ∀ plan, column.value = .json plan → column.type = .string

theorem Column.typed_of_compile {scopes : Scopes} {spec : ColumnSpec} {column : Column}
    (hcompile : compile binder scopes spec = .ok column) : column.Typed binder.coercions := by
  unfold compile at hcompile
  split at hcompile
  next reference type _ =>
    simp only [Outcome.bind_eq_ok_iff, Outcome.pure_eq_ok_iff] at hcompile
    obtain ⟨source, hsource, rfl⟩ := hcompile
    obtain ⟨hallowed, htype⟩ := Binder.allowed_of_scalar hsource
    refine ⟨?_, ?_, ?_⟩
    · intro other hmem
      rw [List.mem_singleton.mp hmem]
      exact hallowed
    · intro other hvalue
      cases hvalue
      exact htype type rfl
    · intro plan hvalue
      cases hvalue
  next fields _ =>
    simp only [Outcome.bind_eq_ok_iff, Outcome.pure_eq_ok_iff] at hcompile
    obtain ⟨plan, hplan, rfl⟩ := hcompile
    have hops := DocumentPlan.compile_eq_ok_iff.mp hplan
    refine ⟨DocumentPlan.allowed_opsOfObject fields scopes plan.ops hops, ?_, fun _ _ => rfl⟩
    intro source hvalue
    cases hvalue

theorem Column.Typed.fits {coercions : Coercions} {column : Column}
    (htyped : column.Typed coercions) (inputs : Inputs) :
    (column.evaluate inputs).Fits (some column.type) := by
  obtain ⟨name, type, value⟩ := column
  cases value with
  | scalar source =>
      have hallowed : source.Allowed coercions :=
        htyped.allowed source (List.mem_singleton_self source)
      rw [← htyped.scalar source rfl]
      exact hallowed.fits inputs
  | json plan =>
      right
      rw [htyped.json plan rfl]
      rfl

/-- Each value of a row is null or of the type that the plan announces for its place, and a
document is a string.  Every source in the plan, and every other source that a reference
is bound to, gives null or a value of its own type.  Wherever the settings let one type stand
in for another, a value of the one is really converted to the other, and displayed as
before. -/
theorem RowPlan.values_typed {scopes : Scopes} {mapping : RowMapping} {plan : RowPlan}
    (hcompile : compile binder scopes mapping = .ok plan) :
    (∀ inputs : Inputs,
        List.Forall₂ (fun value type => value.Fits (some type)) (plan.build inputs) plan.types) ∧
      (∀ column ∈ plan.columns, ∀ document, column.value = .json document →
        column.type = .string ∧
          ∀ inputs, column.evaluate inputs = .string (document.render inputs)) ∧
      (∀ source ∈ plan.sources, ∀ inputs, (source.evaluate inputs).Fits source.type?) ∧
      (∀ (scopes : Scopes) (reference : FieldRef) (declared : Option ScalarType)
        (path : ConfigPath) (source : ValueSource),
        binder.scalar scopes reference declared path = .ok source →
        ∀ inputs, (source.evaluate inputs).Fits source.type?) ∧
      (∀ (actual target : ScalarType) (value : Value),
        actual.coercibleTo target binder.coercions = true → value.type? = some actual →
        (value.coerce target).type? = some target ∧
          (value.coerce target).display = value.display) := by
  simp only [compile, Outcome.bind_eq_ok_iff, Outcome.pure_eq_ok_iff] at hcompile
  obtain ⟨columns, hcolumns, rfl⟩ := hcompile
  have htyped : ∀ column ∈ columns, column.Typed binder.coercions := by
    intro column hmem
    obtain ⟨spec, _, hcolumn⟩ := (Outcome.mem_iff_of_mapM_eq_ok hcolumns).mp hmem
    exact Column.typed_of_compile hcolumn
  refine ⟨?_, ?_, ?_, ?_, ?_⟩
  · intro inputs
    rw [build, types, List.forall₂_map_left_iff, List.forall₂_map_right_iff, List.forall₂_same]
    intro column hmem
    exact (htyped column hmem).fits inputs
  · intro column hmem document hvalue
    refine ⟨(htyped column hmem).json document hvalue, ?_⟩
    intro inputs
    rw [Column.evaluate, hvalue]
  · intro source hmem inputs
    obtain ⟨column, hcolumn, hsource⟩ := List.mem_flatMap.mp hmem
    exact ((htyped column hcolumn).allowed source hsource).fits inputs
  · intro scopes reference declared path source hsource inputs
    exact (Binder.allowed_of_scalar hsource).1.fits inputs
  · intro actual target value hcoercible htype
    exact ⟨Value.type?_coerce htype hcoercible, value.display_coerce target⟩

end Documents

namespace Orders

/-- An integer as a decimal and as a string, and a document. -/
def conversions : RowMapping :=
  ⟨.root, [
    ⟨"amount", ⟨"items:amount"⟩, none, .scalar (.field .record "Id") .decimal⟩,
    ⟨"label", ⟨"items:label"⟩, none, .scalar (.field .record "Id") .string⟩,
    ⟨"document", ⟨"items:document"⟩, none, .json spec⟩]⟩

def conversionPlan : RowPlan :=
  let id : ScalarGetter := ⟨⟨[], order, "id"⟩, .int, false⟩
  ⟨[⟨"amount", .decimal, .scalar (.field (.field .record "Id") .record id (some .decimal))⟩,
    ⟨"label", .string, .scalar (.field (.field .record "Id") .record id (some .string))⟩,
    ⟨"document", .string, .json ⟨ops⟩⟩]⟩

end Orders

theorem RowPlan.values_typed_orders :
    compile ⟨Orders.registry.resolve, {}⟩ ⟨Orders.placed, Orders.order, none⟩
        Orders.conversions = .ok Orders.conversionPlan ∧
      List.Forall₂ (fun value type => value.Fits (some type))
        (Orders.conversionPlan.build Orders.inputs) [.decimal, .string, .string] ∧
      ((Value.int 7).coerce .decimal).type? = some .decimal := by
  have hcompile : compile ⟨Orders.registry.resolve, {}⟩ ⟨Orders.placed, Orders.order, none⟩
      Orders.conversions = .ok Orders.conversionPlan := rfl
  obtain ⟨hfits, -, -, -, hcoerce⟩ := values_typed hcompile
  exact ⟨hcompile, hfits Orders.inputs, (hcoerce .int .decimal (.int 7) rfl rfl).1⟩

end MappingPlan
