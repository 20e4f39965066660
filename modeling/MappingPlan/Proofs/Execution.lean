import MappingPlan.Plan.Row
import MappingPlan.Proofs.Registration
import MappingPlan.Proofs.Rendering

/-!
# Plans read only what they were bound to

A run of a plan is a list of events: a fixed piece of text, a value that is read for some
inputs, or the elements of a collection that are gone through.  What the events write is
what the run writes.  Reading applies getters, one for each object on the route of a
place and one for the field at its end.

Every getter is applied to an instance of the shape that its field is registered on, and
the input of its scope is there.  So where a null is read, an object on the route is
missing or the field itself has no value; and where an array is empty, an object is
missing or the collection has no elements.

The proof goes by recursion on the description.  Its invariant is that the shapes of the
inputs are the scopes for which the instructions were compiled; going into an element
keeps it, because the elements of a collection have the declared shape.
-/

namespace MappingPlan

/-! ## Applications of getters -/

/-- A getter of a field that stands under a shape, applied to an instance. -/
structure Application where
  owner : ShapeId
  key : String
  type : FieldType
  source : Instance

/-- The getter is applied to an instance of the shape that its field is registered on. -/
def Application.Fits (family : ShapeFamily) (registry : Registry)
    (application : Application) : Prop :=
  application.source.shape = application.owner ∧
    registry.Registers family application.owner application.key application.type

/-- The objects of a route with what they are applied to, and where the route ends. -/
def Hop.walk : List Hop → Instance → List Application × Option Instance
  | [], source => ([], some source)
  | hop :: rest, source =>
      let application : Application := ⟨hop.owner, hop.key, .object hop.target, source⟩
      match hop.follow? source with
      | none => ([application], none)
      | some next => (application :: (walk rest next).1, (walk rest next).2)

/-- The getters that reading a place applies. -/
def Place.applications (place : Place) (type : FieldType) (source : Instance) :
    List Application :=
  (Hop.walk place.route source).1 ++
    ((Hop.walk place.route source).2.map fun holder =>
      ⟨place.owner, place.key, type, holder⟩).toList

/-- An object on the route of the place is missing, or the place is reached and the field
there has the property. -/
inductive Place.Lacks (place : Place) (source : Instance) (absent : Record → Prop) : Prop
  | missingObject (before : List Hop) (hop : Hop) (after : List Hop) (holder : Instance)
      (hroute : place.route = before ++ hop :: after)
      (hholder : Hop.followAll? before source = some holder)
      (hshape : holder.shape = hop.owner)
      (hmissing : holder.record.object? hop.key = none)
  | ownValue (holder : Instance) (hholder : Hop.followAll? place.route source = some holder)
      (hshape : holder.shape = place.owner) (habsent : absent holder.record)

theorem Hop.walk_snd (route : List Hop) (source : Instance) :
    (walk route source).2 = followAll? route source := by
  induction route generalizing source with
  | nil => rfl
  | cons hop rest ih =>
      rw [walk, followAll?, List.foldlM_cons]
      cases hop.follow? source with
      | none => rfl
      | some next => exact ih next

section Routes

variable {family : ShapeFamily} {registry : Registry} {last : ShapeId} {source : Instance}

theorem Hop.follow?_of_shape {hop : Hop} (hshape : source.shape = hop.owner) :
    hop.follow? source = (source.record.object? hop.key).map fun record =>
      ⟨hop.target, record⟩ := by
  rw [follow?, if_pos hshape]

theorem Hop.Lead.fits {route : List Hop} (hlead : Lead family registry route source.shape last) :
    ∀ application ∈ (walk route source).1, application.Fits family registry := by
  induction route generalizing source with
  | nil => simp [walk]
  | cons hop rest ih =>
      obtain ⟨howner, hregistered, hrest⟩ := hlead
      have hfirst : Application.Fits family registry
          ⟨hop.owner, hop.key, .object hop.target, source⟩ := ⟨howner.symm, hregistered⟩
      rw [walk, follow?_of_shape howner.symm]
      cases source.record.object? hop.key with
      | none => simpa using hfirst
      | some record => exact List.forall_mem_cons.mpr ⟨hfirst, ih hrest⟩

theorem Hop.Lead.shape_of_followAll? {route : List Hop} {holder : Instance}
    (hlead : Lead family registry route source.shape last)
    (hholder : followAll? route source = some holder) : holder.shape = last := by
  induction route generalizing source with
  | nil =>
      obtain rfl : source = holder := Option.some.inj hholder
      exact hlead
  | cons hop rest ih =>
      obtain ⟨howner, _, hrest⟩ := hlead
      rw [followAll?, List.foldlM_cons, follow?_of_shape howner.symm] at hholder
      cases hobject : source.record.object? hop.key with
      | none => simp [hobject] at hholder
      | some record =>
          rw [hobject] at hholder
          exact @ih ⟨hop.target, record⟩ hrest hholder

/-- A route that ends early ends at an object that its holder does not have. -/
theorem Hop.Lead.missing_of_followAll? {route : List Hop}
    (hlead : Lead family registry route source.shape last)
    (hnone : followAll? route source = none) :
    ∃ before hop after holder, route = before ++ hop :: after ∧
      followAll? before source = some holder ∧ holder.shape = hop.owner ∧
      holder.record.object? hop.key = none := by
  induction route generalizing source with
  | nil => cases hnone
  | cons hop rest ih =>
      obtain ⟨howner, _, hrest⟩ := hlead
      have hfollow := follow?_of_shape howner.symm
      cases hobject : source.record.object? hop.key with
      | none => exact ⟨[], hop, rest, source, rfl, rfl, howner.symm, hobject⟩
      | some record =>
          rw [hobject, Option.map_some] at hfollow
          have hinner : followAll? rest ⟨hop.target, record⟩ = none := by
            rw [followAll?, List.foldlM_cons, hfollow] at hnone
            exact hnone
          obtain ⟨before, missed, after, holder, rfl, hholder, hshape, hmissing⟩ :=
            @ih ⟨hop.target, record⟩ hrest hinner
          refine ⟨hop :: before, missed, after, holder, rfl, ?_, hshape, hmissing⟩
          rw [followAll?, List.foldlM_cons, hfollow]
          exact hholder

variable {place : Place} {type : FieldType}

theorem Place.Leads.fits (hleads : place.Leads family registry type source.shape) :
    ∀ application ∈ place.applications type source, application.Fits family registry := by
  obtain ⟨hlead, hregistered⟩ := hleads
  rw [applications, Hop.walk_snd]
  intro application hmem
  rcases List.mem_append.mp hmem with hroute | hlast
  · exact hlead.fits application hroute
  · cases hholder : Hop.followAll? place.route source with
    | none => simp [hholder] at hlast
    | some holder =>
        obtain rfl : application = ⟨place.owner, place.key, type, holder⟩ := by
          simpa [hholder] using hlast
        exact ⟨hlead.shape_of_followAll? hholder, hregistered⟩

/-- Reading a place either finds an object missing or looks at the record that holds the
field; there is no third way. -/
theorem Place.Leads.lacks_or_holds (hleads : place.Leads family registry type source.shape)
    (absent : Record → Prop) :
    place.Lacks source absent ∨ ∃ record, place.holder? source = some record ∧
      ¬ absent record := by
  obtain ⟨hlead, _⟩ := hleads
  cases hholder : Hop.followAll? place.route source with
  | none =>
      obtain ⟨before, hop, after, holder, hroute, hbefore, hshape, hmissing⟩ :=
        hlead.missing_of_followAll? hholder
      exact .inl (.missingObject before hop after holder hroute hbefore hshape hmissing)
  | some holder =>
      have hshape := hlead.shape_of_followAll? hholder
      by_cases habsent : absent holder.record
      · exact .inl (.ownValue holder hholder hshape habsent)
      · exact .inr ⟨holder.record, by simp [holder?, hholder, hshape], habsent⟩

end Routes

/-! ## Events -/

inductive Event where
  | text (piece : String)
  | value (source : ValueSource) (inputs : Inputs)
  | elements (source : CollectionSource) (inputs : Inputs)

namespace Event

def written : Event → String
  | text piece => piece
  | value source inputs => (source.evaluate inputs).toJson
  | elements _ _ => "["

/-- What an event reads is there and of the shape that it was bound to, and nothing but
the data makes it null or empty. -/
def Safe (family : ShapeFamily) (registry : Registry) : Event → Prop
  | text _ => True
  | value (.constant constant) _ => constant ≠ .null
  | value (.field reference scope getter target) inputs =>
      ∃ input, inputs.source? scope = some input ∧
        (∀ application ∈
            getter.place.applications (.scalar getter.type getter.nullable) input,
          application.Fits family registry) ∧
        ((ValueSource.field reference scope getter target).evaluate inputs = .null →
          getter.place.Lacks input fun record =>
            record.scalar getter.place.key getter.type getter.nullable = .null)
  | elements source inputs =>
      ∃ input, inputs.source? source.scope = some input ∧
        (∀ application ∈ source.getter.place.applications
            (.items source.getter.element source.getter.nullable) input,
          application.Fits family registry) ∧
        ((source.items? inputs).getD [] = [] →
          source.getter.place.Lacks input fun record =>
            (record.items? source.getter.place.key source.getter.nullable).getD [] = [])

end Event

/-- The events of a run of instructions, in order. -/
def events : List Op → Inputs → List Event
  | [], _ => []
  | op :: rest, inputs =>
      match op with
      | .beginObject => .text "\x7b" :: events rest inputs
      | .endObject => .text "\x7d" :: events rest inputs
      | .propertyName name first => .text (propertyText name first) :: events rest inputs
      | .emitValue source => .value source inputs :: events rest inputs
      | .endArray => .text "]" :: events rest inputs
      | .beginArray source body =>
          let elements := ((source.items? inputs).getD []).map fun item =>
            events (rest.take body) (inputs.withItem item)
          .elements source inputs :: joinLists (.text ",") elements ++
            events (rest.drop body) inputs
termination_by ops => ops.length
decreasing_by all_goals grind

theorem joinLists_cons_cons {α : Type} (separator : α) (first second : List α)
    (rest : List (List α)) :
    joinLists separator (first :: second :: rest) =
      first ++ separator :: joinLists separator (second :: rest) := rfl

theorem map_joinLists {α β : Type} (f : α → β) (separator : α) (lists : List (List α)) :
    (joinLists separator lists).map f = joinLists (f separator) (lists.map (List.map f)) := by
  induction lists with
  | nil => rfl
  | cons first rest ih =>
      cases rest with
      | nil => rfl
      | cons second others =>
          rw [joinLists_cons_cons, List.map_append, List.map_cons, ih]
          rfl

theorem mem_joinLists {α : Type} {separator entry : α} {lists : List (List α)}
    (hmem : entry ∈ joinLists separator lists) :
    entry = separator ∨ ∃ list ∈ lists, entry ∈ list := by
  induction lists with
  | nil => cases hmem
  | cons first rest ih =>
      cases rest with
      | nil => exact .inr ⟨first, List.mem_cons_self, hmem⟩
      | cons second others =>
          rw [joinLists_cons_cons, List.mem_append, List.mem_cons] at hmem
          rcases hmem with hfirst | hseparator | hothers
          · exact .inr ⟨first, List.mem_cons_self, hfirst⟩
          · exact .inl hseparator
          · rcases ih hothers with hseparator | ⟨list, hlist, hentry⟩
            · exact .inl hseparator
            · exact .inr ⟨list, List.mem_cons_of_mem _ hlist, hentry⟩

/-- What the events write is what the run writes. -/
theorem map_written_events (ops : List Op) (inputs : Inputs) :
    (events ops inputs).map Event.written = writtenPieces ops inputs := by
  induction ops, inputs using events.induct with
  | case1 inputs => simp [events, writtenPieces]
  | case7 rest inputs source body ihBody ihRest =>
      have helements : ∀ item ∈ (source.items? inputs).getD [],
          (events (rest.take body) (inputs.withItem item)).map Event.written =
            writtenPieces (rest.take body) (inputs.withItem item) := fun item _ => ihBody item
      rw [events, writtenPieces, List.map_append, List.map_cons, map_joinLists, List.map_map,
        ihRest]
      simp only [Event.written, Function.comp_def]
      rw [List.map_congr_left helements]
  | _ => simp_all [events, writtenPieces, Event.written]

/-! ## Bound sources -/

theorem Value.eq_null_of_coerce {value : Value} {target : ScalarType}
    (hnull : value.coerce target = .null) : value = .null := by
  cases value <;> cases target <;> simp [coerce] at hnull ⊢

theorem Value.ofLiteral?_ne_null (type : ScalarType) (literal : String) :
    ofLiteral? type literal ≠ some .null := by
  cases type <;> simp [ofLiteral?]

namespace Binder

variable {family : ShapeFamily} {registry : Registry} {coercions : Coercions}
  {reference : FieldRef} {path : ConfigPath} {inputs : Inputs}

/-- The scopes of the inputs are those of the instances that are there. -/
theorem exists_input_of_lookup {resolver : Resolver} {scope : Scope} {field : String}
    {accessor : Accessor}
    (hlookup : lookup ⟨resolver, coercions⟩ inputs.scopes reference scope field path =
      .ok accessor) :
    ∃ input, inputs.source? scope = some input ∧
      resolver input.shape field = some accessor := by
  obtain ⟨shape, hshape, hresolve⟩ := lookup_eq_ok_iff.mp hlookup
  rw [Inputs.shape?_scopes, Option.map_eq_some_iff] at hshape
  obtain ⟨input, hinput, rfl⟩ := hshape
  exact ⟨input, hinput, hresolve⟩

theorem constant_ne_null {literal : String} {declared : Option ScalarType}
    {source : ValueSource} (hbound : constant reference literal declared path = .ok source) :
    ∃ value, source = .constant value ∧ value ≠ .null := by
  cases declared with
  | none =>
      cases hbound
      exact ⟨_, rfl, by simp⟩
  | some type =>
      cases hvalue : Value.ofLiteral? type literal with
      | none => simp [constant, hvalue] at hbound
      | some value =>
          simp only [constant, hvalue, Except.ok.injEq] at hbound
          subst source
          refine ⟨value, rfl, ?_⟩
          rintro rfl
          exact Value.ofLiteral?_ne_null type literal hvalue

theorem safe_of_scalar (hfaithful : registry.Faithful family) {declared : Option ScalarType}
    {source : ValueSource}
    (hbound : scalar ⟨registry.resolve, coercions⟩ inputs.scopes reference declared path =
      .ok source) :
    (Event.value source inputs).Safe family registry := by
  cases reference with
  | constant literal =>
      obtain ⟨value, rfl, hvalue⟩ := constant_ne_null hbound
      exact hvalue
  | field scope field =>
      simp only [scalar, Outcome.bind_eq_ok_iff] at hbound
      obtain ⟨accessor, hlookup, hbound⟩ := hbound
      obtain ⟨input, hinput, hresolve⟩ := exists_input_of_lookup hlookup
      cases accessor with
      | items getter => simp at hbound
      | object getter => simp at hbound
      | scalar getter =>
          simp only [Outcome.bind_eq_ok_iff, Outcome.pure_eq_ok_iff] at hbound
          obtain ⟨target, _, rfl⟩ := hbound
          have hleads : getter.place.Leads family registry
              (.scalar getter.type getter.nullable) input.shape :=
            hfaithful.leadsFrom_resolve hresolve
          refine ⟨input, hinput, hleads.fits, ?_⟩
          intro hnull
          have hget : getter.get input = .null := by
            simp only [ValueSource.evaluate, hinput] at hnull
            cases target with
            | none => exact hnull
            | some type => exact Value.eq_null_of_coerce hnull
          rcases hleads.lacks_or_holds fun record =>
              record.scalar getter.place.key getter.type getter.nullable = .null with
            hlacks | ⟨record, hholder, hpresent⟩
          · exact hlacks
          · simp only [ScalarGetter.get, hholder] at hget
            exact absurd hget hpresent

theorem safe_of_collection (hfaithful : registry.Faithful family) {source : CollectionSource}
    (hbound : collection ⟨registry.resolve, coercions⟩ inputs.scopes reference path =
      .ok source) :
    (Event.elements source inputs).Safe family registry := by
  cases reference with
  | constant literal => simp [collection] at hbound
  | field scope field =>
      simp only [collection, Outcome.bind_eq_ok_iff] at hbound
      obtain ⟨accessor, hlookup, hbound⟩ := hbound
      obtain ⟨input, hinput, hresolve⟩ := exists_input_of_lookup hlookup
      cases accessor with
      | scalar getter => simp at hbound
      | object getter => simp at hbound
      | items getter =>
          rw [Outcome.pure_eq_ok_iff] at hbound
          subst source
          have hleads : getter.place.Leads family registry
              (.items getter.element getter.nullable) input.shape :=
            hfaithful.leadsFrom_resolve hresolve
          refine ⟨input, hinput, hleads.fits, ?_⟩
          intro hempty
          rcases hleads.lacks_or_holds fun record =>
              (record.items? getter.place.key getter.nullable).getD [] = [] with
            hlacks | ⟨record, hholder, hpresent⟩
          · exact hlacks
          · simp only [CollectionSource.items?, hinput, Option.bind_some, ItemsGetter.get?,
              hholder, Option.bind_eq_bind] at hempty
            refine absurd ?_ hpresent
            cases hitems : record.items? getter.place.key getter.nullable with
            | none => rfl
            | some items => simpa [hitems] using hempty

end Binder

/-! ## Compiled plans -/

namespace DocumentPlan

variable {family : ShapeFamily} {registry : Registry} {coercions : Coercions}

theorem forall_events_beginArray {property : Event → Prop} {source : CollectionSource}
    {body rest : List Op} {inputs : Inputs} (hseparator : property (.text ","))
    (hsource : property (.elements source inputs))
    (hbody : ∀ element ∈ (source.items? inputs).getD [],
      ∀ event ∈ events body (inputs.withItem element), property event)
    (hrest : ∀ event ∈ events rest inputs, property event) :
    ∀ event ∈ events (.beginArray source body.length :: body ++ rest) inputs,
      property event := by
  intro event hmem
  rw [List.cons_append, events, List.take_left, List.drop_left, List.cons_append,
    List.mem_cons, List.mem_append] at hmem
  rcases hmem with rfl | helements | hafter
  · exact hsource
  · rcases mem_joinLists helements with rfl | ⟨list, hlist, hevent⟩
    · exact hseparator
    · obtain ⟨element, helement, rfl⟩ := List.mem_map.mp hlist
      exact hbody element helement event hevent
  · exact hrest event hafter

mutual

theorem safe_opsOfObject (hfaithful : registry.Faithful family) :
    ∀ (spec : ObjectSpec) (inputs : Inputs) (ops : List Op),
      opsOfObject ⟨registry.resolve, coercions⟩ inputs.scopes spec = .ok ops →
      ∀ rest : List Op, (∀ event ∈ events rest inputs, event.Safe family registry) →
        ∀ event ∈ events (ops ++ rest) inputs, event.Safe family registry
  | ⟨path, fields⟩, inputs, ops, hops, rest, hrest => by
      simp only [opsOfObject, Outcome.bind_eq_ok_iff, Outcome.pure_eq_ok_iff] at hops
      obtain ⟨body, hbody, rfl⟩ := hops
      have hend : ∀ event ∈ events (.endObject :: rest) inputs, event.Safe family registry := by
        rw [events]
        exact List.forall_mem_cons.mpr ⟨trivial, hrest⟩
      have hfields := safe_opsOfFields hfaithful fields true inputs body hbody _ hend
      rw [List.append_assoc, List.cons_append, List.singleton_append, events]
      exact List.forall_mem_cons.mpr ⟨trivial, hfields⟩

theorem safe_opsOfFields (hfaithful : registry.Faithful family) :
    ∀ (fields : List FieldSpec) (first : Bool) (inputs : Inputs) (ops : List Op),
      opsOfFields ⟨registry.resolve, coercions⟩ inputs.scopes first fields = .ok ops →
      ∀ rest : List Op, (∀ event ∈ events rest inputs, event.Safe family registry) →
        ∀ event ∈ events (ops ++ rest) inputs, event.Safe family registry
  | [], first, inputs, ops, hops, rest, hrest => by
      cases hops
      exact hrest
  | ⟨key, path, node⟩ :: fields, first, inputs, ops, hops, rest, hrest => by
      simp only [opsOfFields, Outcome.bind_eq_ok_iff, Outcome.pure_eq_ok_iff] at hops
      obtain ⟨value, hvalue, others, hothers, rfl⟩ := hops
      have hafter := safe_opsOfFields hfaithful fields false inputs others hothers rest hrest
      have hnode := safe_opsOfNode hfaithful node path inputs value hvalue _ hafter
      rw [List.cons_append, List.cons_append, List.append_assoc, events]
      exact List.forall_mem_cons.mpr ⟨trivial, hnode⟩

theorem safe_opsOfNode (hfaithful : registry.Faithful family) :
    ∀ (node : FieldNode) (path : ConfigPath) (inputs : Inputs) (ops : List Op),
      opsOfNode ⟨registry.resolve, coercions⟩ inputs.scopes path node = .ok ops →
      ∀ rest : List Op, (∀ event ∈ events rest inputs, event.Safe family registry) →
        ∀ event ∈ events (ops ++ rest) inputs, event.Safe family registry
  | .leaf reference type, path, inputs, ops, hops, rest, hrest => by
      simp only [opsOfNode, Outcome.bind_eq_ok_iff, Outcome.pure_eq_ok_iff] at hops
      obtain ⟨source, hsource, rfl⟩ := hops
      rw [List.singleton_append, events]
      exact List.forall_mem_cons.mpr ⟨Binder.safe_of_scalar hfaithful hsource, hrest⟩
  | .object spec, path, inputs, ops, hops, rest, hrest => by
      rw [opsOfNode] at hops
      exact safe_opsOfObject hfaithful spec inputs ops hops rest hrest
  | .array context contextPath items, path, inputs, ops, hops, rest, hrest => by
      simp only [opsOfNode, Outcome.bind_eq_ok_iff, Outcome.pure_eq_ok_iff] at hops
      obtain ⟨source, hsource, body, hbody, rfl⟩ := hops
      have hend : ∀ event ∈ events (.endArray :: rest) inputs, event.Safe family registry := by
        rw [events]
        exact List.forall_mem_cons.mpr ⟨trivial, hrest⟩
      rw [List.append_assoc, List.singleton_append]
      refine forall_events_beginArray trivial (Binder.safe_of_collection hfaithful hsource)
        ?_ hend
      -- The body was compiled for the declared shape of the elements, which each has.
      intro element hmem
      rw [← CollectionSource.shape_of_mem hmem, ← Inputs.scopes_withItem] at hbody
      have hinner := safe_opsOfObject hfaithful items (inputs.withItem element) body hbody []
        (by simp [events])
      rwa [List.append_nil] at hinner

end

theorem safe_of_compile (hfaithful : registry.Faithful family) {inputs : Inputs}
    {spec : ObjectSpec} {plan : DocumentPlan}
    (hcompile : compile ⟨registry.resolve, coercions⟩ inputs.scopes spec = .ok plan) :
    ∀ event ∈ events plan.ops inputs, event.Safe family registry := by
  have hops := compile_eq_ok_iff.mp hcompile
  have hsafe := safe_opsOfObject hfaithful spec inputs plan.ops hops [] (by simp [events])
  rwa [List.append_nil] at hsafe

end DocumentPlan

/-! ## Columns -/

/-- The events of the value of a column. -/
def Column.events (column : Column) (inputs : Inputs) : List Event :=
  match column.value with
  | .scalar source => [.value source inputs]
  | .json plan => MappingPlan.events plan.ops inputs

/-- A document in a column is never null, and a null value is one that was read. -/
theorem Column.events_of_evaluate_eq_null {column : Column} {inputs : Inputs}
    (hnull : column.evaluate inputs = .null) :
    ∃ source, column.events inputs = [.value source inputs] ∧
      source.evaluate inputs = .null := by
  unfold evaluate at hnull
  unfold events
  cases hvalue : column.value with
  | scalar source =>
      rw [hvalue] at hnull
      exact ⟨source, rfl, hnull⟩
  | json plan => simp [hvalue] at hnull

theorem Column.safe_of_compile {family : ShapeFamily} {registry : Registry}
    {coercions : Coercions} (hfaithful : registry.Faithful family) {inputs : Inputs}
    {spec : ColumnSpec} {column : Column}
    (hcompile : compile ⟨registry.resolve, coercions⟩ inputs.scopes spec = .ok column) :
    ∀ event ∈ column.events inputs, event.Safe family registry := by
  unfold compile at hcompile
  cases hkind : spec.kind with
  | scalar reference type =>
      simp only [hkind, Outcome.bind_eq_ok_iff, Outcome.pure_eq_ok_iff] at hcompile
      obtain ⟨source, hsource, rfl⟩ := hcompile
      exact List.forall_mem_singleton.mpr (Binder.safe_of_scalar hfaithful hsource)
  | json fields =>
      simp only [hkind, Outcome.bind_eq_ok_iff, Outcome.pure_eq_ok_iff] at hcompile
      obtain ⟨plan, hplan, rfl⟩ := hcompile
      exact DocumentPlan.safe_of_compile hfaithful hplan

/-- Plans that are compiled against registered shapes run safely on any event and record of
the shapes that they were compiled for. -/
theorem Registry.safe_execution (family : ShapeFamily) (shapes : List ShapeId)
    (coercions : Coercions) (event record : Instance) :
    (∀ (spec : ObjectSpec) (plan : DocumentPlan),
      DocumentPlan.compile ⟨(ofShapes family shapes).resolve, coercions⟩
          ⟨event.shape, record.shape, none⟩ spec = .ok plan →
        (events plan.ops ⟨event, record, none⟩).map Event.written =
            writtenPieces plan.ops ⟨event, record, none⟩ ∧
          ∀ read ∈ events plan.ops ⟨event, record, none⟩,
            read.Safe family (ofShapes family shapes)) ∧
    ∀ (mapping : RowMapping) (plan : RowPlan),
      RowPlan.compile ⟨(ofShapes family shapes).resolve, coercions⟩
          ⟨event.shape, record.shape, none⟩ mapping = .ok plan →
        ∀ column ∈ plan.columns,
          (∀ read ∈ column.events ⟨event, record, none⟩,
            read.Safe family (ofShapes family shapes)) ∧
          (column.evaluate ⟨event, record, none⟩ = .null →
            ∃ source, column.events ⟨event, record, none⟩ =
                [.value source ⟨event, record, none⟩] ∧
              source.evaluate ⟨event, record, none⟩ = .null) := by
  have hfaithful := faithful_ofShapes family shapes
  constructor
  · intro spec plan hcompile
    exact ⟨map_written_events _ _, DocumentPlan.safe_of_compile hfaithful hcompile⟩
  · intro mapping plan hcompile column hcolumn
    simp only [RowPlan.compile, Outcome.bind_eq_ok_iff, Outcome.pure_eq_ok_iff] at hcompile
    obtain ⟨columns, hcolumns, rfl⟩ := hcompile
    obtain ⟨spec, _, hspec⟩ := (Outcome.mem_iff_of_mapM_eq_ok hcolumns).mp hcolumn
    exact ⟨Column.safe_of_compile hfaithful hspec, Column.events_of_evaluate_eq_null⟩

namespace Parcels

def sent : ShapeId := ⟨"Sent"⟩
def parcel : ShapeId := ⟨"Parcel"⟩
def address : ShapeId := ⟨"Address"⟩
def box : ShapeId := ⟨"Box"⟩
def item : ShapeId := ⟨"Item"⟩

/-- An item belongs to a parcel again, so that the shapes refer to each other in a circle. -/
def family : ShapeFamily := [
  (sent, [⟨"Kind", .scalar .string false, "kind"⟩]),
  (parcel, [⟨"Address", .object address, "address"⟩, ⟨"Boxes", .items box true, "boxes"⟩]),
  (address, [⟨"City", .scalar .string true, "city"⟩]),
  (box, [⟨"Items", .items item false, "items"⟩]),
  (item, [⟨"Sku", .scalar .string false, "sku"⟩, ⟨"Parcel", .object parcel, "parcel"⟩])]

def registry : Registry :=
  [sent, parcel, address, box, item].foldl
    (fun registry shape => registry.enter shape (family.fields shape)) .empty

def spec : ObjectSpec :=
  ⟨.root, [
    ⟨"boxes", ⟨"boxes"⟩, .array (.field .record "Boxes") ⟨"boxes:context"⟩ ⟨⟨"boxes:items"⟩, [
      ⟨"items", ⟨"boxes:items:items"⟩, .array (.field .item "Items")
        ⟨"boxes:items:items:context"⟩ ⟨⟨"boxes:items:items:items"⟩, [
          ⟨"sku", ⟨"sku"⟩, .leaf (.field .item "Sku") none⟩,
          ⟨"city", ⟨"city"⟩, .leaf (.field .item "Parcel.Address.City") none⟩]⟩⟩]⟩⟩]⟩

def mapping : RowMapping :=
  ⟨.root, [
    ⟨"city", ⟨"items:city"⟩, none, .scalar (.field .record "Address.City") .string⟩,
    ⟨"document", ⟨"items:document"⟩, none, .json spec⟩]⟩

def event : Instance := ⟨sent, ⟨[("kind", .value (.string "new"))]⟩⟩

/-- A parcel without an address, with a box of two items and a box that says nothing of
its items.  Only the first item belongs to a parcel. -/
def record : Instance :=
  let oslo : Record := ⟨[("address", .object ⟨[("city", .value (.string "Oslo"))]⟩)]⟩
  ⟨parcel, ⟨[("boxes", .items [
    ⟨[("items", .items [
      ⟨[("sku", .value (.string "A")), ("parcel", .object oslo)]⟩,
      ⟨[("sku", .value (.string "B"))]⟩])]⟩,
    ⟨[]⟩])]⟩⟩

/-- A parcel brings in its address and boxes, the boxes bring in their items, and an item
finds its parcel there. -/
theorem ofShapes_eq : Registry.ofShapes family [sent, parcel] = registry := by
  have hnested : family.nested sent = [] ∧ family.nested parcel = [address, box] ∧
      family.nested address = [] ∧ family.nested box = [item] ∧ family.nested item = [parcel] :=
    ⟨rfl, rfl, rfl, rfl, rfl⟩
  obtain ⟨hsent, hparcel, haddress, hbox, hitem⟩ := hnested
  have hfirst : Registry.registerAll family [sent] .empty =
      Registry.empty.enter sent (family.fields sent) := by
    rw [Registry.registerAll, if_neg (by decide), hsent, List.nil_append, Registry.registerAll]
  rw [Registry.ofShapes, List.foldl_cons, List.foldl_cons, List.foldl_nil, Registry.register,
    Registry.register, hfirst]
  rw [Registry.registerAll, if_neg (by decide), hparcel, List.append_nil]
  rw [Registry.registerAll, if_neg (by decide), haddress, List.nil_append]
  rw [Registry.registerAll, if_neg (by decide), hbox, List.append_nil]
  rw [Registry.registerAll, if_neg (by decide), hitem, List.append_nil]
  rw [Registry.registerAll, if_pos (by decide), Registry.registerAll]
  rfl

end Parcels

theorem Registry.safe_execution_parcels :
    (∃ plan, DocumentPlan.compile
          ⟨(ofShapes Parcels.family [Parcels.sent, Parcels.parcel]).resolve, {}⟩
          ⟨Parcels.sent, Parcels.parcel, none⟩ Parcels.spec = .ok plan ∧
        plan.render ⟨Parcels.event, Parcels.record, none⟩ =
          "\x7b\"boxes\":[\x7b\"items\":[\x7b\"sku\":\"A\",\"city\":\"Oslo\"\x7d," ++
            "\x7b\"sku\":\"B\",\"city\":null\x7d]\x7d,\x7b\"items\":[]\x7d]\x7d" ∧
        ∀ read ∈ events plan.ops ⟨Parcels.event, Parcels.record, none⟩,
          read.Safe Parcels.family
            (ofShapes Parcels.family [Parcels.sent, Parcels.parcel])) ∧
      ∃ plan, RowPlan.compile
          ⟨(ofShapes Parcels.family [Parcels.sent, Parcels.parcel]).resolve, {}⟩
          ⟨Parcels.sent, Parcels.parcel, none⟩ Parcels.mapping = .ok plan ∧
        ∀ column ∈ plan.columns, ∀ read ∈ column.events ⟨Parcels.event, Parcels.record, none⟩,
          read.Safe Parcels.family
            (ofShapes Parcels.family [Parcels.sent, Parcels.parcel]) := by
  obtain ⟨hdocuments, hrows⟩ := safe_execution Parcels.family [Parcels.sent, Parcels.parcel] {}
    Parcels.event Parcels.record
  rw [Parcels.ofShapes_eq] at hdocuments hrows ⊢
  constructor
  · have haccepted : (DocumentPlan.compile ⟨Parcels.registry.resolve, {}⟩
        ⟨Parcels.sent, Parcels.parcel, none⟩ Parcels.spec).toBool = true := by decide +kernel
    cases hplan : DocumentPlan.compile ⟨Parcels.registry.resolve, {}⟩
        ⟨Parcels.sent, Parcels.parcel, none⟩ Parcels.spec with
    | error error => simp [hplan, Except.toBool] at haccepted
    | ok plan =>
        refine ⟨plan, rfl, ?_, (hdocuments Parcels.spec plan hplan).2⟩
        rw [DocumentPlan.render_of_compile _ hplan]
        decide +kernel
  · have haccepted : (RowPlan.compile ⟨Parcels.registry.resolve, {}⟩
        ⟨Parcels.sent, Parcels.parcel, none⟩ Parcels.mapping).toBool = true := by decide +kernel
    cases hplan : RowPlan.compile ⟨Parcels.registry.resolve, {}⟩
        ⟨Parcels.sent, Parcels.parcel, none⟩ Parcels.mapping with
    | error error => simp [hplan, Except.toBool] at haccepted
    | ok plan =>
        exact ⟨plan, rfl, fun column hcolumn => (hrows Parcels.mapping plan hplan column hcolumn).1⟩

end MappingPlan
