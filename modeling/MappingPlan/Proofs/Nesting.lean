import MappingPlan.Plan.Listing
import MappingPlan.Proofs.FollowedRuns

/-!
# The structure of compiled instructions

The instructions of an object description are nested as the description is: an object is
a list of fields between its begin and its end, a field is a key and one value, and the
value of an array is the instructions of one object between the begin and the end of the
array.  The begin of an array tells the length of what stands between.

All else is read off this grammar.  Wherever a part stands in a plan, it is run through if what
follows it is: its arrays hand on slices that lie within the plan, and the loop of every run,
that of the plan as well as that of each element, passes all the instructions of its slice in
order.  The depth of a listing counts the open objects and arrays, so it never has to stop
at zero, and only after the last instruction it is zero again.
-/

namespace MappingPlan

/-! ## The grammar -/

inductive OpPart where
  | object
  /-- the fields of an object from some field on, which may be the first -/
  | fields (first : Bool)
  | value

/-- Instructions that make up a part of a document. -/
inductive Nested : OpPart → List Op → Prop where
  | object {fields : List Op} (hfields : Nested (.fields true) fields) :
      Nested .object (.beginObject :: (fields ++ [.endObject]))
  | noFields (first : Bool) : Nested (.fields first) []
  | field (name : String) (first : Bool) {value rest : List Op}
      (hvalue : Nested .value value) (hrest : Nested (.fields false) rest) :
      Nested (.fields first) (.propertyName name first :: (value ++ rest))
  | leaf (source : ValueSource) : Nested .value [.emitValue source]
  | inner {ops : List Op} (hobject : Nested .object ops) : Nested .value ops
  | array (source : CollectionSource) {body : List Op} (hbody : Nested .object body) :
      Nested .value (.beginArray source body.length :: (body ++ [.endArray]))

namespace DocumentPlan

variable {binder : Binder}

mutual

theorem nested_opsOfObject :
    ∀ (spec : ObjectSpec) (scopes : Scopes) (ops : List Op),
      opsOfObject binder scopes spec = .ok ops → Nested .object ops
  | ⟨_, fields⟩, scopes, ops, hops => by
      simp only [opsOfObject, Outcome.bind_eq_ok_iff, Outcome.pure_eq_ok_iff] at hops
      obtain ⟨body, hbody, rfl⟩ := hops
      exact .object (nested_opsOfFields fields scopes true body hbody)

theorem nested_opsOfFields :
    ∀ (fields : List FieldSpec) (scopes : Scopes) (first : Bool) (ops : List Op),
      opsOfFields binder scopes first fields = .ok ops → Nested (.fields first) ops
  | [], scopes, first, ops, hops => by
      cases hops
      exact .noFields first
  | ⟨key, path, node⟩ :: fields, scopes, first, ops, hops => by
      simp only [opsOfFields, Outcome.bind_eq_ok_iff, Outcome.pure_eq_ok_iff] at hops
      obtain ⟨value, hvalue, others, hothers, rfl⟩ := hops
      have hnode : Nested .value value := nested_opsOfNode node scopes path value hvalue
      have hrest : Nested (.fields false) others :=
        nested_opsOfFields fields scopes false others hothers
      exact .field key first hnode hrest

theorem nested_opsOfNode :
    ∀ (node : FieldNode) (scopes : Scopes) (path : ConfigPath) (ops : List Op),
      opsOfNode binder scopes path node = .ok ops → Nested .value ops
  | .leaf reference type, scopes, path, ops, hops => by
      simp only [opsOfNode, Outcome.bind_eq_ok_iff, Outcome.pure_eq_ok_iff] at hops
      obtain ⟨source, _, rfl⟩ := hops
      exact .leaf source
  | .object spec, scopes, path, ops, hops => by
      rw [opsOfNode] at hops
      exact .inner (nested_opsOfObject spec scopes ops hops)
  | .array context contextPath items, scopes, path, ops, hops => by
      simp only [opsOfNode, Outcome.bind_eq_ok_iff, Outcome.pure_eq_ok_iff] at hops
      obtain ⟨source, _, body, hbody, rfl⟩ := hops
      exact .array source (nested_opsOfObject items _ body hbody)

end

theorem nested_of_compile {scopes : Scopes} {spec : ObjectSpec} {plan : DocumentPlan}
    (hcompile : compile binder scopes spec = .ok plan) : Nested .object plan.ops :=
  nested_opsOfObject spec scopes plan.ops (compile_eq_ok_iff.mp hcompile)

end DocumentPlan

/-! ## Positions -/

/-- A property of every instruction with what stands before and after it. -/
def AtEvery (property : List Op → Op → List Op → Prop) (ops : List Op) : Prop :=
  ∀ before op after, ops = before ++ op :: after → property before op after

section Positions

variable {property : List Op → Op → List Op → Prop} {op : Op} {ops front back : List Op}

theorem atEvery_nil : AtEvery property [] := by
  intro before op after hsplit
  simp at hsplit

theorem atEvery_cons :
    AtEvery property (op :: ops) ↔
      property [] op ops ∧ AtEvery (fun before => property (op :: before)) ops := by
  constructor
  · intro hall
    refine ⟨hall [] op ops rfl, ?_⟩
    intro before next after hsplit
    exact hall (op :: before) next after (by rw [hsplit, List.cons_append])
  · rintro ⟨hfirst, hrest⟩ before next after hsplit
    cases before with
    | nil =>
        obtain ⟨rfl, rfl⟩ := List.cons.inj hsplit
        exact hfirst
    | cons earlier before =>
        obtain ⟨rfl, htail⟩ := List.cons.inj hsplit
        exact hrest before next after htail

theorem atEvery_append :
    AtEvery property (front ++ back) ↔
      AtEvery (fun before op after => property before op (after ++ back)) front ∧
        AtEvery (fun before => property (front ++ before)) back := by
  induction front generalizing property with
  | nil => simp [atEvery_nil]
  | cons first front ih => simp only [List.cons_append, atEvery_cons, ih, and_assoc]

theorem AtEvery.imp {other : List Op → Op → List Op → Prop} (hall : AtEvery property ops)
    (himp : ∀ before op after, property before op after → other before op after) :
    AtEvery other ops :=
  fun before op after hsplit => himp before op after (hall before op after hsplit)

end Positions

/-! ## Arrays -/

/-- What follows the begin of an array starts with the instructions of one object, as
many as it tells, and the end of the array. -/
def ClosesArray (op : Op) (after : List Op) : Prop :=
  ∀ source body, op = .beginArray source body →
    ∃ inner rest, after = inner ++ .endArray :: rest ∧ inner.length = body ∧
      Nested .object inner

theorem ClosesArray.append {after : List Op} {op : Op} (hcloses : ClosesArray op after)
    (back : List Op) : ClosesArray op (after ++ back) := by
  intro source body hop
  obtain ⟨inner, rest, rfl, hlength, hinner⟩ := hcloses source body hop
  refine ⟨inner, rest ++ back, ?_, hlength, hinner⟩
  rw [List.append_assoc, List.cons_append]

theorem ClosesArray.of_ne {after : List Op} {op : Op}
    (hop : ∀ source body, op ≠ .beginArray source body) : ClosesArray op after := by
  intro source body heq
  exact absurd heq (hop source body)

theorem Nested.closesArray {part : OpPart} {ops : List Op} (hnested : Nested part ops) :
    AtEvery (fun _ => ClosesArray) ops := by
  induction hnested with
  | object _ ih =>
      rw [atEvery_cons, atEvery_append, atEvery_cons]
      refine ⟨.of_ne (by simp), ?_, .of_ne (by simp), atEvery_nil⟩
      exact ih.imp fun _ _ _ hcloses => hcloses.append _
  | noFields first => exact atEvery_nil
  | field name first _ _ ihValue ihRest =>
      rw [atEvery_cons, atEvery_append]
      refine ⟨.of_ne (by simp), ?_, ihRest⟩
      exact ihValue.imp fun _ _ _ hcloses => hcloses.append _
  | leaf source => exact atEvery_cons.mpr ⟨.of_ne (by simp), atEvery_nil⟩
  | inner _ ih => exact ih
  | @array source body hbody ih =>
      rw [atEvery_cons, atEvery_append, atEvery_cons]
      refine ⟨?_, ?_, .of_ne (by simp), atEvery_nil⟩
      · intro found length hop
        cases hop
        exact ⟨body, [], rfl, rfl, hbody⟩
      · exact ih.imp fun _ _ _ hcloses => hcloses.append _

/-! ## Commas -/

/-- A key is the first of its object exactly if the object begins right before it. -/
def MarksFirst (before : List Op) (op : Op) : Prop :=
  ∀ name first, op = .propertyName name first →
    (first = true ↔ before.getLast? = some .beginObject)

theorem MarksFirst.of_ne {before : List Op} {op : Op}
    (hop : ∀ name first, op ≠ .propertyName name first) : MarksFirst before op := by
  intro name first heq
  exact absurd heq (hop name first)

theorem Nested.getLast?_ne {ops : List Op} (hvalue : Nested .value ops) (front : List Op) :
    (front ++ ops).getLast? ≠ some .beginObject := by
  have hclosed : ∀ (opening closing : Op) (inside : List Op),
      (front ++ opening :: (inside ++ [closing])).getLast? = some closing := by
    intro opening closing inside
    rw [← List.cons_append, ← List.append_assoc, List.getLast?_concat]
  cases hvalue with
  | leaf source => simp
  | inner hobject =>
      cases hobject with
      | object hfields => simp [hclosed]
  | array source hbody => simp [hclosed]

/-- What has to stand before a part: a field that is marked as the first follows the
begin of its object, and no other field does. -/
def OpPart.Follows (before : List Op) : OpPart → Prop
  | .fields first => first = true ↔ before.getLast? = some .beginObject
  | _ => True

theorem Nested.marksFirst {part : OpPart} {ops : List Op} (hnested : Nested part ops)
    (front : List Op) (hfollows : part.Follows front) :
    AtEvery (fun before op _ => MarksFirst (front ++ before) op) ops := by
  induction hnested generalizing front with
  | object _ ih =>
      rw [atEvery_cons, atEvery_append, atEvery_cons]
      refine ⟨.of_ne (by simp), ?_, .of_ne (by simp), atEvery_nil⟩
      have hfields := ih (front ++ [.beginObject]) (by simp [OpPart.Follows])
      simpa only [List.append_assoc, List.singleton_append] using hfields
  | noFields first => exact atEvery_nil
  | @field name first value rest hvalue _ ihValue ihRest =>
      rw [atEvery_cons, atEvery_append]
      refine ⟨?_, ?_, ?_⟩
      · intro found marked hop
        cases hop
        rw [List.append_nil]
        exact hfollows
      · have hinside := ihValue (front ++ [.propertyName name first]) trivial
        simpa only [List.append_assoc, List.singleton_append] using hinside
      · -- The value ends with something that begins no object.
        have hlast := hvalue.getLast?_ne (front ++ [.propertyName name first])
        have hbehind := ihRest (front ++ [.propertyName name first] ++ value)
          (by simp only [OpPart.Follows, hlast, reduceCtorEq])
        simpa only [List.append_assoc, List.cons_append, List.nil_append] using hbehind
  | leaf source => exact atEvery_cons.mpr ⟨.of_ne (by simp), atEvery_nil⟩
  | inner _ ih => exact ih front trivial
  | @array source body _ ih =>
      rw [atEvery_cons, atEvery_append, atEvery_cons]
      refine ⟨.of_ne (by simp), ?_, .of_ne (by simp), atEvery_nil⟩
      have hbody := ih (front ++ [.beginArray source body.length]) trivial
      simpa only [List.append_assoc, List.singleton_append] using hbody

theorem head?_propertyText (name : String) (first : Bool) :
    (propertyText name first).toList.head? = some ',' ↔ first = false := by
  cases first <;> simp [propertyText, Json.quoteString]

/-! ## Depths -/

/-- The number of open objects and arrays, as a listing counts them. -/
def depthAfter (depth : Nat) (ops : List Op) : Nat :=
  ops.foldl Op.depthAfter depth

@[simp] theorem depthAfter_nil (depth : Nat) : depthAfter depth [] = depth := rfl

@[simp] theorem depthAfter_cons (depth : Nat) (op : Op) (ops : List Op) :
    depthAfter depth (op :: ops) = depthAfter (op.depthAfter depth) ops := rfl

@[simp] theorem depthAfter_append (depth : Nat) (front back : List Op) :
    depthAfter depth (front ++ back) = depthAfter (depthAfter depth front) back :=
  List.foldl_append

/-- The lines of a listing go on with the depth after the instructions so far. -/
theorem DocumentPlan.listFrom_append (index depth : Nat) (front back : List Op) :
    listFrom index depth (front ++ back) =
      listFrom index depth front ++
        listFrom (index + front.length) (depthAfter depth front) back := by
  induction front generalizing index depth with
  | nil => rfl
  | cons op front ih =>
      have hlength : index + 1 + front.length = index + (front.length + 1) := by omega
      rw [List.cons_append, listFrom, listFrom, ih, List.cons_append, depthAfter_cons,
        List.length_cons, hlength]

namespace Op

variable {op : Op} (depth : Nat)

theorem depthAfter_of_opens (hopens : op.opens = true) : op.depthAfter depth = depth + 1 := by
  cases op <;> simp_all [opens, closes, Op.depthAfter, shownAt]

theorem depthAfter_of_closes (hcloses : op.closes = true) :
    op.depthAfter depth = depth - 1 := by
  cases op <;> simp_all [opens, closes, Op.depthAfter, shownAt]

end Op

/-- At a place of a part that starts at a depth: nothing from before the part is closed. -/
structure Above (depth : Nat) (before : List Op) (op : Op) : Prop where
  not_below : depth ≤ depthAfter depth before
  of_closes : op.closes = true → depth < depthAfter depth before

/-- At a place of an object or an array: it is open from its begin on. -/
structure Inside (depth : Nat) (before : List Op) (op : Op) : Prop where
  of_ne_nil : before ≠ [] → depth < depthAfter depth before
  of_closes : op.closes = true → depth < depthAfter depth before

theorem Inside.above {depth : Nat} {before : List Op} {op : Op}
    (hinside : Inside depth before op) : Above depth before op := by
  refine ⟨?_, hinside.of_closes⟩
  cases before with
  | nil => exact Nat.le_refl depth
  | cons first before => exact Nat.le_of_lt (hinside.of_ne_nil (List.cons_ne_nil first before))

/-- What leaves the depth as it is can stand in front. -/
theorem Above.behind {depth : Nat} {front before : List Op} {op : Op}
    (habove : Above depth before op) (hfront : depthAfter depth front = depth) :
    Above depth (front ++ before) op := by
  have hafter : depthAfter depth (front ++ before) = depthAfter depth before := by
    rw [depthAfter_append, hfront]
  constructor
  · rw [hafter]
    exact habove.not_below
  · rw [hafter]
    exact habove.of_closes

section Bracketed

variable (opening closing : Op) (hopens : opening.opens = true) {inside : List Op} {depth : Nat}
  (hinside : depthAfter (depth + 1) inside = depth + 1)
include hopens hinside

theorem depthAfter_bracketed (hcloses : closing.closes = true) :
    depthAfter depth (opening :: (inside ++ [closing])) = depth := by
  rw [depthAfter_cons, depthAfter_append, Op.depthAfter_of_opens depth hopens, hinside,
    depthAfter_cons, depthAfter_nil, Op.depthAfter_of_closes _ hcloses, Nat.add_sub_cancel]

theorem inside_bracketed
    (habove : AtEvery (fun before op _ => Above (depth + 1) before op) inside) :
    AtEvery (fun before op _ => Inside depth before op) (opening :: (inside ++ [closing])) := by
  have hafter : ∀ before : List Op,
      depthAfter depth (opening :: before) = depthAfter (depth + 1) before := by
    intro before
    rw [depthAfter_cons, Op.depthAfter_of_opens depth hopens]
  rw [atEvery_cons, atEvery_append, atEvery_cons]
  refine ⟨⟨nofun, ?_⟩, ?_, ?_, atEvery_nil⟩
  · intro hcloses
    cases opening <;> simp_all [Op.opens, Op.closes]
  · refine habove.imp fun before op _ hplace => ?_
    have hopen : depth < depthAfter depth (opening :: before) := by
      rw [hafter]
      exact hplace.not_below
    exact ⟨fun _ => hopen, fun _ => hopen⟩
  · have hopen : depth < depthAfter depth (opening :: (inside ++ [])) := by
      rw [List.append_nil, hafter, hinside]
      exact Nat.lt_succ_self depth
    exact ⟨fun _ => hopen, fun _ => hopen⟩

end Bracketed

theorem Nested.depthAfter_eq {part : OpPart} {ops : List Op} (hnested : Nested part ops)
    (depth : Nat) : depthAfter depth ops = depth := by
  induction hnested generalizing depth with
  | object _ ih => exact depthAfter_bracketed _ _ rfl (ih (depth + 1)) rfl
  | noFields first => rfl
  | @field name first _ _ _ _ ihValue ihRest =>
      have hkey : (Op.propertyName name first).depthAfter depth = depth := rfl
      rw [depthAfter_cons, depthAfter_append, hkey, ihValue, ihRest]
  | leaf source => rfl
  | inner _ ih => exact ih depth
  | array source _ ih => exact depthAfter_bracketed _ _ rfl (ih (depth + 1)) rfl

theorem Nested.above {part : OpPart} {ops : List Op} (hnested : Nested part ops) (depth : Nat) :
    AtEvery (fun before op _ => Above depth before op) ops := by
  induction hnested generalizing depth with
  | @object fields hfields ih =>
      have hinside := inside_bracketed .beginObject .endObject rfl
        (hfields.depthAfter_eq (depth + 1)) (ih (depth + 1))
      exact hinside.imp fun _ _ _ => Inside.above
  | noFields first => exact atEvery_nil
  | @field name first value rest hvalue _ ihValue ihRest =>
      have hkey : depthAfter depth [.propertyName name first] = depth := rfl
      have hfield : depthAfter depth (.propertyName name first :: value) = depth := by
        rw [← List.singleton_append, depthAfter_append, hkey, hvalue.depthAfter_eq]
      rw [atEvery_cons, atEvery_append]
      refine ⟨⟨Nat.le_refl depth, nofun⟩, ?_, ?_⟩
      · exact (ihValue depth).imp fun _ _ _ hplace => hplace.behind hkey
      · exact (ihRest depth).imp fun _ _ _ hplace => hplace.behind hfield
  | leaf source => exact atEvery_cons.mpr ⟨⟨Nat.le_refl depth, nofun⟩, atEvery_nil⟩
  | inner _ ih => exact ih depth
  | @array source body hbody ih =>
      have hinside := inside_bracketed (.beginArray source body.length) .endArray rfl
        (hbody.depthAfter_eq (depth + 1)) (ih (depth + 1))
      exact hinside.imp fun _ _ _ => Inside.above

theorem Nested.inside {ops : List Op} (hobject : Nested .object ops) (depth : Nat) :
    AtEvery (fun before op _ => Inside depth before op) ops := by
  cases hobject with
  | object hfields =>
      exact inside_bracketed _ _ rfl (hfields.depthAfter_eq (depth + 1)) (hfields.above (depth + 1))

/-! ## Runs -/

section Runs

variable {whole : List Op} {inputs : Inputs} {position : Nat}

theorem prefix_drop_append (front : List Op) {back : List Op}
    (hslice : front ++ back <+: whole.drop position) :
    back <+: whole.drop (position + front.length) := by
  obtain ⟨behind, hsplit⟩ := hslice
  refine ⟨behind, ?_⟩
  rw [← List.drop_drop, ← hsplit, List.append_assoc, List.drop_left]

theorem getElem?_of_prefix_drop {op : Op} {rest : List Op}
    (hslice : op :: rest <+: whole.drop position) : whole[position]? = some op := by
  obtain ⟨behind, hsplit⟩ := hslice
  have hfirst : (whole.drop position)[0]? = some op := by
    rw [← hsplit]
    rfl
  rwa [List.getElem?_drop] at hfirst

theorem exists_streams_cons {op : Op} (hplain : ∀ source body, op ≠ .beginArray source body)
    {rest : List Op} (hslice : op :: rest <+: whole.drop position)
    (hrest : ∃ actions steps, Streams whole inputs (position + 1) rest actions steps) :
    ∃ actions steps, Streams whole inputs position (op :: rest) actions steps := by
  have hop := getElem?_of_prefix_drop hslice
  obtain ⟨actions, steps, hrest⟩ := hrest
  cases op with
  | beginArray source body => exact absurd rfl (hplain source body)
  | emitValue source =>
      exact ⟨_, _, hrest.cons (.value (source.evaluate inputs)) hop hplain rfl
        (by rw [writtenPieces]) fun writer cutting note => by rw [streamOps]; rfl⟩
  | beginObject =>
      exact ⟨_, _, hrest.cons (.text "\x7b") hop hplain rfl
        (by rw [writtenPieces]) fun writer cutting note => by rw [streamOps]; rfl⟩
  | endObject =>
      exact ⟨_, _, hrest.cons (.text "\x7d") hop hplain rfl
        (by rw [writtenPieces]) fun writer cutting note => by rw [streamOps]; rfl⟩
  | endArray =>
      exact ⟨_, _, hrest.cons (.text "]") hop hplain rfl
        (by rw [writtenPieces]) fun writer cutting note => by rw [streamOps]; rfl⟩
  | propertyName name first =>
      exact ⟨_, _, hrest.cons (.text (propertyText name first)) hop hplain rfl
        (by rw [writtenPieces]) fun writer cutting note => by rw [streamOps]; rfl⟩

/-- Whatever is run behind it, a part is run through. -/
theorem Nested.exists_streams {part : OpPart} {slice : List Op} (hnested : Nested part slice)
    {rest : List Op} (hslice : slice ++ rest <+: whole.drop position)
    (hrest : ∃ actions steps,
      Streams whole inputs (position + slice.length) rest actions steps) :
    ∃ actions steps, Streams whole inputs position (slice ++ rest) actions steps := by
  induction hnested generalizing inputs position rest with
  | @object fields _ ih =>
      rw [List.cons_append, List.append_assoc] at hslice ⊢
      have hfields := prefix_drop_append [.beginObject] hslice
      have hend := prefix_drop_append fields hfields
      have hposition : position + (Op.beginObject :: (fields ++ [.endObject])).length =
          position + 1 + fields.length + 1 := by
        simp only [List.length_cons, List.length_append, List.length_nil]
        omega
      rw [hposition] at hrest
      exact exists_streams_cons (by simp) hslice
        (ih hfields (exists_streams_cons (by simp) hend hrest))
  | noFields first => exact hrest
  | @field name first value others _ _ ihValue ihRest =>
      rw [List.cons_append, List.append_assoc] at hslice ⊢
      have hvalue := prefix_drop_append [.propertyName name first] hslice
      have hothers := prefix_drop_append value hvalue
      have hposition : position + (Op.propertyName name first :: (value ++ others)).length =
          position + 1 + value.length + others.length := by
        simp only [List.length_cons, List.length_append]
        omega
      rw [hposition] at hrest
      exact exists_streams_cons (by simp) hslice (ihValue hvalue (ihRest hothers hrest))
  | leaf source => exact exists_streams_cons (by simp) hslice hrest
  | inner _ ih => exact ih hslice hrest
  | @array source body _ ih =>
      rw [List.cons_append, List.append_assoc] at hslice ⊢
      have hbody := prefix_drop_append [.beginArray source body.length] hslice
      have hend := prefix_drop_append body hbody
      have hposition :
          position + (Op.beginArray source body.length :: (body ++ [.endArray])).length =
            position + 1 + body.length + 1 := by
        simp only [List.length_cons, List.length_append, List.length_nil]
        omega
      rw [hposition] at hrest
      have hinside : body <+: whole.drop (position + 1) := (List.prefix_append body _).trans hbody
      have helement : ∀ item, ∃ actions steps,
          Streams whole (inputs.withItem item) (position + 1) body actions steps := by
        intro item
        have hbound : position + 1 + body.length ≤ whole.length := by
          have hlength := hslice.length_le
          simp only [List.length_cons, List.length_append, List.length_drop] at hlength
          omega
        have hrun := @ih (inputs.withItem item) (position + 1) [] (by rwa [List.append_nil])
          ⟨[], [], .nil hbound⟩
        rwa [List.append_nil] at hrun
      obtain ⟨actions, steps, hbehind⟩ := exists_streams_cons (by simp) hend hrest
      choose taken run helement using helement
      exact ⟨_, _, .array (getElem?_of_prefix_drop hslice) helement hbehind⟩

end Runs

/-! ## Compiled plans -/

namespace DocumentPlan

variable {binder : Binder} {scopes : Scopes} {spec : ObjectSpec} {plan : DocumentPlan}

theorem exists_streams_of_compile (hcompile : compile binder scopes spec = .ok plan)
    (inputs : Inputs) :
    ∃ actions steps, Streams plan.ops inputs 0 plan.ops actions steps := by
  have hbehind : Streams plan.ops inputs (0 + plan.ops.length) [] [] [] :=
    .nil (Nat.le_of_eq (Nat.zero_add _))
  have hslice : plan.ops ++ [] <+: plan.ops.drop 0 := by simp
  have hstreams := (nested_of_compile hcompile).exists_streams hslice ⟨[], [], hbehind⟩
  rwa [List.append_nil] at hstreams

/-- The instructions of a description that compiles are nested as the description is.  After
the begin of an array there is one whole object, of the length that it tells, and then
the end of the array; a key is written with a comma exactly if it is not the first of
its object.  A run goes through all the instructions: its loop passes each of them once and
in order, and so does the loop of every run that it hands the instructions of an element
to.  Whatever it writes to, the positions to which it comes are those of these loops, up to
the failure if it ends with one; it never looks for an instruction behind the last.  The depth
at which a listing shows an instruction is positive from the first instruction to the
last, so that nothing is closed at depth zero, and zero after it. -/
theorem ops_nested (hcompile : compile binder scopes spec = .ok plan) :
    Nested .object plan.ops ∧
      (∀ before source body after, plan.ops = before ++ .beginArray source body :: after →
        ∃ element rest, after = element ++ .endArray :: rest ∧ element.length = body ∧
          Nested .object element) ∧
      (∀ before name first after, plan.ops = before ++ .propertyName name first :: after →
        ((propertyText name first).toList.head? = some ',' ↔
          before.getLast? ≠ some .beginObject)) ∧
      (∀ inputs : Inputs, ∃ steps, RunsThrough plan.ops inputs 0 plan.ops.length steps ∧
        ∀ cutting : Cutting,
          (∃ document, (plan.follow .buffer cutting inputs).run ([], []) =
            .ok () (document, Step.positionsOfRun steps)) ∧
          ∀ {σ ε : Type} (writer : Writer σ ε) (start : σ),
            Follows [] (Step.positionsOfRun steps)
              ((plan.write writer cutting inputs).run start)
              ((plan.follow writer cutting inputs).run (start, []))) ∧
      (∀ {σ ε : Type} (writer : Writer σ ε) (cutting : Cutting) (inputs : Inputs)
        (start final : σ),
        (plan.write writer cutting inputs).run start ≠ .error .outOfRange final) ∧
      (∀ before op after, plan.ops = before ++ op :: after →
        listFrom 0 0 plan.ops =
            listFrom 0 0 before ++
              listFrom before.length (depthAfter 0 before) (op :: after) ∧
          (before ≠ [] → 0 < depthAfter 0 before) ∧
          (op.closes = true → 0 < depthAfter 0 before)) ∧
      depthAfter 0 plan.ops = 0 := by
  have hnested := nested_of_compile hcompile
  refine ⟨hnested, ?_, ?_, ?_, ?_, ?_, hnested.depthAfter_eq 0⟩
  · intro before source body after hsplit
    exact hnested.closesArray before _ after hsplit source body rfl
  · intro before name first after hsplit
    have hmarks := hnested.marksFirst [] trivial before _ after hsplit name first rfl
    rw [List.nil_append] at hmarks
    rw [head?_propertyText, Ne, ← hmarks, Bool.not_eq_true]
  · intro inputs
    obtain ⟨actions, steps, hstreams⟩ := exists_streams_of_compile hcompile inputs
    refine ⟨steps, hstreams.runsThrough, fun cutting => ⟨?_, ?_⟩⟩
    · obtain ⟨pieces, _, hwrite⟩ := hstreams.exists_pieces cutting
      have hfollows := hstreams.follows .buffer cutting [] []
      rw [hwrite, Writer.run_writePieces_buffer] at hfollows
      exact ⟨_, hfollows⟩
    · intro σ ε writer start
      exact hstreams.follows writer cutting start []
  · intro σ ε writer cutting inputs start final
    obtain ⟨actions, steps, hstreams⟩ := exists_streams_of_compile hcompile inputs
    obtain ⟨pieces, _, hwrite⟩ := hstreams.exists_pieces cutting
    rw [hwrite]
    exact writer.writePieces_ne_outOfRange pieces start final
  · intro before op after hsplit
    have hinside := hnested.inside 0 before op after hsplit
    refine ⟨?_, hinside.of_ne_nil, hinside.of_closes⟩
    rw [hsplit, listFrom_append, Nat.zero_add]

/-- Of the two lines one has two tags and the other none, so a run comes to the instructions
of a tag twice. -/
theorem ops_nested_orders :
    compile ⟨Orders.registry.resolve, {}⟩ ⟨Orders.placed, Orders.order, none⟩ Orders.spec =
        .ok ⟨Orders.ops⟩ ∧
      (∃ steps document, RunsThrough Orders.ops Orders.inputs 0 20 steps ∧
        (follow ⟨Orders.ops⟩ .buffer .whole Orders.inputs).run ([], []) =
          .ok () (document, Step.positionsOfRun steps) ∧
        Step.positionsOfRun steps =
          [0, 1, 2, 3, 4,
            5, 6, 7, 8, 9, 10, 11, 12, 13, 8, 9, 10, 11, 12, 13, 14, 15, 16, 17,
            5, 6, 7, 14, 15, 16, 17,
            18, 19]) ∧
      depthAfter 0 Orders.ops = 0 := by
  have hcompile : compile ⟨Orders.registry.resolve, {}⟩
      ⟨Orders.placed, Orders.order, none⟩ Orders.spec = .ok ⟨Orders.ops⟩ := rfl
  obtain ⟨-, -, -, hruns, -, -, hdepth⟩ := ops_nested hcompile
  obtain ⟨steps, hthrough, hfollow⟩ := hruns Orders.inputs
  obtain ⟨⟨document, hdocument⟩, -⟩ := hfollow .whole
  have hpositions :
      (match (follow ⟨Orders.ops⟩ .buffer .whole Orders.inputs).run ([], []) with
        | .ok _ final => final.2
        | .error _ _ => []) =
      [0, 1, 2, 3, 4,
        5, 6, 7, 8, 9, 10, 11, 12, 13, 8, 9, 10, 11, 12, 13, 14, 15, 16, 17,
        5, 6, 7, 14, 15, 16, 17,
        18, 19] := by decide +kernel
  rw [hdocument] at hpositions
  exact ⟨hcompile, ⟨steps, document, hthrough, hdocument, hpositions⟩, hdepth⟩

end DocumentPlan

end MappingPlan
