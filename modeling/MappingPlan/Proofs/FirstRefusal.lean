import MappingPlan.Proofs.KeyRule

/-!
# The first key that is refused

A mapping is refused for a key as soon as the key has been read.  So the beginning of the text
that ends with the closing quote of the key decides the error, and what follows may be anything.

Which keys a text has is said by plain reading.  A beginning of a text ends with a key if it
becomes a text when the key gets a value and the open containers are closed.  What that text
writes last shows where the key stands.

A key that offends breaks the rule for keys in the completed text as well, so strict reading
refuses that text.  It refuses only at the closing quote of a key, and what was added has no
quote.  So the key, or one before it, was refused within the beginning.
-/

namespace MappingPlan

namespace Json

/-- Where a key stands: the keys and indices of the containers around its object, the keys
before it in its object, and the key itself. -/
structure KeyPlace where
  enclosing : List String
  earlier : List String
  key : String

namespace KeyPlace

def within (label : String) (place : KeyPlace) : KeyPlace :=
  { place with enclosing := label :: place.enclosing }

/-- The key has the separator, or its object has the key already. -/
def Offends (place : KeyPlace) : Prop :=
  ':' ∈ place.key.toList ∨ place.key ∈ place.earlier

/-- A key with the separator is reported at its object, a repeated key at its own path. -/
def error (place : KeyPlace) : CompileError :=
  let object := ConfigPath.root.descend place.enclosing
  if ':' ∈ place.key.toList then .invalid object (.separatorInKey place.key)
  else .invalid (object.child place.key) (.repeatedKey place.key)

end KeyPlace

/-- A refusal is that of the key at a place. -/
structure Refusal.IsFor (refusal : Refusal) (place : KeyPlace) : Prop where
  enclosing : refusal.enclosing = place.enclosing
  key : refusal.key = place.key
  fault : uniqueKeys place.earlier place.key = some refusal.fault

/-- What a tree writes last is a null for the key at a place. -/
inductive EndsAt : Json → KeyPlace → Prop
  | here {members : List (String × Json)} {key : String} :
      EndsAt (.object (members ++ [(key, .null)])) ⟨[], members.map Prod.fst, key⟩
  | member {members : List (String × Json)} {name : String} {value : Json} {place : KeyPlace}
      (hvalue : EndsAt value place) :
      EndsAt (.object (members ++ [(name, value)])) (place.within name)
  | item {items : List Json} {value : Json} {place : KeyPlace} (hvalue : EndsAt value place) :
      EndsAt (.array (items ++ [value])) (place.within (toString items.length))

/-- The beginning of a text ends with the closing quote of the key at a place: with a null for
the key, and the open containers closed, it is a text that ends there. -/
structure ReadsKey (before : String) (place : KeyPlace) : Prop where
  quote : before.toList.getLast? = some '"'
  completed : ∃ (closers : List Char) (tree : Json), (∀ c ∈ closers, c = ']' ∨ c = '\x7d') ∧
    read anyKeys (before ++ ":null" ++ String.ofList closers) = .ok tree ∧ tree.EndsAt place

/-- No key that is read earlier offends. -/
structure FirstOffence (before : String) (place : KeyPlace) : Prop where
  readsKey : ReadsKey before place
  offends : place.Offends
  first : ∀ shorter rest other, before = shorter ++ rest → rest ≠ "" →
    ReadsKey shorter other → ¬ other.Offends

theorem EndsAt.unique {tree : Json} {place other : KeyPlace} (hends : tree.EndsAt place)
    (hother : tree.EndsAt other) : place = other := by
  induction hends generalizing other with
  | @here members key =>
      generalize htree : Json.object (members ++ [(key, .null)]) = tree at hother
      cases hother with
      | here =>
          obtain ⟨rfl, hlast⟩ := List.append_inj' (Json.object.inj htree) rfl
          cases hlast
          rfl
      | member hvalue =>
          obtain ⟨_, hlast⟩ := List.append_inj' (Json.object.inj htree) rfl
          cases hlast
          nomatch hvalue
      | item _ => cases htree
  | @member members name value place hvalue ih =>
      generalize htree : Json.object (members ++ [(name, value)]) = tree at hother
      cases hother with
      | here =>
          obtain ⟨_, hlast⟩ := List.append_inj' (Json.object.inj htree) rfl
          cases hlast
          nomatch hvalue
      | member hinner =>
          obtain ⟨_, hlast⟩ := List.append_inj' (Json.object.inj htree) rfl
          cases hlast
          rw [ih hinner]
      | item _ => cases htree
  | @item items value place hvalue ih =>
      generalize htree : Json.array (items ++ [value]) = tree at hother
      cases hother with
      | here => cases htree
      | member _ => cases htree
      | item hinner =>
          obtain ⟨rfl, hlast⟩ := List.append_inj' (Json.array.inj htree) rfl
          cases hlast
          rw [ih hinner]

/-! ## Closing what is open -/

def Frame.closer : Frame → Char
  | .array _ => ']'
  | .object _ _ => '\x7d'

/-- The container with a last value, as it is when it is closed after that. -/
def Frame.around (node : Json) : Frame → Json
  | .array items => .array (node :: items).reverse
  | .object members key => .object ((key, node) :: members).reverse

namespace Reader

/-- The root that a stack becomes when its containers are closed after a value. -/
def rootAround (node : Json) (stack : List Frame) : Json :=
  stack.foldl Frame.around node

/-- The place of a key that comes after the members that its object has so far. -/
def placeAt (stack : List Frame) (members : List (String × Json)) (key : String) : KeyPlace :=
  ⟨enclosing stack, (members.map Prod.fst).reverse, key⟩

variable {later : Reader} {stack : List Frame} {node tree : Json} {place : KeyPlace}
  {chars : List Char} {position : Position}

theorem exists_run_closers (position : Position) (node : Json) (stack : List Frame) :
    ∃ last, (stack.map Frame.closer).foldlM (step anyKeys)
        ⟨position, (complete node stack).1, (complete node stack).2⟩ =
      .ok ⟨last, [], .finished (rootAround node stack)⟩ := by
  induction stack generalizing position node with
  | nil => exact ⟨position, rfl⟩
  | cons frame stack ih =>
      cases frame with
      | array items => exact ih (position.after ']') (.array (node :: items).reverse)
      | object members key =>
          exact ih (position.after '\x7d') (.object ((key, node) :: members).reverse)

/-- Brackets that end a text after a value are those of the stack. -/
theorem eq_rootAround (hclosers : ∀ c ∈ chars, c = ']' ∨ c = '\x7d')
    (hrun : chars.foldlM (step anyKeys)
      ⟨position, (complete node stack).1, (complete node stack).2⟩ = .ok later)
    (hfinish : later.finish = .ok tree) : tree = rootAround node stack := by
  induction chars generalizing position node stack with
  | nil =>
      cases hrun
      cases stack with
      | nil =>
          cases hfinish
          rfl
      | cons frame stack => cases frame <;> cases hfinish
  | cons c rest ih =>
      rw [List.forall_mem_cons] at hclosers
      rw [List.foldlM_cons, Outcome.bind_eq_ok_iff] at hrun
      obtain ⟨middle, hmiddle, hrest⟩ := hrun
      cases stack with
      | nil => rcases hclosers.1 with rfl | rfl <;> cases hmiddle
      | cons frame stack =>
          cases frame with
          | array items =>
              rcases hclosers.1 with rfl | rfl
              · cases hmiddle
                exact @ih stack (.array (node :: items).reverse) _ hclosers.2 hrest
              · cases hmiddle
          | object members key =>
              rcases hclosers.1 with rfl | rfl
              · cases hmiddle
              · cases hmiddle
                exact @ih stack (.object ((key, node) :: members).reverse) _ hclosers.2 hrest

theorem EndsAt.rootAround (hends : node.EndsAt place) (stack : List Frame) :
    (rootAround node stack).EndsAt
      { place with enclosing := enclosing stack ++ place.enclosing } := by
  induction stack generalizing node place with
  | nil => exact hends
  | cons frame stack ih =>
      have hlabels : enclosing (frame :: stack) = enclosing stack ++ [frame.label] := by
        simp [enclosing]
      have haround : (frame.around node).EndsAt (place.within frame.label) := by
        cases frame with
        | array items =>
            rw [Frame.around, List.reverse_cons, Frame.label, ← List.length_reverse]
            exact .item hends
        | object members key =>
            rw [Frame.around, List.reverse_cons]
            exact .member hends
      rw [hlabels, List.append_assoc]
      exact ih haround

theorem endsAt_placeAt (stack : List Frame) (members : List (String × Json)) (key : String) :
    (rootAround .null (.object members key :: stack)).EndsAt (placeAt stack members key) := by
  have hobject : (Frame.around .null (.object members key)).EndsAt
      ⟨[], (members.map Prod.fst).reverse, key⟩ := by
    rw [Frame.around, List.reverse_cons, ← List.map_reverse]
    exact .here
  have hroot := EndsAt.rootAround hobject stack
  rwa [List.append_nil] at hroot

end Reader

/-! ## The key that is refused -/

theorem StringText.eq_quote_of_closed {text : StringText} {c : Char} {closed : String}
    (hstep : text.step c = .closed closed) : c = '"' := by
  unfold StringText.step at hstep
  split at hstep
  · split_ifs at hstep with hquote
    exact hquote
  · split_ifs at hstep
    split at hstep <;> cases hstep
  · unfold takeHex takeUnit at hstep
    simp only at hstep
    repeat' split at hstep
    all_goals cases hstep
  · split_ifs at hstep
  · split_ifs at hstep

namespace Reader

variable {rule : KeyRule} {reader : Reader} {stack : List Frame} {mode : Mode} {c : Char}
  {chars : List Char} {position : Position} {refusal : Refusal}

theorem RefusesKey.eq_quote {members : List (String × Json)}
    (hrefuses : RefusesKey rule reader c refusal members) : c = '"' := by
  obtain ⟨text, _, hclosed⟩ := hrefuses.closes
  exact StringText.eq_quote_of_closed hclosed

/-- The plain reader has just read the key at a place. -/
def AtKey (chars : List Char) (place : KeyPlace) : Prop :=
  ∃ position stack members key,
    run anyKeys chars = .ok ⟨position, stack, .colon members key⟩ ∧
      place = placeAt stack members key

/-- A refusal comes at the closing quote of a key.  Before it nothing was refused. -/
theorem exists_key_of_refused (hrefused : run uniqueKeys chars = .error (.refused refusal)) :
    ∃ init rest place, chars = init ++ '"' :: rest ∧
      (∃ reader, run uniqueKeys init = .ok reader) ∧
      AtKey (init ++ ['"']) place ∧ refusal.IsFor place := by
  obtain ⟨init, c, rest, reader, members, rfl, hinit, hrefuses⟩ := exists_refused_step hrefused
  obtain rfl := hrefuses.eq_quote
  have hplainKey : run anyKeys (init ++ ['"']) =
      .ok ⟨reader.position.after '"', reader.stack, .colon members refusal.key⟩ := by
    rw [run_append, run_anyKeys_of_ok hinit, Outcome.ok_bind, List.foldlM_cons,
      hrefuses.step_anyKeys]
    rfl
  have hfault : uniqueKeys (members.map Prod.fst).reverse refusal.key = some refusal.fault := by
    rw [uniqueKeys_reverse, hrefuses.fault]
  exact ⟨init, rest, placeAt reader.stack members refusal.key, rfl, ⟨reader, hinit⟩,
    ⟨_, reader.stack, members, refusal.key, hplainKey, rfl⟩, hrefuses.enclosing_eq, rfl, hfault⟩

/-- A null makes the key the last member of its object. -/
theorem exists_run_null {members : List (String × Json)} {key : String}
    (hrun : run anyKeys chars = .ok ⟨position, stack, .colon members key⟩)
    (closers : List Char) :
    ∃ last, run anyKeys (chars ++ (":null".toList ++ closers)) =
      closers.foldlM (step anyKeys)
        ⟨last, (complete .null (.object members key :: stack)).1,
          (complete .null (.object members key :: stack)).2⟩ := by
  have hnull : ∃ last, ":null".toList.foldlM (step anyKeys)
      ⟨position, stack, .colon members key⟩ =
        .ok ⟨last, (complete .null (.object members key :: stack)).1,
          (complete .null (.object members key :: stack)).2⟩ := ⟨_, rfl⟩
  obtain ⟨last, hlast⟩ := hnull
  refine ⟨last, ?_⟩
  rw [run_append, hrun, Outcome.ok_bind, List.foldlM_append, hlast, Outcome.ok_bind]

end Reader

/-! ## Keys of a text -/

open Reader

variable {before : String} {place : KeyPlace}

/-- A tree that ends at an offending key breaks the rule for keys. -/
theorem EndsAt.not_ruled {tree : Json} (hends : tree.EndsAt place) (hoffends : place.Offends) :
    ¬ tree.Ruled := by
  intro hruled
  induction hends with
  | @here members key =>
      have hkeys := (ruled_object_iff.mp hruled).keys
      rw [List.map_append] at hkeys
      rcases hoffends with hseparator | hrepeated
      · have hplain := hkeys.plain key (by simp)
        simp [ConfigPath.hasSeparator, ConfigPath.separator, hseparator] at hplain
      · have hdisjoint := (List.nodup_append.mp hkeys.distinct).2.2
        exact hdisjoint key hrepeated key (by simp) rfl
  | @member members name value place _ ih =>
      have hvalue := (ruled_object_iff.mp hruled).values (name, value) (by simp)
      exact ih hoffends hvalue
  | @item items value place _ ih =>
      have hvalue := ruled_array_iff.mp hruled value (by simp)
      exact ih hoffends hvalue

theorem Refusal.IsFor.offends {refusal : Refusal} (hfor : refusal.IsFor place) :
    place.Offends := by
  have hfault := hfor.fault
  unfold uniqueKeys at hfault
  split_ifs at hfault with hseparator hrepeated
  · exact .inl hseparator
  · exact .inr hrepeated

theorem read_refused_of_run {rule : KeyRule} {refusal : Refusal}
    (hrefused : run rule before.toList = .error (.refused refusal)) (after : String) :
    read rule (before ++ after) = .error (.refused refusal) := by
  have hrun : run rule (before ++ after).toList = .error (.refused refusal) := by
    rw [String.toList_append, run_append, hrefused, Outcome.error_bind]
  rw [read]
  show run rule (before ++ after).toList >>= finish = _
  rw [hrun, Outcome.error_bind]

theorem toList_completed (before : String) (closers : List Char) :
    (before ++ ":null" ++ String.ofList closers).toList =
      before.toList ++ (":null".toList ++ closers) := by
  simp only [String.toList_append, String.toList_ofList, List.append_assoc]

/-- After an offending key has been read, something has been refused. -/
theorem ReadsKey.exists_refusal (hreads : ReadsKey before place) (hoffends : place.Offends) :
    ∃ refusal, run uniqueKeys before.toList = .error (.refused refusal) := by
  obtain ⟨closers, tree, hclosers, hread, hends⟩ := hreads.completed
  obtain ⟨refusal, hrefused⟩ :=
    exists_refusal_of_not_ruled hread (hends.not_ruled hoffends)
  have hrun := run_refused_of_read hrefused
  rw [toList_completed, run_append] at hrun
  rcases Outcome.bind_eq_error_iff.mp hrun with hbefore | ⟨reader, _, hrest⟩
  · exact ⟨refusal, hbefore⟩
  · obtain ⟨_, c, _, _, hchars, _, hstep⟩ := Outcome.exists_of_foldlM_eq_error hrest
    obtain ⟨members, hrefuses⟩ := refused_of_step hstep
    obtain rfl := hrefuses.eq_quote
    have hquote : '"' ∈ ":null".toList ++ closers := by
      rw [hchars]
      exact List.mem_append_right _ List.mem_cons_self
    rw [List.mem_append] at hquote
    rcases hquote with hnull | hcloser
    · exact absurd hnull (by decide)
    · rcases hclosers _ hcloser with heq | heq <;> exact absurd heq (by decide)

/-- The plain reader tells the place of a key that it has just read. -/
theorem ReadsKey.eq_of_atKey {other : KeyPlace} (hreads : ReadsKey before place)
    (hkey : AtKey before.toList other) : place = other := by
  obtain ⟨position, stack, members, key, hrun, rfl⟩ := hkey
  obtain ⟨closers, tree, hclosers, hread, hends⟩ := hreads.completed
  obtain ⟨last, hlast, hfinish⟩ := Outcome.bind_eq_ok_iff.mp hread
  obtain ⟨_, hnull⟩ := exists_run_null hrun closers
  rw [toList_completed] at hlast
  have htree : tree = rootAround .null (.object members key :: stack) :=
    eq_rootAround hclosers (hnull.symm.trans hlast) hfinish
  rw [htree] at hends
  exact hends.unique (endsAt_placeAt stack members key)

theorem readsKey_of_atKey (hquote : before.toList.getLast? = some '"')
    (hkey : AtKey before.toList place) : ReadsKey before place := by
  obtain ⟨position, stack, members, key, hrun, rfl⟩ := hkey
  obtain ⟨last, hnull⟩ :=
    exists_run_null hrun ((Frame.object members key :: stack).map Frame.closer)
  obtain ⟨_, hclosed⟩ := exists_run_closers last .null (.object members key :: stack)
  have hlast := hnull.trans hclosed
  rw [← toList_completed] at hlast
  refine ⟨hquote, (Frame.object members key :: stack).map Frame.closer, _, ?_,
    Outcome.bind_eq_ok_iff.mpr ⟨_, hlast, rfl⟩, endsAt_placeAt stack members key⟩
  intro c hc
  obtain ⟨frame, _, rfl⟩ := List.mem_map.mp hc
  cases frame with
  | array items => exact .inl rfl
  | object members key => exact .inr rfl

/-- Strict reading is refused at the first key that offends. -/
theorem exists_firstOffence {text : String} {refusal : Refusal}
    (hrefused : readStrict text = .error (.refused refusal)) :
    ∃ before after place, text = before ++ after ∧ FirstOffence before place ∧
      AtKey before.toList place ∧ refusal.IsFor place := by
  obtain ⟨init, rest, place, hchars, ⟨reader, hinit⟩, hkey, hfor⟩ :=
    exists_key_of_refused (run_refused_of_read hrefused)
  have hbefore : (String.ofList (init ++ ['"'])).toList = init ++ ['"'] := String.toList_ofList
  have htext : text = String.ofList (init ++ ['"']) ++ String.ofList rest := by
    apply String.toList_inj.mp
    rw [String.toList_append, hbefore, String.toList_ofList, hchars, List.append_assoc]
    rfl
  rw [← hbefore] at hkey
  have hreads := readsKey_of_atKey (by simp) hkey
  refine ⟨_, _, place, htext, ⟨hreads, hfor.offends, ?_⟩, hkey, hfor⟩
  -- a shorter beginning lies before the closing quote, where nothing was refused
  intro shorter more other hsplit hmore hearlier hoffends
  obtain ⟨earlier, hrun⟩ := hearlier.exists_refusal hoffends
  have hnonempty : more.toList ≠ [] := by simpa using hmore
  have hinitSplit : init = shorter.toList ++ more.toList.dropLast := by
    have hdropped := congrArg (fun text => text.toList.dropLast) hsplit
    simpa [List.dropLast_append_of_ne_nil hnonempty] using hdropped
  rw [hinitSplit, run_append, hrun] at hinit
  cases hinit

end Json

namespace Document

open Json Reader

variable {before text : String} {place : KeyPlace} {refusal : Refusal}

theorem parse_of_refused (hfor : refusal.IsFor place)
    (hread : readStrict text = .error (.refused refusal)) (source : String) :
    parse source text = .error place.error := by
  have hfault := hfor.fault
  unfold uniqueKeys at hfault
  rw [parse, hread]
  split_ifs at hfault with hseparator hrepeated
  · simp [← Option.some.inj hfault, KeyPlace.error, hfor.enclosing, hfor.key, hseparator]
  · simp [← Option.some.inj hfault, KeyPlace.error, hfor.enclosing, hfor.key, hseparator]

/-- The beginning up to the first key that offends decides the error. -/
theorem parse_of_firstOffence (hfirst : FirstOffence before place) (source after : String) :
    parse source (before ++ after) = .error place.error := by
  obtain ⟨refusal, hrun⟩ := hfirst.readsKey.exists_refusal hfirst.offends
  have hread : readStrict before = .error (.refused refusal) := by
    simpa [readStrict] using read_refused_of_run hrun ""
  obtain ⟨other, rest, found, hsplit, hother, hkey, hfor⟩ := exists_firstOffence hread
  have hrest : rest = "" := by
    by_contra hmore
    exact hfirst.first other rest found hsplit hmore hother.readsKey hother.offends
  have hsame : before = other := by simpa [hrest] using hsplit
  rw [← hsame] at hkey
  rw [hfirst.readsKey.eq_of_atKey hkey]
  exact parse_of_refused hfor (read_refused_of_run hrun after) source

/-- A mapping is invalid because of the first key that has the separator or repeats a key of
its object.  The text up to the closing quote of this key decides the error, its path and its
wording, whatever comes after.  A text with a syntax error is malformed if no such key has been
read before the error, and only then. -/
theorem parse_first_offence (source text : String) :
    (∀ path fault, parse source text = .error (.invalid path fault) →
      ∃ before after place, text = before ++ after ∧ FirstOffence before place ∧
        place.error = .invalid path fault) ∧
    (∀ before place, FirstOffence before place →
      ∀ source after, parse source (before ++ after) = .error place.error) ∧
    ∀ fault, read anyKeys text = .error (.malformed fault) →
      (parse source text = .error (.malformed source fault) ↔
        ∀ before after place, text = before ++ after → ReadsKey before place →
          ¬ place.Offends) := by
  refine ⟨?_, ?_, ?_⟩
  · intro path fault hinvalid
    cases hread : readStrict text with
    | ok root =>
        rw [parse, hread] at hinvalid
        cases hinvalid
    | error cause =>
        cases cause with
        | malformed syntaxFault =>
            rw [parse, hread] at hinvalid
            cases hinvalid
        | refused refusal =>
            obtain ⟨before, after, place, hsplit, hfirst, _, hfor⟩ := exists_firstOffence hread
            have hparse := parse_of_refused hfor hread source
            rw [hinvalid, Except.error.injEq] at hparse
            exact ⟨before, after, place, hsplit, hfirst, hparse.symm⟩
  · intro before place hfirst source after
    exact parse_of_firstOffence hfirst source after
  · intro fault hmalformed
    constructor
    · rintro hparse before after place rfl hreads hoffends
      obtain ⟨refusal, hrun⟩ := hreads.exists_refusal hoffends
      have hread : readStrict (before ++ after) = .error (.refused refusal) :=
        read_refused_of_run hrun after
      obtain ⟨_, _, other, _, _, _, hfor⟩ := exists_firstOffence hread
      rw [parse_of_refused hfor hread, KeyPlace.error] at hparse
      split_ifs at hparse <;> cases hparse
    · intro hclean
      rcases read_eq_or_refused uniqueKeys text with heq | ⟨refusal, hrefused⟩
      · rw [parse, readStrict, heq, hmalformed]
      · obtain ⟨before, after, place, hsplit, hfirst, _⟩ := exists_firstOffence hrefused
        exact absurd hfirst.offends (hclean before after place hsplit hfirst.readsKey)

/-- A key that is repeated in an item of an array, then a syntax error and a key with the
separator, and then the text breaks off. -/
def brokenOrders : String :=
  "\x7b\"orders\":[\x7b\"id\":1\x7d,\x7b\"id\":2,\"id\":[,\"a:b\":\x7b"

theorem parse_first_offence_orders :
    ∃ before after place, brokenOrders = before ++ after ∧ FirstOffence before place ∧
      ∀ source later,
        parse source (before ++ later) = .error (.invalid ⟨"orders:1:id"⟩ (.repeatedKey "id")) := by
  have hinvalid : parse "catalog" brokenOrders =
      .error (.invalid ⟨"orders:1:id"⟩ (.repeatedKey "id")) := rfl
  obtain ⟨hfirst, hdecided, _⟩ := parse_first_offence "catalog" brokenOrders
  obtain ⟨before, after, place, hsplit, hoffence, herror⟩ := hfirst _ _ hinvalid
  have hparse := hdecided before place hoffence
  rw [herror] at hparse
  exact ⟨before, after, place, hsplit, hoffence, hparse⟩

end Document

end MappingPlan
