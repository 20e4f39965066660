import MappingPlan.Proofs.Lookup
import MappingPlan.Proofs.Mounting
import MappingPlan.Proofs.UnfinishedTree

/-!
# Strict and plain reading

A text is read strictly or plainly.  Strict reading refuses keys; plain reading takes any,
and afterwards a repeated key keeps its first place and its last value.  On a text whose
objects have distinct keys without the path separator the two agree, and any other text
that can be read plainly is refused.

The two readers go through the same states until a key is refused.  Whether that happens
is decided by the tree of the text as it is written, repeated keys included.  The plain
reader never drops a key, so the tree has a key that is refused right behind the members that
its object had then: if the whole tree keeps the key rule, no key is refused.
-/

namespace MappingPlan

namespace Json

mutual

/-- The keys of each object of a tree, at any depth. -/
def keyLists : Json → List (List String)
  | .array items => itemKeyLists items
  | .object members => members.map Prod.fst :: memberKeyLists members
  | .null | .bool _ | .integer _ | .fraction | .string _ => []

def itemKeyLists : List Json → List (List String)
  | [] => []
  | item :: rest => item.keyLists ++ itemKeyLists rest

def memberKeyLists : List (String × Json) → List (List String)
  | [] => []
  | (_, value) :: rest => value.keyLists ++ memberKeyLists rest

end

/-- Every object of a tree, at any depth, has distinct keys without the separator. -/
def Ruled (tree : Json) : Prop :=
  ∀ keys ∈ tree.keyLists, StrictKeys keys

/-- What an object holds so far keeps the rule. -/
structure RuledMembers (members : List (String × Json)) : Prop where
  keys : StrictKeys (members.map Prod.fst)
  values : ∀ member ∈ members, member.2.Ruled

theorem mem_itemKeyLists_iff {items : List Json} {keys : List String} :
    keys ∈ itemKeyLists items ↔ ∃ item ∈ items, keys ∈ item.keyLists := by
  induction items with
  | nil => simp [itemKeyLists]
  | cons item rest ih => simp [itemKeyLists, ih]

theorem mem_memberKeyLists_iff {members : List (String × Json)} {keys : List String} :
    keys ∈ memberKeyLists members ↔ ∃ member ∈ members, keys ∈ member.2.keyLists := by
  induction members with
  | nil => simp [memberKeyLists]
  | cons member rest ih => simp [memberKeyLists, ih]

theorem ruled_array_iff {items : List Json} :
    (Json.array items).Ruled ↔ ∀ item ∈ items, item.Ruled := by
  simp only [Ruled, keyLists, mem_itemKeyLists_iff]
  exact ⟨fun h item hitem keys hkeys => h keys ⟨item, hitem, hkeys⟩,
    fun h keys ⟨item, hitem, hkeys⟩ => h item hitem keys hkeys⟩

theorem ruled_object_iff {members : List (String × Json)} :
    (Json.object members).Ruled ↔ RuledMembers members := by
  simp only [Ruled, keyLists, List.forall_mem_cons, mem_memberKeyLists_iff]
  constructor
  · rintro ⟨hkeys, hvalues⟩
    exact ⟨hkeys, fun member hmem keys hin => hvalues keys ⟨member, hmem, hin⟩⟩
  · rintro ⟨hkeys, hvalues⟩
    exact ⟨hkeys, fun keys ⟨member, hmem, hin⟩ => hvalues member hmem keys hin⟩

theorem ruled_scalar {tree : Json} (hscalar : tree.keyLists = []) : tree.Ruled := by
  simp [Ruled, hscalar]

theorem Strict.ruled {room : Nat} {tree : Json} (hstrict : tree.Strict room) :
    tree.Ruled := by
  induction hstrict with
  | array _ ih => exact ruled_array_iff.mpr ih
  | object hkeys _ ih => exact ruled_object_iff.mpr ⟨hkeys, ih⟩
  | _ => exact ruled_scalar rfl

theorem uniqueKeys_reverse (earlier : List String) (key : String) :
    uniqueKeys earlier.reverse key = uniqueKeys earlier key := by
  simp only [uniqueKeys, List.mem_reverse]

theorem strictKeys_reverse_iff {keys : List String} :
    StrictKeys keys.reverse ↔ StrictKeys keys := by
  refine ⟨fun h => ?_, StrictKeys.reverse⟩
  have hback := h.reverse
  rwa [List.reverse_reverse] at hback

namespace RuledMembers

theorem reverse_iff {members : List (String × Json)} :
    RuledMembers members.reverse ↔ RuledMembers members := by
  constructor
  · rintro ⟨hkeys, hvalues⟩
    rw [List.map_reverse] at hkeys
    exact ⟨strictKeys_reverse_iff.mp hkeys, by simpa using hvalues⟩
  · rintro ⟨hkeys, hvalues⟩
    refine ⟨?_, by simpa using hvalues⟩
    rw [List.map_reverse]
    exact hkeys.reverse

end RuledMembers

/-! ## Settling -/

theorem collect_of_nodup {table : List (String × Json)}
    (hnodup : (table.map Prod.fst).Nodup) : Pairs.collect table = table := by
  have hfold : ∀ before : List (String × Json), (before.map Prod.fst ++ table.map Prod.fst).Nodup →
      table.foldl (fun table pair => Pairs.put pair.1 pair.2 table) before = before ++ table := by
    clear hnodup
    induction table with
    | nil => simp
    | cons pair rest ih =>
        intro before hnodup
        have hnew : before.lookup pair.1 = none := by
          rw [List.lookup_eq_none_iff]
          intro earlier hmem
          have hdisjoint := (List.nodup_append.mp hnodup).2.2
          have hne := hdisjoint earlier.1 (List.mem_map_of_mem hmem) pair.1 (by simp)
          simpa using Ne.symm hne
        rw [List.foldl_cons, Pairs.put_of_lookup_eq_none hnew, ih, List.append_assoc]
        · rfl
        · simpa [List.append_assoc] using hnodup
  exact hfold [] hnodup

mutual

/-- Settling changes nothing where no key is repeated. -/
theorem settle_of_ruled : ∀ tree : Json, tree.Ruled → tree.settle = tree
  | .array items, hruled => by
      rw [settle, settleItems_of_ruled items (ruled_array_iff.mp hruled)]
  | .object members, hruled => by
      obtain ⟨hkeys, hvalues⟩ := ruled_object_iff.mp hruled
      rw [settle, settleValues_of_ruled members hvalues, collect_of_nodup hkeys.distinct]
  | .null, _ | .bool _, _ | .integer _, _ | .fraction, _ | .string _, _ => by rw [settle]

theorem settleItems_of_ruled :
    ∀ items : List Json, (∀ item ∈ items, item.Ruled) → settleItems items = items
  | [], _ => rfl
  | item :: rest, hruled => by
      rw [List.forall_mem_cons] at hruled
      rw [settleItems, settle_of_ruled item hruled.1, settleItems_of_ruled rest hruled.2]

theorem settleValues_of_ruled :
    ∀ members : List (String × Json), (∀ member ∈ members, member.2.Ruled) →
      settleValues members = members
  | [], _ => rfl
  | (key, value) :: rest, hruled => by
      rw [List.forall_mem_cons] at hruled
      rw [settleValues, settle_of_ruled value hruled.1, settleValues_of_ruled rest hruled.2]

end

/-! ## Refusals

Whatever the rule for keys, the reader follows the plain one until it refuses a key.
-/

namespace Reader

section Refusals

variable (rule : KeyRule)

theorem advance_eq_or_refused (position : Position) (stack : List Frame) (mode : Mode)
    (c : Char) :
    advance rule position stack mode c = advance anyKeys position stack mode c ∨
      ∃ refusal, advance rule position stack mode c = .error (.refused refusal) := by
  cases mode with
  | keyText members text =>
      simp only [advance]
      cases text.step c with
      | more longer => exact .inl rfl
      | faulty cause bytes => exact .inl rfl
      | closed key =>
          cases hkey : rule (members.map Prod.fst) key with
          | none => exact .inl (by simp [hkey, anyKeys])
          | some fault => exact .inr ⟨⟨enclosing stack, key, fault⟩, by simp [hkey]⟩
  | _ => exact .inl rfl

theorem step_eq_or_refused (reader : Reader) (c : Char) :
    step rule reader c = step anyKeys reader c ∨
      ∃ refusal, step rule reader c = .error (.refused refusal) := by
  obtain ⟨position, stack, mode⟩ := reader
  by_cases hmode : ∀ number, mode ≠ .number number
  · rw [step_of_ne_number hmode, step_of_ne_number hmode]
    rcases advance_eq_or_refused rule position stack mode c with heq | ⟨refusal, hrefused⟩
    · exact .inl (by rw [heq])
    · exact .inr ⟨refusal, by rw [hrefused]; rfl⟩
  · obtain ⟨number, rfl⟩ : ∃ number, mode = .number number := by simpa using hmode
    cases hnumber : number.step c with
    | more longer => exact .inl (by rw [step_more hnumber, step_more hnumber])
    | faulty cause => exact .inl (by simp [Reader.step, hnumber])
    | finished =>
        cases hfinish : number.finish with
        | error cause => exact .inl (by simp [Reader.step, hnumber, hfinish])
        | ok node =>
            rw [step_finished hnumber hfinish, step_finished hnumber hfinish]
            rcases advance_eq_or_refused rule position (complete node stack).1
              (complete node stack).2 c with heq | ⟨refusal, hrefused⟩
            · exact .inl (by rw [heq])
            · exact .inr ⟨refusal, by rw [hrefused]; rfl⟩

theorem foldlM_eq_or_refused (chars : List Char) (reader : Reader) :
    chars.foldlM (step rule) reader = chars.foldlM (step anyKeys) reader ∨
      ∃ refusal, chars.foldlM (step rule) reader = .error (.refused refusal) := by
  induction chars generalizing reader with
  | nil => exact .inl rfl
  | cons c rest ih =>
      rw [List.foldlM_cons, List.foldlM_cons]
      rcases step_eq_or_refused rule reader c with heq | ⟨refusal, hrefused⟩
      · rw [heq]
        cases step anyKeys reader c with
        | error fault => exact .inl rfl
        | ok next => exact ih next
      · exact .inr ⟨refusal, by rw [hrefused, Outcome.error_bind]⟩

end Refusals

end Reader

theorem read_eq_or_refused (rule : KeyRule) (text : String) :
    read rule text = read anyKeys text ∨
      ∃ refusal, read rule text = .error (.refused refusal) := by
  unfold read
  rcases Reader.foldlM_eq_or_refused rule text.toList Reader.start with
    heq | ⟨refusal, hrefused⟩
  · exact .inl (by rw [heq])
  · exact .inr ⟨refusal, by rw [hrefused, Outcome.error_bind]⟩

/-! ## The two readers -/

namespace Reader

variable {rule : KeyRule} {reader : Reader} {stack : List Frame} {mode : Mode} {c : Char}
  {chars : List Char} {position : Position} {refusal : Refusal} {root node : Json}

def run (rule : KeyRule) (chars : List Char) : Except ReadFault Reader :=
  chars.foldlM (step rule) start

theorem run_append (rule : KeyRule) (before more : List Char) :
    run rule (before ++ more) = run rule before >>= fun reader => more.foldlM (step rule) reader :=
  List.foldlM_append

theorem run_anyKeys_of_ok (hrun : run rule chars = .ok reader) :
    run anyKeys chars = .ok reader := by
  rcases foldlM_eq_or_refused rule chars start with heq | ⟨refusal, hrefused⟩
  · exact heq.symm.trans hrun
  · rw [run, hrefused] at hrun
    cases hrun

theorem finish_ne_refused (reader : Reader) (refusal : Refusal) :
    reader.finish ≠ .error (.refused refusal) := by
  intro hfinish
  obtain ⟨position, stack, mode⟩ := reader
  cases mode with
  | number number =>
      cases hnumber : number.finish with
      | error cause => simp [finish, hnumber, malformed] at hfinish
      | ok node =>
          cases stack with
          | nil => simp [finish, hnumber] at hfinish
          | cons frame stack => cases frame <;> simp [finish, hnumber, malformed] at hfinish
  | _ => cases hfinish

/-- A key is closed, and the rule refuses it. -/
structure RefusesKey (rule : KeyRule) (reader : Reader) (c : Char) (refusal : Refusal)
    (members : List (String × Json)) : Prop where
  closes : ∃ text, reader.mode = .keyText members text ∧ text.step c = .closed refusal.key
  enclosing_eq : refusal.enclosing = enclosing reader.stack
  fault : rule (members.map Prod.fst) refusal.key = some refusal.fault

theorem refused_of_advance
    (hrefused : advance rule position stack mode c = .error (.refused refusal)) :
    ∃ members, RefusesKey rule ⟨position, stack, mode⟩ c refusal members := by
  cases mode with
  | keyText members text =>
      simp only [advance] at hrefused
      cases hstep : text.step c with
      | more longer =>
          simp only [hstep] at hrefused
          cases hrefused
      | faulty cause bytes =>
          simp only [hstep] at hrefused
          cases hrefused
      | closed key =>
          simp only [hstep] at hrefused
          cases hkey : rule (members.map Prod.fst) key with
          | none =>
              simp only [hkey] at hrefused
              cases hrefused
          | some fault =>
              simp only [hkey] at hrefused
              cases hrefused
              exact ⟨members, ⟨text, rfl, hstep⟩, rfl, hkey⟩
  | _ =>
      -- the other modes never ask the rule
      simp only [advance, beginValue] at hrefused
      repeat' split at hrefused
      all_goals cases hrefused

theorem refused_of_step (hrefused : step rule reader c = .error (.refused refusal)) :
    ∃ members, RefusesKey rule reader c refusal members := by
  obtain ⟨position, stack, mode⟩ := reader
  by_cases hmode : ∀ number, mode ≠ .number number
  · rw [step_of_ne_number hmode, Outcome.map_eq_error_iff] at hrefused
    exact refused_of_advance hrefused
  · obtain ⟨number, rfl⟩ : ∃ number, mode = .number number := by simpa using hmode
    cases hnumber : number.step c with
    | more longer =>
        rw [step_more hnumber] at hrefused
        cases hrefused
    | faulty cause => simp [step, hnumber, malformed] at hrefused
    | finished =>
        cases hfinish : number.finish with
        | error cause => simp [step, hnumber, hfinish, malformed] at hrefused
        | ok node =>
            rw [step_finished hnumber hfinish, Outcome.map_eq_error_iff] at hrefused
            -- no key is read right after a complete value
            obtain ⟨members, ⟨text, hmode, _⟩, _⟩ := refused_of_advance hrefused
            cases stack with
            | nil => cases hmode
            | cons frame stack => cases frame <;> cases hmode

/-- The plain reader goes on after a key that is refused. -/
theorem RefusesKey.step_anyKeys {members : List (String × Json)}
    (hrefuses : RefusesKey rule reader c refusal members) :
    step anyKeys reader c =
      .ok ⟨reader.position.after c, reader.stack, .colon members refusal.key⟩ := by
  obtain ⟨position, stack, mode⟩ := reader
  obtain ⟨text, rfl, hclosed⟩ := hrefuses.closes
  rw [step_of_ne_number (by simp)]
  simp only [advance, hclosed, anyKeys]
  rfl

/-- A run is refused at a key that is closed, and nothing was refused before it. -/
theorem exists_refused_step (hrefused : run rule chars = .error (.refused refusal)) :
    ∃ before c after reader members, chars = before ++ c :: after ∧
      run rule before = .ok reader ∧ RefusesKey rule reader c refusal members := by
  obtain ⟨before, c, after, reader, rfl, hbefore, hstep⟩ :=
    Outcome.exists_of_foldlM_eq_error hrefused
  obtain ⟨members, hrefuses⟩ := refused_of_step hstep
  exact ⟨before, c, after, reader, members, rfl, hbefore, hrefuses⟩

end Reader

open Reader

theorem run_refused_of_read {rule : KeyRule} {text : String} {refusal : Refusal}
    (hrefused : read rule text = .error (.refused refusal)) :
    run rule text.toList = .error (.refused refusal) := by
  rcases Outcome.bind_eq_error_iff.mp hrefused with hrun | ⟨reader, _, hfinish⟩
  · exact hrun
  · exact absurd hfinish (finish_ne_refused reader refusal)

/-- Where a key is refused, the tree that the text writes has the key, after what the strict
reader held then. -/
theorem exists_refused_key {text : String} {written : Json} {refusal : Refusal}
    (hread : read anyKeys text = .ok written)
    (hrefused : readStrict text = .error (.refused refusal)) :
    ∃ reader c members node more, RefusesKey uniqueKeys reader c refusal members ∧
      Holds reader.stack reader.mode ∧
      Encloses written reader.stack
        (.object (members.reverse ++ (refusal.key, node) :: more)) := by
  obtain ⟨before, c, after, reader, members, hchars, hbefore, hrefuses⟩ :=
    exists_refused_step (run_refused_of_read hrefused)
  obtain ⟨last, hrun, hfinish⟩ := Outcome.bind_eq_ok_iff.mp hread
  have hplain : run anyKeys text.toList = .ok last := hrun
  rw [hchars, run_append, run_anyKeys_of_ok hbefore, Outcome.ok_bind, List.foldlM_cons,
    hrefuses.step_anyKeys, Outcome.ok_bind] at hplain
  obtain ⟨node, more, hencloses⟩ := (leadsTo_of_finish hfinish).of_foldlM hplain
  have hstart : Holds start.stack start.mode := ⟨_, .empty⟩
  exact ⟨reader, c, members, node, more, hrefuses, holds_foldlM hstart hbefore, hencloses⟩

theorem Reader.Encloses.ruled {root node : Json} {stack : List Frame}
    (hencloses : Encloses root stack node) (hroot : root.Ruled) : node.Ruled := by
  induction hencloses with
  | root => exact hroot
  | array _ ih => exact ruled_array_iff.mp ih _ (by simp)
  | @object stack members more key node _ ih =>
      exact (ruled_object_iff.mp ih).values (key, node) (by simp)

/-- What a text writes is read strictly if it keeps the rule. -/
theorem readStrict_of_ruled {text : String} {written : Json}
    (hread : read anyKeys text = .ok written) (hruled : written.Ruled) :
    readStrict text = .ok written := by
  rcases read_eq_or_refused uniqueKeys text with heq | ⟨refusal, hrefused⟩
  · exact heq.trans hread
  · obtain ⟨reader, c, members, node, more, hrefuses, _, hencloses⟩ :=
      exists_refused_key hread hrefused
    have hkeys := (ruled_object_iff.mp (hencloses.ruled hruled)).keys
    rw [List.map_append, List.map_reverse] at hkeys
    have hnone : uniqueKeys (members.map Prod.fst) refusal.key = none := by
      refine uniqueKeys_eq_none_iff.mpr ⟨hkeys.plain refusal.key (by simp), fun hmem => ?_⟩
      have hdisjoint := (List.nodup_append.mp hkeys.distinct).2.2
      exact hdisjoint refusal.key (List.mem_reverse.mpr hmem) refusal.key (by simp) rfl
    rw [hrefuses.fault] at hnone
    cases hnone

theorem readStrict_eq_ok_iff {text : String} {root : Json} :
    readStrict text = .ok root ↔ read anyKeys text = .ok root ∧ root.Ruled := by
  constructor
  · intro hstrict
    rcases read_eq_or_refused uniqueKeys text with heq | ⟨refusal, hrefused⟩
    · exact ⟨heq ▸ hstrict, (strict_of_readStrict hstrict).ruled⟩
    · rw [readStrict, hrefused] at hstrict
      cases hstrict
  · rintro ⟨hread, hruled⟩
    exact readStrict_of_ruled hread hruled

/-- What a text writes is refused for a key if it breaks the rule. -/
theorem exists_refusal_of_not_ruled {text : String} {written : Json}
    (hread : read anyKeys text = .ok written) (hbroken : ¬ written.Ruled) :
    ∃ refusal, readStrict text = .error (.refused refusal) := by
  rcases read_eq_or_refused uniqueKeys text with heq | hrefused
  · have hstrict : readStrict text = .ok written := heq.trans hread
    exact absurd (readStrict_eq_ok_iff.mp hstrict).2 hbroken
  · exact hrefused

end Json

/-- A text is a document exactly if it can be read plainly and each object that it writes
has distinct keys without the separator; strict and plain reading then give one tree.  A
text that can be read plainly, but breaks the rule for keys, is an invalid mapping. -/
theorem Document.parse_iff_readPlain (source text : String) :
    (∀ root, parse source text = .ok ⟨root⟩ ↔
      Json.readPlain text = .ok root ∧
        ∃ written, Json.read Json.anyKeys text = .ok written ∧ written.Ruled) ∧
    (∀ document root, parse source text = .ok document → Json.readPlain text = .ok root →
      document.root = root) ∧
    ∀ written, Json.read Json.anyKeys text = .ok written → ¬ written.Ruled →
      ∃ path key, parse source text = .error (.invalid path (.separatorInKey key)) ∨
        parse source text = .error (.invalid path (.repeatedKey key)) := by
  have hplain : ∀ written, Json.read Json.anyKeys text = .ok written → written.Ruled →
      Json.readPlain text = .ok written := by
    intro written hread hruled
    rw [Json.readPlain, hread, Except.map, Json.settle_of_ruled written hruled]
  have haccepts : ∀ root, parse source text = .ok ⟨root⟩ ↔
      Json.readPlain text = .ok root ∧
        ∃ written, Json.read Json.anyKeys text = .ok written ∧ written.Ruled := by
    intro root
    rw [parse_eq_ok_iff, Json.readStrict_eq_ok_iff]
    constructor
    · rintro ⟨hread, hruled⟩
      exact ⟨hplain root hread hruled, root, hread, hruled⟩
    · rintro ⟨hroot, written, hread, hruled⟩
      rw [hplain written hread hruled, Except.ok.injEq] at hroot
      subst hroot
      exact ⟨hread, hruled⟩
  refine ⟨haccepts, ?_, ?_⟩
  · intro document root hparse hroot
    obtain ⟨hdocument, _⟩ := (haccepts document.root).mp hparse
    rw [hdocument, Except.ok.injEq] at hroot
    exact hroot
  · intro written hread hbroken
    obtain ⟨⟨enclosing, key, fault⟩, hrefused⟩ := Json.exists_refusal_of_not_ruled hread hbroken
    rw [parse, hrefused]
    cases fault with
    | separator => exact ⟨_, key, .inl rfl⟩
    | repeated => exact ⟨_, key, .inr rfl⟩

end MappingPlan
