import Mathlib.Data.List.Nodup
import Mathlib.Tactic.SplitIfs
import MappingPlan.Document.Section
import MappingPlan.Proofs.Outcome

/-!
# The trees of strict documents

Reading a document strictly refuses a key that its object already has, a key with the path
separator, and a container with no room left within the nesting limit.  So the tree that
is read has none of these, at any depth.

Each container that waits on the stack takes one level of the room.  The invariant is that
the values which a container holds so far fit the room below it; a complete container then
fits the room that it was opened in.
-/

namespace MappingPlan

namespace Json

/-- Keys that an object of a strict document may have. -/
structure StrictKeys (keys : List String) : Prop where
  distinct : keys.Nodup
  plain : ∀ key ∈ keys, ConfigPath.hasSeparator key = false

/-- A tree with strict keys, with containers nested no deeper than the room. -/
inductive Strict : Nat → Json → Prop
  | null {room : Nat} : Strict room .null
  | bool {room : Nat} (value : Bool) : Strict room (.bool value)
  | integer {room : Nat} (value : Int) : Strict room (.integer value)
  | fraction {room : Nat} : Strict room .fraction
  | string {room : Nat} (text : String) : Strict room (.string text)
  | array {room : Nat} {items : List Json} (hitems : ∀ item ∈ items, Strict room item) :
      Strict (room + 1) (.array items)
  | object {room : Nat} {members : List (String × Json)}
      (hkeys : StrictKeys (members.map Prod.fst))
      (hmembers : ∀ member ∈ members, Strict room member.2) :
      Strict (room + 1) (.object members)

theorem StrictKeys.nil : StrictKeys [] := ⟨List.nodup_nil, by simp⟩

theorem StrictKeys.reverse {keys : List String} (hkeys : StrictKeys keys) :
    StrictKeys keys.reverse :=
  ⟨List.nodup_reverse.mpr hkeys.distinct, by simpa using hkeys.plain⟩

theorem uniqueKeys_eq_none_iff {earlier : List String} {key : String} :
    uniqueKeys earlier key = none ↔
      ConfigPath.hasSeparator key = false ∧ key ∉ earlier := by
  unfold uniqueKeys ConfigPath.hasSeparator ConfigPath.separator
  by_cases hseparator : ':' ∈ key.toList
  · simp [hseparator]
  · by_cases hknown : key ∈ earlier <;> simp [hseparator, hknown]

theorem StrictKeys.cons {keys : List String} {key : String} (hkeys : StrictKeys keys)
    (hkey : uniqueKeys keys key = none) : StrictKeys (key :: keys) := by
  obtain ⟨hplain, hnew⟩ := uniqueKeys_eq_none_iff.mp hkey
  exact ⟨List.nodup_cons.mpr ⟨hnew, hkeys.distinct⟩,
    List.forall_mem_cons.mpr ⟨hplain, hkeys.plain⟩⟩

/-- What an object holds so far, last first. -/
structure StrictMembers (room : Nat) (members : List (String × Json)) : Prop where
  keys : StrictKeys (members.map Prod.fst)
  values : ∀ member ∈ members, Strict room member.2

namespace StrictMembers

variable {room : Nat} {members : List (String × Json)}

theorem nil : StrictMembers room [] := ⟨.nil, by simp⟩

theorem object (hmembers : StrictMembers room members) :
    Strict (room + 1) (.object members.reverse) := by
  refine .object ?_ ?_
  · rw [List.map_reverse]
    exact hmembers.keys.reverse
  · simpa using hmembers.values

theorem cons {key : String} {node : Json} (hmembers : StrictMembers room members)
    (hkey : uniqueKeys (members.map Prod.fst) key = none) (hnode : Strict room node) :
    StrictMembers room ((key, node) :: members) :=
  ⟨hmembers.keys.cons hkey, List.forall_mem_cons.mpr ⟨hnode, hmembers.values⟩⟩

end StrictMembers

end Json

namespace Json.Reader

/-- The room that is left for a value on top of a stack. -/
inductive Leaves : List Frame → Nat → Prop
  | empty : Leaves [] nestingLimit
  | array {stack : List Frame} {room : Nat} {items : List Json}
      (houter : Leaves stack (room + 1)) (hitems : ∀ item ∈ items, Strict room item) :
      Leaves (.array items :: stack) room
  | object {stack : List Frame} {room : Nat} {members : List (String × Json)} {key : String}
      (houter : Leaves stack (room + 1)) (hmembers : StrictMembers room members)
      (hkey : uniqueKeys (members.map Prod.fst) key = none) :
      Leaves (.object members key :: stack) room

/-- What the reader holds is part of a strict tree. -/
def Holds (stack : List Frame) : Mode → Prop
  | .value _ | .text _ | .number _ => ∃ room, Leaves stack room
  | .word _ node => ∃ room, Leaves stack room ∧ node.Strict room
  | .firstItem | .firstKey => ∃ room, Leaves stack (room + 1)
  | .afterItem items => ∃ room, Leaves stack (room + 1) ∧ ∀ item ∈ items, Strict room item
  | .nextKey members | .keyText members _ | .afterMember members =>
      ∃ room, Leaves stack (room + 1) ∧ StrictMembers room members
  | .colon members key =>
      ∃ room, Leaves stack (room + 1) ∧ StrictMembers room members ∧
        uniqueKeys (members.map Prod.fst) key = none
  | .finished root => root.Strict nestingLimit

theorem Leaves.room_eq {stack : List Frame} {room : Nat} (hleaves : Leaves stack room) :
    room + stack.length = nestingLimit := by
  induction hleaves with
  | empty => rfl
  | array _ _ ih => rw [List.length_cons, ← ih]; omega
  | object _ _ _ ih => rw [List.length_cons, ← ih]; omega

variable {stack next : List Frame} {mode after : Mode} {room : Nat} {node : Json} {c : Char}
  {position : Position}

theorem holds_complete (hleaves : Leaves stack room) (hnode : node.Strict room)
    {fault : Type} (hcomplete : (.ok (complete node stack) : Except fault _) = .ok (next, after)) :
    Holds next after := by
  cases hleaves with
  | empty =>
      cases hcomplete
      exact hnode
  | array houter hitems =>
      cases hcomplete
      exact ⟨_, houter, List.forall_mem_cons.mpr ⟨hnode, hitems⟩⟩
  | object houter hmembers hkey =>
      cases hcomplete
      exact ⟨_, houter, hmembers.cons hkey hnode⟩

theorem holds_beginValue (hleaves : Leaves stack room)
    (hbegin : beginValue stack position c = .ok (next, after)) : Holds next after := by
  unfold beginValue at hbegin
  by_cases hcontainer : c = '[' ∨ c = '\x7b'
  · rw [if_pos hcontainer] at hbegin
    by_cases hfull : nestingLimit ≤ stack.length
    · simp [hfull, malformed] at hbegin
    · have hroom := hleaves.room_eq
      obtain ⟨inner, rfl⟩ : ∃ inner, room = inner + 1 := ⟨room - 1, by omega⟩
      rw [if_neg hfull, Except.ok.injEq, Prod.mk.injEq] at hbegin
      obtain ⟨rfl, rfl⟩ := hbegin
      split
      · exact ⟨inner, hleaves⟩
      · exact ⟨inner, hleaves⟩
  · rw [if_neg hcontainer] at hbegin
    split_ifs at hbegin
    · cases hbegin; exact ⟨room, hleaves⟩
    · cases hbegin; exact ⟨room, hleaves, .null⟩
    · cases hbegin; exact ⟨room, hleaves, .bool true⟩
    · cases hbegin; exact ⟨room, hleaves, .bool false⟩
    · cases hnumber : NumberText.begin? c with
      | none => simp [hnumber, malformed] at hbegin
      | some number =>
          simp only [hnumber, Except.ok.injEq, Prod.mk.injEq] at hbegin
          obtain ⟨rfl, rfl⟩ := hbegin
          exact ⟨room, hleaves⟩

theorem malformed_ne_ok {cause : FaultCause} {result : List Frame × Mode} :
    malformed cause position ≠ .ok result := by
  simp [malformed]

/-- One character keeps what is held, whatever may come next. -/
theorem Holds.advance (hholds : Holds stack mode)
    (hadvance : advance uniqueKeys position stack mode c = .ok (next, after)) :
    Holds next after := by
  cases mode with
  | value afterComma =>
      obtain ⟨room, hleaves⟩ := hholds
      simp only [Reader.advance] at hadvance
      split_ifs at hadvance
      · cases hadvance; exact ⟨room, hleaves⟩
      · exact absurd hadvance malformed_ne_ok
      · exact holds_beginValue hleaves hadvance
  | firstItem =>
      obtain ⟨room, hleaves⟩ := hholds
      simp only [Reader.advance] at hadvance
      split_ifs at hadvance
      · cases hadvance; exact ⟨room, hleaves⟩
      · exact holds_complete hleaves (.array (by simp)) hadvance
      · exact holds_beginValue (.array hleaves (by simp)) hadvance
  | afterItem items =>
      obtain ⟨room, hleaves, hitems⟩ := hholds
      simp only [Reader.advance] at hadvance
      split_ifs at hadvance
      · cases hadvance; exact ⟨room, hleaves, hitems⟩
      · cases hadvance; exact ⟨room, .array hleaves hitems⟩
      · exact holds_complete hleaves (.array (by simpa using hitems)) hadvance
      · exact absurd hadvance malformed_ne_ok
  | firstKey =>
      obtain ⟨room, hleaves⟩ := hholds
      simp only [Reader.advance] at hadvance
      split_ifs at hadvance
      · cases hadvance; exact ⟨room, hleaves⟩
      · cases hadvance; exact ⟨room, hleaves, .nil⟩
      · exact holds_complete hleaves StrictMembers.nil.object hadvance
      · exact absurd hadvance malformed_ne_ok
  | nextKey members =>
      simp only [Reader.advance] at hadvance
      split_ifs at hadvance
      · cases hadvance; exact hholds
      · cases hadvance; exact hholds
      · exact absurd hadvance malformed_ne_ok
      · exact absurd hadvance malformed_ne_ok
  | keyText members text =>
      obtain ⟨room, hleaves, hmembers⟩ := hholds
      simp only [Reader.advance] at hadvance
      cases hstep : text.step c with
      | more longer =>
          simp only [hstep] at hadvance
          cases hadvance
          exact ⟨room, hleaves, hmembers⟩
      | faulty cause bytes =>
          simp only [hstep] at hadvance
          exact absurd hadvance malformed_ne_ok
      | closed key =>
          simp only [hstep] at hadvance
          cases hkey : uniqueKeys (members.map Prod.fst) key with
          | some fault => simp [hkey] at hadvance
          | none =>
              simp only [hkey] at hadvance
              cases hadvance
              exact ⟨room, hleaves, hmembers, hkey⟩
  | colon members key =>
      obtain ⟨room, hleaves, hmembers, hkey⟩ := hholds
      simp only [Reader.advance] at hadvance
      split_ifs at hadvance
      · cases hadvance; exact ⟨room, hleaves, hmembers, hkey⟩
      · cases hadvance; exact ⟨room, .object hleaves hmembers hkey⟩
      · exact absurd hadvance malformed_ne_ok
  | afterMember members =>
      obtain ⟨room, hleaves, hmembers⟩ := hholds
      simp only [Reader.advance] at hadvance
      split_ifs at hadvance
      · cases hadvance; exact ⟨room, hleaves, hmembers⟩
      · cases hadvance; exact ⟨room, hleaves, hmembers⟩
      · exact holds_complete hleaves hmembers.object hadvance
      · exact absurd hadvance malformed_ne_ok
  | word rest node =>
      obtain ⟨room, hleaves, hnode⟩ := hholds
      simp only [Reader.advance] at hadvance
      split at hadvance
      · exact holds_complete hleaves hnode hadvance
      · split_ifs at hadvance
        · exact holds_complete hleaves hnode hadvance
        · exact absurd hadvance malformed_ne_ok
      · split_ifs at hadvance
        · cases hadvance; exact ⟨room, hleaves, hnode⟩
        · exact absurd hadvance malformed_ne_ok
  | text text =>
      obtain ⟨room, hleaves⟩ := hholds
      simp only [Reader.advance] at hadvance
      cases hstep : text.step c with
      | more longer =>
          simp only [hstep] at hadvance
          cases hadvance
          exact ⟨room, hleaves⟩
      | faulty cause bytes =>
          simp only [hstep] at hadvance
          exact absurd hadvance malformed_ne_ok
      | closed text =>
          simp only [hstep] at hadvance
          exact holds_complete hleaves (.string text) hadvance
  | number number => exact absurd hadvance malformed_ne_ok
  | finished root =>
      simp only [Reader.advance] at hadvance
      split_ifs at hadvance
      · cases hadvance; exact hholds
      · exact absurd hadvance malformed_ne_ok

theorem strict_of_number {number : NumberText} (hfinish : number.finish = .ok node) :
    node.Strict room := by
  have hfraction : ∀ significand scale, NumberText.fraction significand scale = .ok node →
      node.Strict room := by
    intro significand scale hnode
    unfold NumberText.fraction at hnode
    split_ifs at hnode
    cases hnode
    exact .fraction
  unfold NumberText.finish at hfinish
  split at hfinish
  case h_1 | h_2 =>
    split_ifs at hfinish
    · cases hfinish; exact .integer _
    · cases hfinish; exact .integer _
    · cases hfinish; exact .fraction
  case h_3 | h_4 | h_5 | h_6 => exact hfraction _ _ hfinish
  case h_7 => cases hfinish; exact .fraction
  all_goals cases hfinish

/-! ## Whole runs -/

/-- The reader after a character that was taken. -/
def taken (position : Position) (c : Char) (next : List Frame × Mode) : Reader :=
  ⟨position.after c, next.1, next.2⟩

section Step

variable {rule : KeyRule} {number : NumberText}

theorem step_of_ne_number (hmode : ∀ number, mode ≠ .number number) :
    step rule ⟨position, stack, mode⟩ c =
      (Reader.advance rule position stack mode c).map (taken position c) := by
  cases mode with
  | number number => exact absurd rfl (hmode number)
  | _ => rfl

theorem step_more {longer : NumberText} (hstep : number.step c = .more longer) :
    step rule ⟨position, stack, .number number⟩ c =
      .ok (taken position c (stack, .number longer)) := by
  simp only [step, hstep]
  rfl

theorem step_finished (hstep : number.step c = .finished) (hfinish : number.finish = .ok node) :
    step rule ⟨position, stack, .number number⟩ c =
      (Reader.advance rule position (complete node stack).1 (complete node stack).2 c).map
        (taken position c) := by
  simp only [step, hstep, hfinish]
  rfl

end Step

variable {reader : Reader}

theorem Holds.step {later : Reader} (hholds : Holds reader.stack reader.mode)
    (hstep : Reader.step uniqueKeys reader c = .ok later) :
    Holds later.stack later.mode := by
  obtain ⟨position, stack, mode⟩ := reader
  by_cases hmode : ∀ number, mode ≠ .number number
  · rw [step_of_ne_number hmode, Outcome.map_eq_ok_iff] at hstep
    obtain ⟨next, hnext, rfl⟩ := hstep
    exact hholds.advance hnext
  · obtain ⟨number, rfl⟩ : ∃ number, mode = .number number := by simpa using hmode
    obtain ⟨room, hleaves⟩ := hholds
    cases hnumber : number.step c with
    | more longer =>
        rw [step_more hnumber] at hstep
        cases hstep
        exact ⟨room, hleaves⟩
    | faulty cause =>
        simp [Reader.step, hnumber, malformed] at hstep
    | finished =>
        cases hfinish : number.finish with
        | error cause =>
            simp [Reader.step, hnumber, hfinish, malformed] at hstep
        | ok node =>
            rw [step_finished hnumber hfinish, Outcome.map_eq_ok_iff] at hstep
            obtain ⟨next, hnext, rfl⟩ := hstep
            have hcomplete : Holds (complete node stack).1 (complete node stack).2 :=
              @holds_complete _ _ _ _ _ hleaves (strict_of_number hfinish) Empty rfl
            exact hcomplete.advance hnext

theorem Holds.finish (hholds : Holds reader.stack reader.mode)
    (hfinish : reader.finish = .ok node) : node.Strict nestingLimit := by
  obtain ⟨position, stack, mode⟩ := reader
  cases mode with
  | finished root =>
      cases hfinish
      exact hholds
  | number number =>
      cases hnumber : number.finish with
      | error cause => simp [Reader.finish, hnumber, malformed] at hfinish
      | ok node =>
          cases stack with
          | nil =>
              simp only [Reader.finish, hnumber, Except.ok.injEq] at hfinish
              exact hfinish ▸ strict_of_number hnumber
          | cons frame stack =>
              cases frame <;> simp [Reader.finish, hnumber, malformed] at hfinish
  | _ => simp [Reader.finish, malformed] at hfinish

theorem holds_foldlM {chars : List Char} {later : Reader}
    (hholds : Holds reader.stack reader.mode)
    (hrun : chars.foldlM (Reader.step uniqueKeys) reader = .ok later) :
    Holds later.stack later.mode := by
  induction chars generalizing reader with
  | nil =>
      cases hrun
      exact hholds
  | cons c rest ih =>
      rw [List.foldlM_cons, Outcome.bind_eq_ok_iff] at hrun
      obtain ⟨next, hnext, hrest⟩ := hrun
      exact ih (hholds.step hnext) hrest

end Json.Reader

/-- The tree of a document has unique keys without the path separator at every level and
keeps within the nesting limit. -/
theorem Json.strict_of_readStrict {text : String} {root : Json}
    (hread : readStrict text = .ok root) : root.Strict Json.nestingLimit := by
  rw [readStrict, read, Outcome.bind_eq_ok_iff] at hread
  obtain ⟨last, hrun, hfinish⟩ := hread
  have hstart : Reader.Holds Reader.start.stack Reader.start.mode := ⟨_, .empty⟩
  exact (Reader.holds_foldlM hstart hrun).finish hfinish

/-! ## Sections -/

theorem Json.Strict.member? {room : Nat} {tree node : Json} {key : String}
    (hstrict : tree.Strict room) (hmember : tree.member? key = some node) :
    ∃ inner, inner < room ∧ node.Strict inner := by
  cases hstrict with
  | @object room members hkeys hmembers =>
      have hmem := mem_of_member?_eq_some hmember
      exact ⟨room, by omega, hmembers _ hmem⟩
  | _ => cases hmember

theorem Section.strict_of_follow? {node found : Section} {keys : List String} {room : Nat}
    (hstrict : node.node.Strict room) (hfollow : node.follow? keys = some found) :
    ∃ inner, inner ≤ room ∧ found.node.Strict inner := by
  induction keys generalizing node room with
  | nil =>
      obtain rfl : node = found := Option.some.inj hfollow
      exact ⟨room, by omega, hstrict⟩
  | cons key rest ih =>
      rw [follow?, List.foldlM_cons, Option.bind_eq_bind, Option.bind_eq_some_iff] at hfollow
      obtain ⟨child, hchild, hrest⟩ := hfollow
      unfold get? at hchild
      split_ifs at hchild
      obtain ⟨tree, htree, rfl⟩ := Option.map_eq_some_iff.mp hchild
      obtain ⟨inner, hinner, htreeStrict⟩ := hstrict.member? htree
      obtain ⟨last, hlast, hfound⟩ := @ih ⟨node.path.child key, tree⟩ inner htreeStrict hrest
      exact ⟨last, by omega, hfound⟩

end MappingPlan
