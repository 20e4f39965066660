import MappingPlan.Proofs.Rendering
import MappingPlan.Proofs.StrictTree
import MappingPlan.Proofs.StringReading

/-!
# Reading written output

An output is a value, an object of outputs or an array of outputs.  Its text is what a
document plan writes, and its tree is what a document keeps.  Reading the text strictly
gives the tree, if that is a tree that a strict document can have.

The text of an output is read wherever a value may begin, and leaves the reader with the
tree of the output for the container around it.  A number is an exception: only the next
character ends it.  So what is said about the reader after an output is how it goes on
with a comma or a closing bracket.
-/

namespace MappingPlan

inductive Output where
  | value (scalar : Value)
  | object (members : List (String × Output))
  | array (items : List Output)

namespace Output

mutual

def text : Output → String
  | value scalar => scalar.toJson
  | object members => "\x7b" ++ Text.joinWith "," (memberTexts members) ++ "\x7d"
  | array items => "[" ++ Text.joinWith "," (itemTexts items) ++ "]"

def memberTexts : List (String × Output) → List String
  | [] => []
  | (key, output) :: rest => (Json.quoteString key ++ ":" ++ output.text) :: memberTexts rest

def itemTexts : List Output → List String
  | [] => []
  | output :: rest => output.text :: itemTexts rest

end

mutual

def tree : Output → Json
  | value scalar => scalar.tree
  | object members => .object (memberTrees members)
  | array items => .array (itemTrees items)

def memberTrees : List (String × Output) → List (String × Json)
  | [] => []
  | (key, output) :: rest => (key, output.tree) :: memberTrees rest

def itemTrees : List Output → List Json
  | [] => []
  | output :: rest => output.tree :: itemTrees rest

end

end Output

/-! ## Runs of the reader -/

namespace Json.Reader

/-- The characters lead from one state to the other, wherever they stand in a text. -/
def Reaches (before : List Frame × Mode) (chars : List Char) (after : List Frame × Mode) :
    Prop :=
  ∀ position, ∃ later, chars.foldlM (step uniqueKeys) ⟨position, before.1, before.2⟩ =
    .ok ⟨later, after.1, after.2⟩

/-- A value may begin, on top of the stack. -/
structure Opens (state : List Frame × Mode) (stack : List Frame) : Prop where
  advance : ∀ position c, isBlank c = false → c ≠ ']' →
    advance uniqueKeys position state.1 state.2 c = beginValue stack position c
  ne_number : ∀ number, state.2 ≠ .number number

/-- The value for the top of the stack is there, though a number still has to end. -/
inductive Held (node : Json) (stack : List Frame) : List Frame × Mode → Prop
  | complete : Held node stack (complete node stack)
  | number (number : NumberText) (hends : number.Ends node) :
      Held node stack (stack, .number number)

variable {before middle after state : List Frame × Mode} {stack : List Frame} {mode : Mode}
  {node : Json} {c : Char} {chars more : List Char} {position : Position}

theorem Reaches.nil : Reaches state [] state :=
  fun position => ⟨position, rfl⟩

theorem Reaches.append (hfirst : Reaches before chars middle)
    (hsecond : Reaches middle more after) : Reaches before (chars ++ more) after := by
  intro position
  obtain ⟨between, hbetween⟩ := hfirst position
  obtain ⟨later, hlater⟩ := hsecond between
  refine ⟨later, ?_⟩
  rw [List.foldlM_append, hbetween, Outcome.ok_bind, hlater]

theorem Reaches.cons (hfirst : Reaches before [c] middle)
    (hsecond : Reaches middle more after) : Reaches before (c :: more) after :=
  hfirst.append hsecond

theorem reaches_of_step
    (hstep : ∀ position, step uniqueKeys ⟨position, before.1, before.2⟩ c =
      .ok (taken position c after)) : Reaches before [c] after := by
  intro position
  refine ⟨position.after c, ?_⟩
  rw [List.foldlM_cons, hstep, Outcome.ok_bind]
  rfl

theorem reaches_of_advance (hmode : ∀ number, mode ≠ .number number)
    (hadvance : ∀ position, advance uniqueKeys position stack mode c = .ok after) :
    Reaches (stack, mode) [c] after := by
  refine reaches_of_step fun position => ?_
  rw [step_of_ne_number hmode, hadvance]
  rfl

theorem opens_value (stack : List Frame) (afterComma : Bool) :
    Opens (stack, .value afterComma) stack := by
  refine ⟨?_, by simp⟩
  intro position c hblank hbracket
  simp [Reader.advance, hblank, hbracket]

theorem opens_firstItem (stack : List Frame) :
    Opens (stack, .firstItem) (.array [] :: stack) := by
  refine ⟨?_, by simp⟩
  intro position c hblank hbracket
  simp [Reader.advance, hblank, hbracket]

theorem Opens.reaches (hopens : Opens state stack) (hblank : isBlank c = false)
    (hbracket : c ≠ ']') (hbegin : ∀ position, beginValue stack position c = .ok after) :
    Reaches state [c] after := by
  refine reaches_of_advance hopens.ne_number fun position => ?_
  rw [hopens.advance position c hblank hbracket, hbegin]

theorem complete_ne_number (number : NumberText) : (complete node stack).2 ≠ .number number := by
  cases stack with
  | nil => simp [complete]
  | cons frame stack => cases frame <;> simp [complete]

theorem Held.reaches (hheld : Held node stack state)
    (hends : c = ',' ∨ c = ']' ∨ c = '\x7d')
    (hadvance : ∀ position, Reader.advance uniqueKeys position (Reader.complete node stack).1
      (Reader.complete node stack).2 c = .ok after) : Reaches state [c] after := by
  cases hheld with
  | complete => exact reaches_of_advance complete_ne_number hadvance
  | number number hnumber =>
      refine reaches_of_step fun position => ?_
      rw [step_finished (hnumber.step c hends) hnumber.finish, hadvance]
      rfl

theorem Held.finish (hheld : Held node [] state) :
    Reader.finish ⟨position, state.1, state.2⟩ = .ok node := by
  cases hheld with
  | complete => rfl
  | number number hnumber => simp only [Reader.finish, hnumber.finish]

/-! ## Values -/

/-- The characters of a string are taken alike in a key and in a value. -/
theorem reaches_text {inText : StringText → Mode} {text later : StringText}
    (hinText : ∀ text number, inText text ≠ .number number)
    (hmore : ∀ position c text next, text.step c = .more next →
      advance uniqueKeys position stack (inText text) c = .ok (stack, inText next))
    (htake : text.take? chars = some later) :
    Reaches (stack, inText text) chars (stack, inText later) := by
  induction chars generalizing text with
  | nil =>
      obtain rfl : text = later := Option.some.inj htake
      exact .nil
  | cons c rest ih =>
      rw [StringText.take?_cons, Option.bind_eq_some_iff] at htake
      obtain ⟨next, hnext, hrest⟩ := htake
      have hstep : text.step c = .more next := StringText.next?_eq_some_iff.mp hnext
      exact .cons (reaches_of_advance (hinText text) fun position =>
        hmore position c text next hstep) (ih hrest)

theorem closed_quote (text : String) :
    StringText.step ⟨text.toList.reverse ++ [], .plain⟩ '"' = .closed text := by
  simp [StringText.step]

theorem toList_quoteString (text : String) :
    (quoteString text).toList = '"' :: (text.toList.flatMap stringChar ++ ['"']) := by
  rw [quoteString, String.toList_ofList, List.cons_append]

theorem reaches_quoteString (hopens : Opens state stack) (text : String) :
    Reaches state (quoteString text).toList (complete (.string text) stack) := by
  have hbegin : Reaches state ['"'] (stack, .text .empty) :=
    hopens.reaches (by decide) (by decide) fun position => rfl
  have hchars : Reaches (stack, .text .empty) (text.toList.flatMap stringChar)
      (stack, .text ⟨text.toList.reverse ++ [], .plain⟩) := by
    refine reaches_text (by simp) ?_ (StringText.take?_flatMap _)
    intro position c text next hstep
    simp only [advance, hstep]
  have hend : Reaches (stack, .text ⟨text.toList.reverse ++ [], .plain⟩) ['"']
      (complete (.string text) stack) := by
    refine reaches_of_advance (by simp) fun position => ?_
    simp only [advance, closed_quote]
  rw [toList_quoteString]
  exact hbegin.cons (hchars.append hend)

/-- A key is taken if its object does not have it and it is plain. -/
theorem reaches_key {members : List (String × Json)} {key : String}
    (hopen : Reaches state ['"'] (stack, .keyText members .empty))
    (hkey : uniqueKeys (members.map Prod.fst) key = none) :
    Reaches state (quoteString key ++ ":").toList (.object members key :: stack, .value false) := by
  have hchars : Reaches (stack, .keyText members .empty) (key.toList.flatMap stringChar)
      (stack, .keyText members ⟨key.toList.reverse ++ [], .plain⟩) := by
    refine reaches_text (by simp) ?_ (StringText.take?_flatMap _)
    intro position c text next hstep
    simp only [advance, hstep]
  have hend : Reaches (stack, .keyText members ⟨key.toList.reverse ++ [], .plain⟩) ['"']
      (stack, .colon members key) := by
    refine reaches_of_advance (by simp) fun position => ?_
    simp only [advance, closed_quote, hkey]
  have hcolon : Reaches (stack, .colon members key) [':']
      (.object members key :: stack, .value false) :=
    reaches_of_advance (by simp) fun position => rfl
  rw [String.toList_append, toList_quoteString]
  exact (hopen.cons (hchars.append hend)).append hcolon

theorem beginValue_number {number : NumberText} (hbegin : NumberText.begin? c = some number) :
    isBlank c = false ∧ c ≠ ']' ∧
      ∀ position, beginValue stack position c = .ok (stack, .number number) := by
  have hother : ∀ other, NumberText.begin? other = none → c ≠ other := by
    rintro other hnone rfl
    rw [hbegin] at hnone
    cases hnone
  refine ⟨?_, hother ']' rfl, ?_⟩
  · simp [isBlank, hother ' ' rfl, hother '\n' rfl, hother '\t' rfl, hother '\r' rfl]
  · intro position
    simp [beginValue, hbegin, hother '[' rfl, hother '\x7b' rfl, hother '"' rfl,
      hother 'n' rfl, hother 't' rfl, hother 'f' rfl]

theorem reaches_number {number later : NumberText} (htake : number.take? chars = some later) :
    Reaches (stack, .number number) chars (stack, .number later) := by
  induction chars generalizing number with
  | nil =>
      obtain rfl : number = later := Option.some.inj htake
      exact .nil
  | cons c rest ih =>
      rw [NumberText.take?_cons, Option.bind_eq_some_iff] at htake
      obtain ⟨next, hnext, hrest⟩ := htake
      have hstep : number.step c = .more next := NumberText.next?_eq_some_iff.mp hnext
      exact .cons (reaches_of_step fun position => step_more hstep) (ih hrest)

theorem exists_held_number (hopens : Opens state stack)
    (hreads : NumberText.Reads NumberText.begin? chars node) :
    ∃ after, Reaches state chars after ∧ Held node stack after := by
  obtain ⟨first, rest, begun, number, rfl, hfirst, hrest, hends⟩ := hreads
  obtain ⟨hblank, hbracket, hbegin⟩ := beginValue_number hfirst
  exact ⟨_, .cons (hopens.reaches hblank hbracket hbegin) (reaches_number hrest),
    .number number hends⟩

theorem reaches_null (hopens : Opens state stack) :
    Reaches state "null".toList (complete .null stack) := by
  have hbegin : Reaches state ['n'] (stack, .word ['u', 'l', 'l'] .null) :=
    hopens.reaches (by decide) (by decide) fun position => rfl
  refine hbegin.cons (.cons (reaches_of_advance (by simp) fun position => rfl)
    (.cons (reaches_of_advance (by simp) fun position => rfl) (reaches_of_advance (by simp)
      fun position => rfl)))

theorem exists_held_value (hopens : Opens state stack) (value : Value) :
    ∃ after, Reaches state value.toJson.toList after ∧ Held value.tree stack after := by
  cases value with
  | null => exact ⟨_, reaches_null hopens, .complete⟩
  | string text => exact ⟨_, reaches_quoteString hopens text, .complete⟩
  | int value => exact exists_held_number hopens (Value.reads_displayInt value)
  | decimal value => exact exists_held_number hopens value.reads_display
  | guid value =>
      rw [Value.toJson_guid]
      exact ⟨_, reaches_quoteString hopens value.display, .complete⟩
  | dateTime value =>
      rw [Value.toJson_dateTime]
      exact ⟨_, reaches_quoteString hopens value.display, .complete⟩

/-! ## Containers -/

theorem beginValue_container (hroom : stack.length < nestingLimit) (position : Position) :
    beginValue stack position '[' = .ok (stack, .firstItem) ∧
      beginValue stack position '\x7b' = .ok (stack, .firstKey) := by
  have hnotFull : ¬ nestingLimit ≤ stack.length := by omega
  simp [beginValue, hnotFull]

/-- What the reader does after a member of an object. -/
structure AfterMember (state : List Frame × Mode) (stack : List Frame)
    (members : List (String × Json)) : Prop where
  comma : Reaches state [','] (stack, .nextKey members)
  close : Reaches state ['\x7d'] (complete (.object members.reverse) stack)

structure AfterItem (state : List Frame × Mode) (stack : List Frame) (items : List Json) :
    Prop where
  comma : Reaches state [','] (.array items :: stack, .value true)
  close : Reaches state [']'] (complete (.array items.reverse) stack)

theorem Held.afterMember {members : List (String × Json)} {key : String}
    (hheld : Held node (.object members key :: stack) state) :
    AfterMember state stack ((key, node) :: members) :=
  ⟨hheld.reaches (by simp) fun _ => rfl, hheld.reaches (by simp) fun _ => rfl⟩

theorem Held.afterItem {items : List Json} (hheld : Held node (.array items :: stack) state) :
    AfterItem state stack (node :: items) :=
  ⟨hheld.reaches (by simp) fun _ => rfl, hheld.reaches (by simp) fun _ => rfl⟩

end Json.Reader

open Json Reader

/-- Where strict keys go on, the next one is taken. -/
theorem Json.StrictKeys.uniqueKeys_middle {earlier later : List String} {key : String}
    (hkeys : StrictKeys (earlier.reverse ++ key :: later)) :
    uniqueKeys earlier key = none := by
  refine uniqueKeys_eq_none_iff.mpr ⟨hkeys.plain key (by simp), ?_⟩
  intro hknown
  have hdisjoint := (List.nodup_append.mp hkeys.distinct).2.2
  exact hdisjoint key (List.mem_reverse.mpr hknown) key List.mem_cons_self rfl

namespace Output

mutual

/-- The text of an output leaves the reader with its tree. -/
theorem exists_held :
    ∀ (output : Output) (room : Nat) (stack : List Frame) (state : List Frame × Mode),
      output.tree.Strict room → stack.length + room ≤ nestingLimit → Opens state stack →
      ∃ after, Reaches state output.text.toList after ∧ Held output.tree stack after
  | .value scalar, room, stack, state, hstrict, hroom, hopens => exists_held_value hopens scalar
  | .object members, room, stack, state, hstrict, hroom, hopens => by
      rw [tree] at hstrict
      cases hstrict with
      | @object room _ hkeys hvalues =>
          have hopen : Reaches state ['\x7b'] (stack, .firstKey) :=
            hopens.reaches (by decide) (by decide) fun position =>
              (beginValue_container (by omega) position).2
          refine ⟨_, ?_, .complete⟩
          cases members with
          | nil =>
              have hclose : Reaches (stack, .firstKey) ['\x7d'] (complete (.object []) stack) :=
                reaches_of_advance (by simp) fun position => rfl
              simpa [text, memberTexts, Text.joinWith, tree, memberTrees] using
                hopen.append hclose
          | cons member rest =>
              obtain ⟨key, output⟩ := member
              have hkey : uniqueKeys [] key = none :=
                @StrictKeys.uniqueKeys_middle [] _ key hkeys
              have hquote : Reaches (stack, .firstKey) ['"'] (stack, .keyText [] .empty) :=
                reaches_of_advance (by simp) fun position => rfl
              rw [memberTrees, List.forall_mem_cons] at hvalues
              obtain ⟨after, hreaches, hheld⟩ :=
                exists_held output room (.object [] key :: stack) _ hvalues.1
                  (by rw [List.length_cons]; omega) (opens_value _ false)
              have hrest := reaches_members rest room stack [(key, output.tree)] after hkeys
                hvalues.2 (by omega) hheld.afterMember
              have hmember := (reaches_key hquote hkey).append hreaches
              have hall := hopen.append (hmember.append hrest)
              rw [text, memberTexts, Text.joinWith_cons]
              simpa [tree, memberTrees, List.append_assoc] using hall
  | .array items, room, stack, state, hstrict, hroom, hopens => by
      rw [tree] at hstrict
      cases hstrict with
      | @array room _ hvalues =>
          have hopen : Reaches state ['['] (stack, .firstItem) :=
            hopens.reaches (by decide) (by decide) fun position =>
              (beginValue_container (by omega) position).1
          refine ⟨_, ?_, .complete⟩
          cases items with
          | nil =>
              have hclose : Reaches (stack, .firstItem) [']'] (complete (.array []) stack) :=
                reaches_of_advance (by simp) fun position => rfl
              simpa [text, itemTexts, Text.joinWith, tree, itemTrees] using hopen.append hclose
          | cons output rest =>
              rw [itemTrees, List.forall_mem_cons] at hvalues
              obtain ⟨after, hreaches, hheld⟩ :=
                exists_held output room (.array [] :: stack) _ hvalues.1
                  (by rw [List.length_cons]; omega) (opens_firstItem stack)
              have hrest := reaches_items rest room stack [output.tree] after hvalues.2
                (by omega) hheld.afterItem
              have hall := hopen.append (hreaches.append hrest)
              rw [text, itemTexts, Text.joinWith_cons]
              simpa [tree, itemTrees, List.append_assoc] using hall

/-- Further members of an object, each after a comma, up to the closing brace. -/
theorem reaches_members :
    ∀ (members : List (String × Output)) (room : Nat) (stack : List Frame)
      (done : List (String × Json)) (state : List Frame × Mode),
      StrictKeys ((done.map Prod.fst).reverse ++ (memberTrees members).map Prod.fst) →
      (∀ member ∈ memberTrees members, Strict room member.2) →
      stack.length + 1 + room ≤ nestingLimit → AfterMember state stack done →
      Reaches state
        (String.join ((memberTexts members).map ("," ++ ·)) ++ "\x7d").toList
        (complete (.object (done.reverse ++ memberTrees members)) stack)
  | [], room, stack, done, state, hkeys, hvalues, hroom, hafter => by
      simpa [memberTexts, memberTrees] using hafter.close
  | (key, output) :: rest, room, stack, done, state, hkeys, hvalues, hroom, hafter => by
      have hkey : uniqueKeys (done.map Prod.fst) key = none := by
        rw [memberTrees, List.map_cons] at hkeys
        exact hkeys.uniqueKeys_middle
      rw [memberTrees, List.forall_mem_cons] at hvalues
      have hquote : Reaches (stack, .nextKey done) ['"'] (stack, .keyText done .empty) :=
        reaches_of_advance (by simp) fun position => rfl
      obtain ⟨after, hreaches, hheld⟩ := exists_held output room (.object done key :: stack) _
        hvalues.1 (by simpa [List.length_cons] using hroom) (opens_value _ false)
      have hrest := reaches_members rest room stack ((key, output.tree) :: done) after
        (by simpa [memberTrees] using hkeys) hvalues.2 hroom hheld.afterMember
      have hmember := (reaches_key hquote hkey).append hreaches
      have hall := hafter.comma.append (hmember.append hrest)
      simpa [memberTexts, memberTrees, List.append_assoc] using hall

theorem reaches_items :
    ∀ (items : List Output) (room : Nat) (stack : List Frame) (done : List Json)
      (state : List Frame × Mode),
      (∀ item ∈ itemTrees items, Strict room item) →
      stack.length + 1 + room ≤ nestingLimit → AfterItem state stack done →
      Reaches state (String.join ((itemTexts items).map ("," ++ ·)) ++ "]").toList
        (complete (.array (done.reverse ++ itemTrees items)) stack)
  | [], room, stack, done, state, hvalues, hroom, hafter => by
      simpa [itemTexts, itemTrees] using hafter.close
  | output :: rest, room, stack, done, state, hvalues, hroom, hafter => by
      rw [itemTrees, List.forall_mem_cons] at hvalues
      obtain ⟨after, hreaches, hheld⟩ := exists_held output room (.array done :: stack) _
        hvalues.1 (by rw [List.length_cons]; exact hroom) (opens_value _ true)
      have hrest := reaches_items rest room stack (output.tree :: done) after hvalues.2 hroom
        hheld.afterItem
      have hall := hafter.comma.append (hreaches.append hrest)
      simpa [itemTexts, itemTrees, List.append_assoc] using hall

end

/-- The text of an output is read strictly as its tree. -/
theorem readStrict_text {output : Output} {room : Nat} (hstrict : output.tree.Strict room)
    (hroom : room ≤ nestingLimit) : readStrict output.text = .ok output.tree := by
  obtain ⟨after, hreaches, hheld⟩ :=
    exists_held output room [] _ hstrict (by simpa using hroom) (opens_value [] false)
  obtain ⟨later, hlater⟩ := hreaches Position.start
  rw [readStrict, Json.read]
  show (output.text.toList.foldlM (Reader.step uniqueKeys) Reader.start >>= Reader.finish) = _
  rw [Reader.start, hlater, Outcome.ok_bind, hheld.finish]

end Output

end MappingPlan
