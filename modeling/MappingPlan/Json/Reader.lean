import MappingPlan.Json.NumberText
import MappingPlan.Json.StringText
import MappingPlan.Json.Tree

/-!
# Reading a JSON text

The reader takes a text one character at a time.  Its state is a stack of the
containers that are waiting for the value being read, and a mode for what may
come next.  Because a step sees one character, what the reader has decided after
some beginning of a text cannot depend on the rest.

A key rule is asked about every key as soon as its closing quote is read, with
the keys that its object already has.  A key that the rule refuses ends the
reading there, before anything that is wrong later in the text.
-/

namespace MappingPlan.Json

inductive KeyFault where
  | separator
  | repeated
  deriving DecidableEq, Repr

structure Refusal where
  enclosing : List String
  key : String
  fault : KeyFault
  deriving DecidableEq, Repr

/-- Judges a key from the keys that its object has already. -/
abbrev KeyRule := List String → String → Option KeyFault

inductive ReadFault where
  | malformed (fault : SyntaxFault)
  | refused (refusal : Refusal)
  deriving DecidableEq, Repr

/-- A container that is waiting for the value being read.  What it holds so far
is listed last first. -/
inductive Frame where
  | array (items : List Json)
  | object (members : List (String × Json)) (key : String)

def Frame.label : Frame → String
  | .array items => toString items.length
  | .object _ key => key

inductive Mode where
  /-- a value; after a comma of an array its end is a trailing comma -/
  | value (afterComma : Bool)
  | firstItem
  | afterItem (items : List Json)
  | firstKey
  | nextKey (members : List (String × Json))
  | keyText (members : List (String × Json)) (text : StringText)
  | colon (members : List (String × Json)) (key : String)
  | afterMember (members : List (String × Json))
  | word (rest : List Char) (node : Json)
  | text (text : StringText)
  | number (number : NumberText)
  | finished (root : Json)

structure Reader where
  position : Position
  stack : List Frame
  mode : Mode

def nestingLimit : Nat := 127

def isBlank (c : Char) : Bool :=
  c == ' ' || c == '\n' || c == '\t' || c == '\r'

namespace Reader

def start : Reader := ⟨.start, [], .value false⟩

def enclosing (stack : List Frame) : List String :=
  stack.reverse.map Frame.label

def malformed {α : Type} (cause : FaultCause) (position : Position) : Except ReadFault α :=
  .error (.malformed ⟨cause, position⟩)

/-- The mode in which a stack continues after a complete value, and the stack
without the container that took it. -/
def complete (node : Json) : List Frame → List Frame × Mode
  | [] => ([], .finished node)
  | .array items :: stack => (stack, .afterItem (node :: items))
  | .object members key :: stack => (stack, .afterMember ((key, node) :: members))

def beginValue (stack : List Frame) (position : Position) (c : Char) :
    Except ReadFault (List Frame × Mode) :=
  if c = '[' ∨ c = '\x7b' then
    if nestingLimit ≤ stack.length then malformed .nestingLimit (position.into c 1)
    else .ok (stack, if c = '[' then .firstItem else .firstKey)
  else if c = '"' then .ok (stack, .text .empty)
  else if c = 'n' then .ok (stack, .word ['u', 'l', 'l'] .null)
  else if c = 't' then .ok (stack, .word ['r', 'u', 'e'] (.bool true))
  else if c = 'f' then .ok (stack, .word ['a', 'l', 's', 'e'] (.bool false))
  else
    match NumberText.begin? c with
    | some number => .ok (stack, .number number)
    | none => malformed .expectedValue (position.into c 1)

def advance (rule : KeyRule) (position : Position) (stack : List Frame) (mode : Mode)
    (c : Char) : Except ReadFault (List Frame × Mode) :=
  let faulty (cause : FaultCause) := malformed cause (position.into c 1)
  match mode with
  | .value afterComma =>
      if isBlank c then .ok (stack, mode)
      else if c = ']' ∧ afterComma then faulty .trailingComma
      else beginValue stack position c
  | .firstItem =>
      if isBlank c then .ok (stack, mode)
      else if c = ']' then .ok (complete (.array []) stack)
      else beginValue (.array [] :: stack) position c
  | .afterItem items =>
      if isBlank c then .ok (stack, mode)
      else if c = ',' then .ok (.array items :: stack, .value true)
      else if c = ']' then .ok (complete (.array items.reverse) stack)
      else faulty .expectedListComma
  | .firstKey =>
      if isBlank c then .ok (stack, mode)
      else if c = '"' then .ok (stack, .keyText [] .empty)
      else if c = '\x7d' then .ok (complete (.object []) stack)
      else faulty .keyNotString
  | .nextKey members =>
      if isBlank c then .ok (stack, mode)
      else if c = '"' then .ok (stack, .keyText members .empty)
      else if c = '\x7d' then faulty .trailingComma
      else faulty .keyNotString
  | .keyText members text =>
      match text.step c with
      | .more text => .ok (stack, .keyText members text)
      | .faulty cause bytes => malformed cause (position.into c bytes)
      | .closed key =>
          match rule (members.map Prod.fst) key with
          | some fault => .error (.refused ⟨enclosing stack, key, fault⟩)
          | none => .ok (stack, .colon members key)
  | .colon members key =>
      if isBlank c then .ok (stack, mode)
      else if c = ':' then .ok (.object members key :: stack, .value false)
      else faulty .expectedColon
  | .afterMember members =>
      if isBlank c then .ok (stack, mode)
      else if c = ',' then .ok (stack, .nextKey members)
      else if c = '\x7d' then .ok (complete (.object members.reverse) stack)
      else faulty .expectedObjectComma
  | .word rest node =>
      match rest with
      | [] => .ok (complete node stack)
      | [last] => if c = last then .ok (complete node stack) else faulty .expectedWord
      | next :: rest =>
          if c = next then .ok (stack, .word rest node) else faulty .expectedWord
  | .text text =>
      match text.step c with
      | .more text => .ok (stack, .text text)
      | .faulty cause bytes => malformed cause (position.into c bytes)
      | .closed text => .ok (complete (.string text) stack)
  | .number _ => faulty .invalidNumber
  | .finished _ => if isBlank c then .ok (stack, mode) else faulty .trailingCharacters

/-- The reader after one character.  A character that does not continue a number
ends it and is then read as what follows the number. -/
def step (rule : KeyRule) (reader : Reader) (c : Char) : Except ReadFault Reader := do
  let position := reader.position
  let (stack, mode) ←
    match reader.mode with
    | .number number =>
        match number.step c with
        | .more number => pure (reader.stack, .number number)
        | .faulty cause => malformed cause (position.into c 1)
        | .finished =>
            match number.finish with
            | .error cause => malformed cause position
            | .ok node =>
                let (stack, mode) := complete node reader.stack
                advance rule position stack mode c
    | mode => advance rule position reader.stack mode c
  return ⟨position.after c, stack, mode⟩

def finish (reader : Reader) : Except ReadFault Json :=
  let faulty (cause : FaultCause) := malformed cause reader.position
  match reader.mode with
  | .finished root => .ok root
  | .value _ | .word _ _ => faulty .endInValue
  | .firstItem | .afterItem _ => faulty .endInList
  | .firstKey | .colon _ _ | .afterMember _ => faulty .endInObject
  | .nextKey _ => faulty .endInValue
  | .keyText _ _ | .text _ => faulty .endInString
  | .number number =>
      match number.finish with
      | .error cause => faulty cause
      | .ok node =>
          match reader.stack with
          | [] => .ok node
          | .array _ :: _ => faulty .endInList
          | .object _ _ :: _ => faulty .endInObject

end Reader

def uniqueKeys : KeyRule := fun earlier key =>
  if ':' ∈ key.toList then some .separator
  else if key ∈ earlier then some .repeated
  else none

def anyKeys : KeyRule := fun _ _ => none

def read (rule : KeyRule) (text : String) : Except ReadFault Json := do
  let reader ← text.toList.foldlM (Reader.step rule) Reader.start
  reader.finish

def readStrict (text : String) : Except ReadFault Json :=
  read uniqueKeys text

/-- The tree of a text with any keys, a repeated key at its first place with its
last value. -/
def readPlain (text : String) : Except ReadFault Json :=
  (read anyKeys text).map settle

end MappingPlan.Json
