import MappingPlan.Derive.Grammar.Fault
import MappingPlan.Derive.Token.Number

/-!
# Reading tokens

A cursor stands in a list of tokens.  Looking ahead is a test on the tokens that are
left; taking moves the cursor or fails.  A group is read by moving into it.  Tokens
that are left at its end are no fault until everything else was read, so the cursor
only remembers the first such group.

A sign of several characters is a run of joint tokens, of which the last may be joint
with what follows: `>` can be taken from `>>`.
-/

namespace MappingPlan.Derive

def keywords : List String :=
  ["_", "abstract", "as", "async", "await", "become", "box", "break", "const", "continue",
    "crate", "do", "dyn", "else", "enum", "extern", "false", "final", "fn", "for", "if", "impl",
    "in", "let", "loop", "macro", "match", "mod", "move", "mut", "override", "priv", "pub",
    "ref", "return", "Self", "self", "static", "struct", "super", "trait", "true", "try",
    "type", "typeof", "unsafe", "unsized", "use", "virtual", "where", "while", "yield"]

namespace Ahead

def anyName : List Token → Bool
  | .name _ :: _ => true
  | _ => false

def name : List Token → Bool
  | .name text :: _ => !keywords.contains text
  | _ => false

def word (words : List String) : List Token → Bool
  | .name text :: _ => words.contains text
  | _ => false

def lifetime : List Token → Bool
  | .lifetime _ :: _ => true
  | _ => false

def group (delimiter : Delimiter) : List Token → Bool
  | .group found _ :: _ => found == delimiter
  | _ => false

def anyGroup : List Token → Bool
  | .group _ _ :: _ => true
  | _ => false

def afterSign? : List Char → List Token → Option (List Token)
  | [], tokens => some tokens
  | [c], .sign found _ :: rest => if found = c then some rest else none
  | c :: more, .sign found joint :: rest =>
      if found = c ∧ joint then afterSign? more rest else none
  | _ :: _, _ => none

def sign (text : String) (tokens : List Token) : Bool :=
  (afterSign? text.toList tokens).isSome

/-- Whether an equals sign comes next that is no part of a longer sign. -/
def assignment (tokens : List Token) : Bool :=
  sign "=" tokens && !sign "==" tokens && !sign "=>" tokens

/-- The tokens after a literal, which may be a number below zero or a truth value. -/
def afterLiteral? : List Token → Option (List Token)
  | .literal _ :: rest => some rest
  | .name text :: rest => if text = "true" ∨ text = "false" then some rest else none
  | .sign '-' _ :: .literal (.number _) :: rest => some rest
  | _ => none

def literal (tokens : List Token) : Bool :=
  (afterLiteral? tokens).isSome

def number? : List Token → Option (String × Bool × List Token)
  | .literal (.number text) :: rest => some (text, false, rest)
  | .sign '-' _ :: .literal (.number text) :: rest => some (text, true, rest)
  | _ => none

end Ahead

structure Cursor where
  rest : List Token
  leftover : Option Delimiter

abbrev Reading := StateT Cursor (Except SyntaxFault)

namespace Reading

def sees (test : List Token → Bool) : Reading Bool :=
  return test (← get).rest

def atEnd : Reading Bool :=
  sees List.isEmpty

def moveTo (rest : List Token) : Reading Unit :=
  modify fun cursor => { cursor with rest := rest }

def expected {α : Type} (wanted : List Wanted) : Reading α := do
  throw (.expected wanted (← atEnd))

/-- Takes a sign.  The message never tells the end of the text. -/
def sign (text : String) : Reading Unit := do
  match Ahead.afterSign? text.toList (← get).rest with
  | some rest => moveTo rest
  | none => throw (.expected [.mark text] false)

def sign? (text : String) : Reading Bool := do
  match Ahead.afterSign? text.toList (← get).rest with
  | some rest =>
      moveTo rest
      return true
  | none => return false

def signOf? : List String → Reading (Option String)
  | [] => return none
  | text :: others => do
      if ← sign? text then return some text
      else signOf? others

def word? (words : List String) : Reading Bool := do
  match (← get).rest with
  | .name text :: rest =>
      if words.contains text then
        moveTo rest
        return true
      else return false
  | _ => return false

def word (text : String) : Reading Unit := do
  unless ← word? [text] do expected [.mark text]

def anyName : Reading String := do
  match (← get).rest with
  | .name text :: rest =>
      moveTo rest
      return text
  | _ => expected [.anyName]

def name : Reading String := do
  match (← get).rest with
  | .name text :: rest =>
      if keywords.contains text then throw (.keyword text)
      else
        moveTo rest
        return text
  | _ => expected [.identifier]

def lifetime : Reading Unit := do
  match (← get).rest with
  | .lifetime _ :: rest => moveTo rest
  | _ => expected [.lifetime]

def string? : Reading Bool := do
  match (← get).rest with
  | .literal (.string _) :: rest =>
      moveTo rest
      return true
  | _ => return false

def anyGroup : Reading (Delimiter × List Token) := do
  match (← get).rest with
  | .group delimiter content :: rest =>
      moveTo rest
      return (delimiter, content)
  | _ => expected [.anyGroup]

/-- Reads the content of a group and then what belongs to it behind the group.  Tokens
left in the group count only after any that were left behind it. -/
def insideThen {α β : Type} (delimiter : Delimiter) (content : Reading α)
    (after : α → Reading β) : Reading β := do
  match (← get).rest with
  | .group found tokens :: rest =>
      if found = delimiter then
        moveTo tokens
        let inner ← content
        let complete ← atEnd
        moveTo rest
        let result ← after inner
        unless complete do
          modify fun cursor =>
            { cursor with leftover := cursor.leftover <|> some delimiter }
        return result
      else expected [.group delimiter]
  | _ => expected [.group delimiter]

def inside {α : Type} (delimiter : Delimiter) (content : Reading α) : Reading α :=
  insideThen delimiter content pure

/-- Never reached: all fuel comes from the length of the text, and a reading ends or
takes a token within a few calls. -/
def exhausted {α : Type} : Reading α :=
  throw .notTokens

def lookAhead {α : Type} (reading : Reading α) : Reading α := do
  let start ← get
  let result ← reading
  set start
  return result

def attempt? {α : Type} (reading : Reading α) : Reading (Option α) := fun start =>
  match reading start with
  | .ok (result, cursor) => .ok (some result, cursor)
  | .error _ => .ok (none, start)

/-- Reads members with a sign between them and perhaps after the last, up to where a
test holds. -/
def separated {α : Type} (mark : String) (stop : Reading Bool) (member : Reading α) :
    Nat → Reading (List α)
  | 0 => exhausted
  | fuel + 1 => do
      if ← stop then return []
      let first ← member
      if ← stop then return [first]
      sign mark
      return first :: (← separated mark stop member fuel)

def list {α : Type} (member : Reading α) (fuel : Nat) : Reading (List α) :=
  separated "," atEnd member fuel

def whileSees {α : Type} (test : List Token → Bool) (member : Reading α) :
    Nat → Reading (List α)
  | 0 => exhausted
  | fuel + 1 => do
      if ← sees test then
        let first ← member
        return first :: (← whileSees test member fuel)
      else return []

def untilEnd (member : Reading Unit) (fuel : Nat) : Reading Unit :=
  discard <| whileSees (!·.isEmpty) member fuel

def run {α : Type} (reading : Reading α) (tokens : List Token) : Except SyntaxFault α := do
  let (result, cursor) ← StateT.run reading ⟨tokens, none⟩
  match cursor.leftover, cursor.rest with
  | some group, _ => throw (.leftover (some group))
  | none, _ :: _ => throw (.leftover none)
  | none, [] => return result

end Reading

end MappingPlan.Derive
