import MappingPlan.Json.Fault
import MappingPlan.Text.Digits

/-!
# Strings of a JSON text

Between its quotes a string is read one character at a time.  A hexadecimal
escape takes the next four bytes, whatever they are, before it is judged; an
escape for the first half of a surrogate pair must be followed by one for the
second half.

The other direction, `quoteString`, escapes the quote, the backslash and the
control characters below the space, and nothing else.
-/

namespace MappingPlan.Json

inductive StringPart where
  | plain
  | escape
  /-- in the four bytes of a hexadecimal escape: how many were taken, their value
  if all were digits, and the first half of the pair if this is the second -/
  | hex (first : Option Nat) (taken : Nat) (value : Option Nat)
  | pairBackslash (first : Nat)
  | pairMark (first : Nat)
  deriving DecidableEq, Repr

/-- A string read so far, last character first. -/
structure StringText where
  reversed : List Char
  part : StringPart
  deriving DecidableEq, Repr

/-- What a further character does to a string.  A fault tells how many bytes of
the character belong to it. -/
inductive StringStep where
  | more (text : StringText)
  | closed (text : String)
  | faulty (cause : FaultCause) (bytes : Nat)

namespace StringText

def empty : StringText := ⟨[], .plain⟩

def push (text : StringText) (c : Char) : StringText :=
  ⟨c :: text.reversed, .plain⟩

def escaped? (c : Char) : Option Char :=
  if c = '"' ∨ c = '\\' ∨ c = '/' then some c
  else if c = 'b' then some '\x08'
  else if c = 'f' then some '\x0c'
  else if c = 'n' then some '\n'
  else if c = 'r' then some '\r'
  else if c = 't' then some '\t'
  else none

def isFirstHalf (unit : Nat) : Bool := 0xD800 ≤ unit && unit ≤ 0xDBFF

def isSecondHalf (unit : Nat) : Bool := 0xDC00 ≤ unit && unit ≤ 0xDFFF

def pairChar (first second : Nat) : Char :=
  Char.ofNat (0x10000 + (first - 0xD800) * 0x400 + (second - 0xDC00))

def takeUnit (text : StringText) (first : Option Nat) (unit : Nat) : StringStep :=
  match first with
  | none =>
      if isSecondHalf unit then .faulty .loneSurrogate 1
      else if isFirstHalf unit then .more { text with part := .pairBackslash unit }
      else .more (text.push (Char.ofNat unit))
  | some first =>
      if isSecondHalf unit then .more (text.push (pairChar first unit))
      else .faulty .loneSurrogate 1

def takeHex (text : StringText) (first : Option Nat) (taken : Nat) (value : Option Nat)
    (c : Char) : StringStep :=
  let size := c.utf8Size
  let grown := do return (← value) * 16 + (← Text.hexValue? c)
  if taken + size < 4 then .more { text with part := .hex first (taken + size) grown }
  else
    match grown with
    | some unit => takeUnit text first unit
    | none => .faulty .invalidEscape (4 - taken)

def step (text : StringText) (c : Char) : StringStep :=
  match text.part with
  | .plain =>
      if c = '"' then .closed (String.ofList text.reversed.reverse)
      else if c = '\\' then .more { text with part := .escape }
      else if c < ' ' then .faulty .controlCharacter 1
      else .more (text.push c)
  | .escape =>
      if c = 'u' then .more { text with part := .hex none 0 (some 0) }
      else
        match escaped? c with
        | some character => .more (text.push character)
        | none => .faulty .invalidEscape 1
  | .hex first taken value => text.takeHex first taken value c
  | .pairBackslash first =>
      if c = '\\' then .more { text with part := .pairMark first }
      else .faulty .brokenSurrogatePair 1
  | .pairMark first =>
      if c = 'u' then .more { text with part := .hex (some first) 0 (some 0) }
      else .faulty .brokenSurrogatePair 1

end StringText

def stringChar (c : Char) : List Char :=
  if c = '"' then ['\\', '"']
  else if c = '\\' then ['\\', '\\']
  else if c = '\x08' then ['\\', 'b']
  else if c = '\x0c' then ['\\', 'f']
  else if c = '\n' then ['\\', 'n']
  else if c = '\r' then ['\\', 'r']
  else if c = '\t' then ['\\', 't']
  else if c < ' ' then ['\\', 'u'] ++ Text.padLeft 4 '0' (Text.hexDigits c.toNat)
  else [c]

def quoteString (text : String) : String :=
  String.ofList ('"' :: text.toList.flatMap stringChar ++ ['"'])

end MappingPlan.Json
