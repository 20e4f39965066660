/-!
# What is wrong with a JSON text, and where

A reading fault is a cause together with a position.  Positions count bytes: the
column is the number of bytes since the line began, and a newline starts the next
line at column zero.  A fault found at a character lies one byte into it; a fault
found at the end of the text lies at the end.
-/

namespace MappingPlan.Json

inductive FaultCause where
  | endInValue
  | endInList
  | endInObject
  | endInString
  | expectedValue
  | expectedWord
  | expectedColon
  | expectedListComma
  | expectedObjectComma
  | keyNotString
  | trailingComma
  | trailingCharacters
  | invalidNumber
  | numberOutOfRange
  | invalidEscape
  | brokenSurrogatePair
  | loneSurrogate
  | controlCharacter
  | nestingLimit
  deriving DecidableEq, Repr

def FaultCause.message : FaultCause → String
  | .endInValue => "EOF while parsing a value"
  | .endInList => "EOF while parsing a list"
  | .endInObject => "EOF while parsing an object"
  | .endInString => "EOF while parsing a string"
  | .expectedValue => "expected value"
  | .expectedWord => "expected ident"
  | .expectedColon => "expected `:`"
  | .expectedListComma => "expected `,` or `]`"
  | .expectedObjectComma => "expected `,` or `\x7d`"
  | .keyNotString => "key must be a string"
  | .trailingComma => "trailing comma"
  | .trailingCharacters => "trailing characters"
  | .invalidNumber => "invalid number"
  | .numberOutOfRange => "number out of range"
  | .invalidEscape => "invalid escape"
  | .brokenSurrogatePair => "unexpected end of hex escape"
  | .loneSurrogate => "lone leading surrogate in hex escape"
  | .controlCharacter => "control character (\\u0000-\\u001F) found while parsing a string"
  | .nestingLimit => "recursion limit exceeded"

/-- A place in a text: the line, from 1, and the bytes passed on it. -/
structure Position where
  line : Nat
  column : Nat
  deriving DecidableEq, Repr

namespace Position

def start : Position := ⟨1, 0⟩

def into (position : Position) (c : Char) (bytes : Nat) : Position :=
  if c = '\n' ∧ 0 < bytes then ⟨position.line + 1, 0⟩
  else ⟨position.line, position.column + bytes⟩

def after (position : Position) (c : Char) : Position :=
  position.into c c.utf8Size

end Position

structure SyntaxFault where
  cause : FaultCause
  position : Position
  deriving DecidableEq, Repr

def SyntaxFault.message (fault : SyntaxFault) : String :=
  fault.cause.message ++ " at line " ++ toString fault.position.line ++
    " column " ++ toString fault.position.column

end MappingPlan.Json
