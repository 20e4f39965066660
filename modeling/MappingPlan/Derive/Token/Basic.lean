/-!
# Tokens of source text

Source text is a list of tokens.  What stands between a pair of brackets is one token,
a group with its content, so that a reader of the list never meets an unmatched
bracket.
-/

namespace MappingPlan.Derive

inductive Delimiter where
  | parenthesis
  | bracket
  | brace
  deriving DecidableEq, Repr

inductive Literal where
  | string (text : String)
  | number (text : String)
  | other
  deriving DecidableEq, Repr

inductive Token where
  /-- a name or a keyword; a raw name keeps its mark -/
  | name (text : String)
  | lifetime (name : String)
  /-- a sign, and whether the next character is a sign as well -/
  | sign (c : Char) (joint : Bool)
  | literal (value : Literal)
  | group (delimiter : Delimiter) (content : List Token)
  deriving Repr

def Delimiter.opening : Delimiter → Char
  | parenthesis => '('
  | bracket => '['
  | brace => '\x7b'

def Delimiter.closing : Delimiter → Char
  | parenthesis => ')'
  | bracket => ']'
  | brace => '\x7d'

def Delimiter.all : List Delimiter := [parenthesis, bracket, brace]

end MappingPlan.Derive
