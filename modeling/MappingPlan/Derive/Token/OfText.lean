import MappingPlan.Derive.Token.Literal

/-!
# From text to tokens

Text is cut into tokens and the sides of groups, and these are nested.  Blanks and
comments stand between tokens; a comment that documents what follows is itself written
as the tokens of an attribute.
-/

namespace MappingPlan.Derive

/-- A token without content, or one side of a group. -/
inductive Lexeme where
  | leaf (token : Token)
  | opening (delimiter : Delimiter)
  | closing (delimiter : Delimiter)

/-- White space, and the marks that set the direction of writing. -/
def isBlank (c : Char) : Bool :=
  c == ' ' || ('\t' ≤ c && c ≤ '\r') || c == '\u0085' || c == '\u00a0' || c == '\u1680' ||
    ('\u2000' ≤ c && c ≤ '\u200a') || c == '\u200e' || c == '\u200f' || c == '\u2028' ||
    c == '\u2029' || c == '\u202f' || c == '\u205f' || c == '\u3000'

def afterBlockComment? (depth : Nat) : List Char → Option (List Char)
  | [] => none
  | '/' :: '*' :: rest => afterBlockComment? (depth + 1) rest
  | '*' :: '/' :: rest => if depth = 0 then some rest else afterBlockComment? (depth - 1) rest
  | _ :: rest => afterBlockComment? depth rest

def spanLine : List Char → List Char × List Char
  | [] => ([], [])
  | '\r' :: '\n' :: rest => ([], '\n' :: rest)
  | c :: rest =>
      if c = '\n' then ([], c :: rest)
      else
        let (line, after) := spanLine rest
        (c :: line, after)

def afterLine (text : List Char) : List Char :=
  (spanLine text).2

/-- The text after a comment that documents nothing. -/
def afterComment? : List Char → Option (List Char)
  | '/' :: '/' :: '/' :: '/' :: rest => some (afterLine rest)
  | '/' :: '/' :: '/' :: _ | '/' :: '/' :: '!' :: _ => none
  | '/' :: '/' :: rest => some (afterLine rest)
  | '/' :: '*' :: '*' :: '/' :: rest => some rest
  | '/' :: '*' :: '*' :: '*' :: rest => afterBlockComment? 0 ('*' :: '*' :: rest)
  | '/' :: '*' :: '*' :: _ | '/' :: '*' :: '!' :: _ => none
  | '/' :: '*' :: rest => afterBlockComment? 0 rest
  | _ => none

/-- Whether every carriage return begins a line end. -/
def hasWholeLineEnds : List Char → Bool
  | [] => true
  | '\r' :: '\n' :: rest => hasWholeLineEnds rest
  | c :: rest => c != '\r' && hasWholeLineEnds rest

def documentation (inner : Bool) (comment : List Char) : List Token :=
  [.sign '#' false] ++ (if inner then [.sign '!' false] else []) ++
    [.group .bracket
      [.name "doc", .sign '=' false, .literal (.string (String.ofList comment))]]

def documentation? (inner : Bool) (comment rest : List Char) :
    Option (List Token × List Char) :=
  if hasWholeLineEnds comment then some (documentation inner comment, rest) else none

def blockDocumentation? (inner : Bool) (text : List Char) :
    Option (List Token × List Char) := do
  let rest ← afterBlockComment? 0 text
  documentation? inner (text.take (text.length - rest.length - 2)) rest

def documentationOfText? (text : List Char) : Option (List Token × List Char) :=
  match text with
  | '/' :: '/' :: '!' :: rest => documentation? true (spanLine rest).1 (spanLine rest).2
  | '/' :: '/' :: '/' :: rest => documentation? false (spanLine rest).1 (spanLine rest).2
  | '/' :: '*' :: '!' :: rest => blockDocumentation? true rest
  | '/' :: '*' :: '*' :: rest => blockDocumentation? false rest
  | _ => none

def signs : List Char := "~!@#$%^&*-=+|;:,<.>/?'".toList

/-- Whether a text begins with a sign, and not with a comment. -/
def beginsWithSign : List Char → Bool
  | '/' :: '/' :: _ | '/' :: '*' :: _ => false
  | c :: _ => signs.contains c
  | [] => false

def neverRaw : List String := ["_", "super", "self", "Self", "crate"]

def nameOfText? (text : List Char) : Option (String × List Char) :=
  match text with
  | 'r' :: '#' :: rest => do
      let (name, after) ← spanName? rest
      if neverRaw.contains (String.ofList name) then none
      else some (String.ofList ('r' :: '#' :: name), after)
  | _ => (spanName? text).map fun (name, after) => (String.ofList name, after)

/-- How strings begin that are no plain string.  No name begins so. -/
def quotationMarks : List (List Char) :=
  ["r\"", "r#\"", "r##", "b\"", "b'", "br\"", "br#", "c\"", "cr\"", "cr#"].map String.toList

/-- The lifetime after its quote, which must not be that of a character. -/
def lifetimeOfText? (text : List Char) : Option (String × List Char) := do
  let (name, rest) ← nameOfText? text
  let raw := ['r', '#'].isPrefixOf text
  if rest.head? = some '\'' ∨ (rest.head? = some '#' ∧ !raw) then none else some (name, rest)

def leafOfText? (text : List Char) : Option (Token × List Char) :=
  match Literal.ofText? text, text with
  | some (literal, rest), _ => some (.literal literal, rest)
  | none, [] => none
  | none, c :: rest =>
      if beginsWithSign text then
        if c = '\'' then (lifetimeOfText? rest).map fun (name, rest) => (.lifetime name, rest)
        else some (.sign c (beginsWithSign rest), rest)
      else if quotationMarks.any fun mark => mark.isPrefixOf text then none
      else (nameOfText? text).map fun (name, rest) => (.name name, rest)

def lexemesOfText? : List Char → Option (List Lexeme × List Char)
  | [] => none
  | c :: rest =>
      if isBlank c then some ([], rest)
      else
        match afterComment? (c :: rest), documentationOfText? (c :: rest) with
        | some rest, _ => some ([], rest)
        | none, some (tokens, rest) => some (tokens.map .leaf, rest)
        | none, none =>
            match Delimiter.all.find? fun delimiter => delimiter.opening == c,
              Delimiter.all.find? fun delimiter => delimiter.closing == c with
            | some delimiter, _ => some ([.opening delimiter], rest)
            | none, some delimiter => some ([.closing delimiter], rest)
            | none, none =>
                (leafOfText? (c :: rest)).map fun (token, rest) => ([.leaf token], rest)

/-- All lexemes of a text after those read so far, last first. -/
def allLexemes? (read : List Lexeme) : Nat → List Char → Option (List Lexeme)
  | _, [] => some read.reverse
  | 0, _ => none
  | fuel + 1, text => do
      let (lexemes, rest) ← lexemesOfText? text
      allLexemes? (lexemes.reverse ++ read) fuel rest

/-- The groups that are open, innermost first, each with the tokens before it, and the
tokens after the last opening.  Tokens come last first. -/
structure Nesting where
  enclosing : List (Delimiter × List Token)
  tokens : List Token

def Nesting.step (nesting : Nesting) : Lexeme → Option Nesting
  | .leaf token => some { nesting with tokens := token :: nesting.tokens }
  | .opening delimiter => some ⟨(delimiter, nesting.tokens) :: nesting.enclosing, []⟩
  | .closing delimiter =>
      match nesting.enclosing with
      | (opened, before) :: enclosing =>
          if opened = delimiter then
            some ⟨enclosing, .group delimiter nesting.tokens.reverse :: before⟩
          else none
      | [] => none

/-- The tokens of a text; none if a character belongs to no token or a bracket has no
partner. -/
def Token.listOfText? (text : List Char) : Option (List Token) := do
  let lexemes ← allLexemes? [] (text.length + 1) text
  let nesting ← lexemes.foldlM Nesting.step ⟨[], []⟩
  if nesting.enclosing.isEmpty then some nesting.tokens.reverse else none

end MappingPlan.Derive
