import MappingPlan.Text.Digits
import MappingPlan.Text.Property.Printable

/-!
# Quoted text

Listings, summaries and generated code show a text between double quotes with
every character legible: the usual control characters have short escapes, other
characters that do not stand alone are spelled by their code point, and the rest
are written as they are.
-/

namespace MappingPlan.Text

def codePointEscape (c : Char) : List Char :=
  ['\\', 'u', '\x7b'] ++ hexDigits c.toNat ++ ['\x7d']

def quotedChar (c : Char) : List Char :=
  if c = '\x00' then ['\\', '0']
  else if c = '\t' then ['\\', 't']
  else if c = '\r' then ['\\', 'r']
  else if c = '\n' then ['\\', 'n']
  else if c = '\\' then ['\\', '\\']
  else if c = '"' then ['\\', '"']
  else if standsAlone c then [c]
  else codePointEscape c

def quoted (text : String) : String :=
  String.ofList ('"' :: text.toList.flatMap quotedChar ++ ['"'])

/-- A text as a literal of generated code.  A null character before an octal
digit takes its two-digit form, so that the pair cannot be misread. -/
def literalChars : List Char → List Char
  | [] => []
  | c :: rest =>
      let written :=
        match rest with
        | next :: _ =>
            if c = '\x00' ∧ '0' ≤ next ∧ next ≤ '7' then ['\\', 'x', '0', '0']
            else quotedChar c
        | [] => quotedChar c
      written ++ literalChars rest

def quotedLiteral (text : String) : String :=
  String.ofList ('"' :: literalChars text.toList ++ ['"'])

end MappingPlan.Text
