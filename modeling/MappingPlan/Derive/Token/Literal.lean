import MappingPlan.Derive.Token.Basic
import MappingPlan.Text.Digits
import MappingPlan.Text.Property.Identifier

/-!
# Reading literals

Strings are read with their escapes resolved; of the other literals only their end is
looked for.  A literal may have a name right behind it, a suffix that gives its type.
-/

namespace MappingPlan.Derive

inductive Quotation where
  | characters
  | bytes
  | terminated
  deriving DecidableEq, Repr

namespace Quotation

def admits (quotation : Quotation) (c : Char) : Bool :=
  match quotation with
  | characters => true
  | bytes => c.toNat < 128
  | terminated => c != '\x00'

def admitsEscape (quotation : Quotation) (code : Nat) : Bool :=
  quotation != terminated || code != 0

def codePoint? (digits value : Nat) : List Char → Option (Nat × List Char)
  | [] => none
  | c :: rest =>
      if c = '\x7d' then
        if 0 < digits ∧ value.isValidChar then some (value, rest) else none
      else if c = '_' then
        if 0 < digits then codePoint? digits value rest else none
      else do
        let digit ← Text.hexValue? c
        if digits = 6 then none else codePoint? (digits + 1) (value * 16 + digit) rest

def escape? (quotation : Quotation) : List Char → Option (Nat × List Char)
  | 'n' :: rest => some ('\n'.toNat, rest)
  | 'r' :: rest => some ('\r'.toNat, rest)
  | 't' :: rest => some ('\t'.toNat, rest)
  | '\\' :: rest => some ('\\'.toNat, rest)
  | '\'' :: rest => some ('\''.toNat, rest)
  | '"' :: rest => some ('"'.toNat, rest)
  | '0' :: rest => some (0, rest)
  | 'x' :: high :: low :: rest => do
      let code := (← Text.hexValue? high) * 16 + (← Text.hexValue? low)
      if quotation = characters ∧ 128 ≤ code then none else some (code, rest)
  | 'u' :: '\x7b' :: rest => if quotation = bytes then none else codePoint? 0 0 rest
  | _ => none

/-- The text after a line end within a string, and after the blanks that follow it. -/
def afterLineEnd? : List Char → Option (List Char)
  | [] => none
  | '\r' :: '\n' :: rest => afterLineEnd? rest
  | '\r' :: _ => none
  | c :: rest => if c = ' ' ∨ c = '\t' ∨ c = '\n' then afterLineEnd? rest else some (c :: rest)

/-- The rest of a string and the text after its closing quote.  What was read of the
string comes last first. -/
def bodyAfter? (quotation : Quotation) (read : List Char) :
    Nat → List Char → Option (List Char × List Char)
  | 0, _ | _, [] => none
  | fuel + 1, c :: rest =>
      if c = '"' then some (read.reverse, rest)
      else if c = '\\' then
        match rest with
        | '\n' :: rest | '\r' :: '\n' :: rest => do
            bodyAfter? quotation read fuel (← afterLineEnd? rest)
        | _ => do
            let (code, rest) ← quotation.escape? rest
            if quotation.admitsEscape code then
              bodyAfter? quotation (Char.ofNat code :: read) fuel rest
            else none
      else if c = '\r' then
        match rest with
        | '\n' :: rest => bodyAfter? quotation ('\n' :: read) fuel rest
        | _ => none
      else if quotation.admits c then bodyAfter? quotation (c :: read) fuel rest
      else none

def body? (quotation : Quotation) (text : List Char) : Option (List Char × List Char) :=
  bodyAfter? quotation [] (text.length + 1) text

/-- The rest of a raw string that a quote and some number signs close. -/
def rawBodyAfter? (quotation : Quotation) (marks : Nat) (read : List Char) :
    List Char → Option (List Char × List Char)
  | [] => none
  | '\r' :: '\n' :: rest => rawBodyAfter? quotation marks ('\n' :: '\r' :: read) rest
  | '\r' :: _ => none
  | c :: rest =>
      if c = '"' ∧ rest.take marks = List.replicate marks '#' then
        some (read.reverse, rest.drop marks)
      else if quotation.admits c then rawBodyAfter? quotation marks (c :: read) rest
      else none

def maxRawMarks : Nat := 255

def rawBody? (quotation : Quotation) (text : List Char) : Option (List Char × List Char) :=
  let marks := (text.takeWhile (· == '#')).length
  match text.drop marks with
  | '"' :: rest =>
      if marks ≤ maxRawMarks then rawBodyAfter? quotation marks [] rest else none
  | _ => none

def afterOne? (quotation : Quotation) : List Char → Option (List Char)
  | [] => none
  | c :: rest => do
      let rest ←
        if c = '\\' then (quotation.escape? rest).map Prod.snd
        else if quotation.admits c then some rest
        else none
      match rest with
      | '\'' :: rest => some rest
      | _ => none

end Quotation

def spanName? : List Char → Option (List Char × List Char)
  | [] => none
  | c :: rest =>
      if Text.isNameStart c then
        some (c :: rest.takeWhile Text.isNameContinue, rest.dropWhile Text.isNameContinue)
      else none

def afterSuffix (text : List Char) : List Char :=
  ((spanName? text).map Prod.snd).getD text

/-- What was read of a number, last character first, and the text after it. -/
structure PartialNumber where
  read : List Char
  rest : List Char

namespace PartialNumber

def takeWhile (test : Char → Bool) (read : List Char) : List Char → PartialNumber
  | [] => ⟨read, []⟩
  | c :: rest => if test c then takeWhile test (c :: read) rest else ⟨read, c :: rest⟩

/-- Reads the suffix of a number, which ends where a name would. -/
def suffix? (number : PartialNumber) : Option PartialNumber :=
  let whole :=
    if number.rest.head?.any Text.isNameStart then
      takeWhile Text.isNameContinue number.read number.rest
    else number
  if whole.rest.head?.any Text.isNameContinue then none else some whole

def isDigitOrMark (c : Char) : Bool :=
  c.isDigit || c == '_'

/-- Reads an exponent, when it has a digit. -/
def exponent? (signed valued : Bool) (read : List Char) : List Char → Option PartialNumber
  | [] => if valued then some ⟨read, []⟩ else none
  | c :: rest =>
      if c.isDigit then exponent? signed true (c :: read) rest
      else if c = '_' then exponent? signed valued (c :: read) rest
      else if (c = '+' ∨ c = '-') ∧ !valued then
        if signed then none else exponent? true valued (c :: read) rest
      else if valued then some ⟨read, c :: rest⟩
      else none

def fraction? (text : List Char) : Option PartialNumber := do
  let whole := takeWhile isDigitOrMark [] text
  let (pointed, number) ←
    match whole.rest with
    | '.' :: rest =>
        if rest.head?.any fun c => c == '.' || Text.isNameStart c then none
        else some (true, takeWhile isDigitOrMark ('.' :: whole.read) rest)
    | _ => some (false, whole)
  let unscaled := if pointed then some number else none
  match number.rest with
  | 'e' :: digits => exponent? false false ('e' :: number.read) digits <|> unscaled
  | 'E' :: digits => exponent? false false ('E' :: number.read) digits <|> unscaled
  | _ => unscaled

/-- Reads the digits of a whole number.  A decimal digit that is too large for the base
makes it invalid; a letter that is ends it. -/
def digits? (base : Nat) (started : Bool) (read : List Char) : List Char → Option PartialNumber
  | [] => if started then some ⟨read, []⟩ else none
  | c :: rest =>
      if c = '_' then
        if !started ∧ base = 10 then none else digits? base started (c :: read) rest
      else
        match Text.hexValue? c with
        | some digit =>
            if digit < base then digits? base true (c :: read) rest
            else if c.isDigit then none
            else if started then some ⟨read, c :: rest⟩
            else none
        | none => if started then some ⟨read, c :: rest⟩ else none

end PartialNumber

def baseOf : List Char → Nat × List Char
  | '0' :: 'x' :: rest => (16, rest)
  | '0' :: 'o' :: rest => (8, rest)
  | '0' :: 'b' :: rest => (2, rest)
  | rest => (10, rest)

def numberOfText? (text : List Char) : Option (String × List Char) :=
  let (base, digits) := baseOf text
  let mark := if base = 10 then [] else (text.take 2).reverse
  let number :=
    (PartialNumber.fraction? text).bind PartialNumber.suffix? <|>
      (PartialNumber.digits? base false mark digits).bind PartialNumber.suffix?
  number.map fun number => (String.ofList number.read.reverse, number.rest)

def Literal.ofBody (body : List Char × List Char) : Literal × List Char :=
  (.string (String.ofList body.1), afterSuffix body.2)

def Literal.otherBefore (rest : List Char) : Literal × List Char :=
  (.other, afterSuffix rest)

def Literal.ofText? (text : List Char) : Option (Literal × List Char) :=
  match text with
  | '"' :: rest => (Quotation.characters.body? rest).map Literal.ofBody
  | 'r' :: rest => (Quotation.characters.rawBody? rest).map Literal.ofBody
  | 'b' :: '"' :: rest => (Quotation.bytes.body? rest).map (otherBefore ·.2)
  | 'b' :: 'r' :: rest => (Quotation.bytes.rawBody? rest).map (otherBefore ·.2)
  | 'c' :: '"' :: rest => (Quotation.terminated.body? rest).map (otherBefore ·.2)
  | 'c' :: 'r' :: rest => (Quotation.terminated.rawBody? rest).map (otherBefore ·.2)
  | 'b' :: '\'' :: rest => (Quotation.bytes.afterOne? rest).map otherBefore
  | '\'' :: rest => (Quotation.characters.afterOne? rest).map otherBefore
  | c :: _ =>
      if c.isDigit then (numberOfText? text).map fun (digits, rest) => (.number digits, rest)
      else none
  | [] => none

end MappingPlan.Derive
