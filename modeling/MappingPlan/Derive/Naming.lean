import MappingPlan.Text.CaseMapping
import MappingPlan.Text.Split

/-!
# Naming conventions

A name falls into words: at every character that is neither a letter nor a number,
between a small and a capital letter, and before the last capital of a run that a
small letter follows.  Numbers belong to the word they stand in.  A convention says
how the words are written and joined; two conventions only change the case of the
name as a whole.
-/

namespace MappingPlan

inductive NamingRule where
  | pascal
  | camel
  | snake
  | screamingSnake
  | kebab
  | lower
  | upper
  deriving DecidableEq, Repr

namespace NamingRule

def all : List NamingRule := [pascal, camel, snake, screamingSnake, kebab, lower, upper]

/-- The name of a convention, written in that convention where it can be. -/
def name : NamingRule → String
  | pascal => "PascalCase"
  | camel => "camelCase"
  | snake => "snake_case"
  | screamingSnake => "SCREAMING_SNAKE_CASE"
  | kebab => "kebab-case"
  | lower => "lowercase"
  | upper => "UPPERCASE"

def ofName? (name : String) : Option NamingRule :=
  all.find? fun rule => rule.name == name

/-- The case of the last letter of a word that has one. -/
inductive LastCase where
  | none
  | small
  | capital
  deriving DecidableEq, Repr

/-- The words of a run of letters and numbers, after the characters of a word that
has begun, last first. -/
def wordsFrom (last : LastCase) (begun : List Char) : List Char → List (List Char)
  | [] => if begun.isEmpty then [] else [begun.reverse]
  | [c] => [(c :: begun).reverse]
  | c :: next :: rest =>
      let current :=
        if Text.isLowercase c then .small
        else if Text.isUppercase c then .capital
        else last
      if current = .small ∧ Text.isUppercase next then
        (c :: begun).reverse :: wordsFrom .none [] (next :: rest)
      else if last = .capital ∧ Text.isUppercase c ∧ Text.isLowercase next then
        begun.reverse :: wordsFrom .none [c] (next :: rest)
      else wordsFrom current (c :: begun) (next :: rest)

def runs : List Char → List (List Char)
  | [] => [[]]
  | c :: rest =>
      if Text.isAlphanumeric c then
        match runs rest with
        | [] => [[c]]
        | run :: others => (c :: run) :: others
      else [] :: runs rest

def words (name : List Char) : List (List Char) :=
  (runs name).flatMap (wordsFrom .none [])

/-- A word in small letters; a capital sigma at its end becomes final. -/
def smallWord : List Char → List Char
  | [] => []
  | [c] => if c = 'Σ' then ['ς'] else Text.toSmall c
  | c :: rest => Text.toSmall c ++ smallWord rest

def capitalWord (word : List Char) : List Char :=
  word.flatMap Text.toCapital

def titleWord : List Char → List Char
  | [] => []
  | c :: rest => Text.toCapital c ++ smallWord rest

def apply (rule : NamingRule) (name : String) : String :=
  let words := words name.toList
  let written : List Char :=
    match rule with
    | pascal => words.flatMap titleWord
    | camel =>
        match words with
        | [] => []
        | first :: others => smallWord first ++ others.flatMap titleWord
    | snake => ['_'].intercalate (words.map smallWord)
    | screamingSnake => ['_'].intercalate (words.map capitalWord)
    | kebab => ['-'].intercalate (words.map smallWord)
    | lower => Text.lowercase name.toList
    | upper => Text.uppercase name.toList
  String.ofList written

end NamingRule

end MappingPlan
