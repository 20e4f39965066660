import MappingPlan.Derive.Token.Basic
import MappingPlan.Text.Split

/-!
# Syntax faults

Why a text is not a struct declaration.  Most faults name what could have stood at a
place; at the end of the text or of a group the message says so.
-/

namespace MappingPlan.Derive

inductive Wanted where
  | mark (text : String)
  | identifier
  | anyName
  | underscore
  | integer
  | unsuffixedInteger
  | integerLiteral
  | literal
  | lifetime
  | stringLiteral
  | expression
  | labelled
  | rangeEnd
  | group (delimiter : Delimiter)
  | anyGroup
  | pathSegment
  | item
  deriving DecidableEq, Repr

def Delimiter.describe : Delimiter → String
  | parenthesis => "parentheses"
  | bracket => "square brackets"
  | brace => "curly braces"

def Wanted.describe : Wanted → String
  | mark text => "`" ++ text ++ "`"
  | identifier => "identifier"
  | anyName => "ident"
  | underscore => "underscore"
  | integer => "integer"
  | unsuffixedInteger => "unsuffixed integer"
  | integerLiteral => "integer literal"
  | literal => "literal"
  | lifetime => "lifetime"
  | stringLiteral => "string literal"
  | expression => "an expression"
  | labelled => "loop or block expression"
  | rangeEnd => "range upper bound"
  | group delimiter => delimiter.describe
  | anyGroup => "delimiter"
  | pathSegment => "path segment after `::`"
  | item => "nested attribute"

inductive AfterCast where
  | await
  | methodCall
  | field
  | question
  | index
  | call
  deriving DecidableEq, Repr

def AfterCast.describe : AfterCast → String
  | await => "`.await`"
  | methodCall => "a method call"
  | field => "a field access"
  | question => "`?`"
  | index => "indexing"
  | call => "a function call"

inductive SyntaxFault where
  | notTokens
  /-- none of some alternatives, of which there may be none at all -/
  | expected (wanted : List Wanted) (atEnd : Bool)
  | keyword (word : String)
  | leftover (group : Option Delimiter)
  | unendedStatement
  | objectWithoutTrait
  | implWithoutTrait
  | parametersAfterWhere
  | constantTrait
  | maybeConstantTrait
  | misplacedCapture
  | quantifiedOptionalTrait
  | literalAsItem
  | signAsItem
  | nestedAttribute
  | attributesOnRange
  | chainedComparison
  | castFollowed (what : AfterCast)
  | bareBreakLabel
  | negativeIndex
  | hugeIndex
  | openRangeInSlice
  | secondReceiver
  | lateReceiver
  | negativeInherent
  deriving DecidableEq, Repr

def describeWanted : List Wanted → String
  | [first] => first.describe
  | [first, second] => first.describe ++ " or " ++ second.describe
  | wanted => "one of: " ++ Text.joinWith ", " (wanted.map Wanted.describe)

def SyntaxFault.message : SyntaxFault → String
  | notTokens => "cannot parse string into token stream"
  | expected [] atEnd => if atEnd then "unexpected end of input" else "unexpected token"
  | expected wanted atEnd =>
      (if atEnd then "unexpected end of input, " else "") ++ "expected " ++ describeWanted wanted
  | keyword word => "expected identifier, found keyword `" ++ word ++ "`"
  | leftover none => "unexpected token"
  | leftover (some group) =>
      "unexpected token, expected `" ++ String.singleton group.closing ++ "`"
  | unendedStatement => "unexpected token, expected `;`"
  | objectWithoutTrait => "at least one trait is required for an object type"
  | implWithoutTrait => "at least one trait must be specified"
  | parametersAfterWhere =>
      "generic parameters on `where` clauses are reserved for future use"
  | constantTrait => "`const` is not allowed here"
  | maybeConstantTrait => "`[const]` is not allowed here"
  | misplacedCapture => "`use<...>` precise capturing syntax is not allowed here"
  | quantifiedOptionalTrait =>
      "`for<...>` binder not allowed with `?` trait polarity modifier"
  | literalAsItem => "unexpected literal in nested attribute, expected ident"
  | signAsItem => "unexpected token in nested attribute, expected ident"
  | nestedAttribute => "unexpected attribute inside of attribute"
  | attributesOnRange =>
      "attributes are not allowed on range expressions starting with `..`"
  | chainedComparison => "comparison operators cannot be chained"
  | castFollowed what => "casts cannot be followed by " ++ what.describe
  | bareBreakLabel => "parentheses required"
  | negativeIndex => "invalid digit found in string"
  | hugeIndex => "number too large to fit in target type"
  | openRangeInSlice =>
      "range pattern is not allowed unparenthesized inside slice pattern"
  | secondReceiver => "unexpected second method receiver"
  | lateReceiver => "unexpected method receiver"
  | negativeInherent => "inherent impls cannot be negative"

end MappingPlan.Derive
