import MappingPlan.Derive.Grammar.Expression
import MappingPlan.Derive.Grammar.Generics

/-!
# Reading signatures

A signature is words that say how a function is called, its name, its generic parameters
and its parameters.  The first parameter may be the receiver, the last may stand for any
number.
-/

namespace MappingPlan.Derive

inductive ParameterForm where
  | receiver
  | variadic
  | typed
  deriving DecidableEq, Repr

namespace Ahead

def afterWord (text : String) (tokens : List Token) : List Token :=
  if word [text] tokens then tokens.drop 1 else tokens

def afterConvention (tokens : List Token) : List Token :=
  if word ["extern"] tokens then
    match tokens.drop 1 with
    | .literal (.string _) :: rest => rest
    | rest => rest
  else tokens

/-- Whether a signature comes next, which in a foreign block may say that it is safe. -/
def signature (foreign : Bool) (tokens : List Token) : Bool :=
  let called := afterWord "async" (afterWord "const" tokens)
  let guarded :=
    if foreign && word ["safe"] called then called.drop 1 else afterWord "unsafe" called
  word ["fn"] (afterConvention guarded)

end Ahead

namespace Reading

variable (g : Grammar)

def receiver : Reading Unit := do
  let borrowed ← sign? "&"
  if borrowed && (← sees Ahead.lifetime) then lifetime
  discard <| word? ["mut"]
  word "self"
  unless borrowed do
    if ← sign? ":" then g.anyType

def functionParameter : Reading ParameterForm := do
  if (← attempt? (receiver g)).isSome then return .receiver
  else if ← sees fun tokens => Ahead.name tokens && Ahead.sign "<" (tokens.drop 1) then
    g.anyType
    return .typed
  else
    discard g.pattern
    sign ":"
    if ← sign? "..." then return .variadic
    g.anyType
    return .typed

def functionParameters (first received : Bool) : Nat → Reading Unit
  | 0 => exhausted
  | fuel + 1 => do
      unless ← atEnd do
        discard <| attributes g
        let form ← if ← sign? "..." then pure .variadic else functionParameter g
        if form = .receiver then
          if received then throw .secondReceiver
          else if !first then throw .lateReceiver
        unless ← atEnd do
          sign ","
          unless form = .variadic do
            functionParameters false (received || form == .receiver) fuel

def signature (foreign : Bool) : Reading Unit := do
  discard <| word? ["const"]
  discard <| word? ["async"]
  let guarded ← word? ["unsafe"]
  if foreign && !guarded then discard <| word? ["safe"]
  discard convention?
  word "fn"
  discard name
  discard <| generics g
  insideThen .parenthesis (functionParameters g true false g.fuel) fun _ => do
    result g true
    discard <| conditions? g

end Reading

end MappingPlan.Derive
