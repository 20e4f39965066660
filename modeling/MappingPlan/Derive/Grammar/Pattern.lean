import MappingPlan.Derive.Grammar.Member
import MappingPlan.Derive.Grammar.Type

/-!
# Reading patterns

A pattern is a name, a literal, a range, or a path with patterns for what it holds.
Alternatives are joined by bars.
-/

namespace MappingPlan.Derive

namespace Reading

def patternBeginnings (tokens : List Token) : List Wanted :=
  [.identifier, .mark "::", .mark "<", .mark "_", .literal, .mark "const", .mark "ref",
    .mark "mut", .mark "&", .group .parenthesis, .group .bracket] ++
    (if Ahead.sign ".." tokens then [] else [.mark ".."]) ++ [.mark "const"]

def rangeEndBeginnings : List Wanted :=
  [.literal, .identifier, .mark "::", .mark "<", .mark "self", .mark "Self", .mark "super",
    .mark "crate", .mark "const"]

def beginsPathPattern (tokens : List Token) : Bool :=
  let second := tokens.drop 1
  (Ahead.name tokens &&
      (Ahead.sign "::" second || Ahead.sign "!" second || Ahead.group .brace second ||
        Ahead.group .parenthesis second || Ahead.sign ".." second)) ||
    (Ahead.word ["self"] tokens && Ahead.sign "::" second) ||
    Ahead.sign "::" tokens || Ahead.sign "<" tokens ||
    Ahead.word ["Self", "super", "crate"] tokens

def endsRangePattern (tokens : List Token) : Bool :=
  tokens.isEmpty || Ahead.sign "|" tokens || Ahead.sign "=" tokens ||
    (Ahead.sign ":" tokens && !Ahead.sign "::" tokens) || Ahead.sign "," tokens ||
    Ahead.sign ";" tokens || Ahead.word ["if"] tokens

/-- Takes the sign of a range; whether the upper end may be missing.  Three points are
the old sign of a closed range in patterns. -/
def rangeSign (points : Bool) : Reading Bool := do
  if ← sign? "..=" then return false
  else if ← sees (Ahead.sign "...") then
    if points then
      sign "..."
      return false
    else expected [.mark "..="]
  else
    sign ".."
    return true

def beginsAlternative (tokens : List Token) : Bool :=
  Ahead.sign "|" tokens && !Ahead.sign "||" tokens && !Ahead.sign "|=" tokens

variable (g : Grammar)

def alternatives : Reading PatternForm := do
  let led ← sign? "|"
  let first ← g.pattern
  let more ← whileSees beginsAlternative (do sign "|"; g.pattern) g.fuel
  return if led || !more.isEmpty then .other else first

def rangePatternEnd? : Reading Bool := do
  if ← sees endsRangePattern then return false
  else if ← sees Ahead.literal then
    moveTo ((Ahead.afterLiteral? (← get).rest).getD [])
    return true
  else if ← sees beginsPath then
    discard <| qualifiedPath g false
    return true
  else if ← word? ["const"] then
    attributedBlock g
    return true
  else expected rangeEndBeginnings

def rangePattern : Reading PatternForm := do
  let openEnded ← rangeSign true
  if ← rangePatternEnd? g then return .other
  else if openEnded then return .openRange
  else expected [.rangeEnd]

def openRangePattern : Reading PatternForm := do
  let openEnded ← rangeSign false
  if ← rangePatternEnd? g then return .openRange
  else if openEnded then return .rest
  else expected [.rangeEnd]

def literalPattern : Reading PatternForm := do
  discard <| rangePatternEnd? g
  if ← sees (Ahead.sign "..") then rangePattern g else return .other

def fieldPattern : Reading Unit := do
  let boxed ← word? ["box"]
  let referred ← word? ["ref"]
  let mutable ← word? ["mut"]
  if boxed || referred || mutable then discard name
  else
    let named ← member
    if (← sees (Ahead.sign ":")) || !named then
      sign ":"
      discard <| alternatives g

/-- The members that a struct pattern names, after which two points stand for the
others. -/
def fieldPatterns : Nat → Reading Unit
  | 0 => exhausted
  | fuel + 1 => do
      unless ← atEnd do
        discard <| attributes g
        unless ← sign? ".." do
          fieldPattern g
          unless ← atEnd do
            sign ","
            fieldPatterns fuel

def pathPattern : Reading PatternForm := do
  let path ← qualifiedPath g false
  if (← macroCall? path).isSome then return .other
  else if ← sees (Ahead.group .brace) then
    inside .brace (fieldPatterns g g.fuel)
    return .other
  else if ← sees (Ahead.group .parenthesis) then
    discard <| inside .parenthesis (g.list (alternatives g))
    return .other
  else if ← sees (Ahead.sign "..") then rangePattern g
  else return .other

def namePattern : Reading PatternForm := do
  discard <| word? ["ref"]
  discard <| word? ["mut"]
  unless ← word? ["self"] do discard name
  if ← sign? "@" then discard g.pattern
  return .other

def slicePatternElement : Reading Unit := do
  if (← alternatives g) = .openRange then throw .openRangeInSlice

def patternPhrase : Reading PatternForm := do
  if ← sees beginsPathPattern then pathPattern g
  else if ← word? ["_"] then return .other
  else if ← word? ["box"] then
    discard g.pattern
    return .other
  else if (← sees (Ahead.sign "-")) || (← sees Ahead.literal) ||
      (← sees (Ahead.word ["const"])) then literalPattern g
  else if (← sees (Ahead.word ["ref", "mut", "self"])) || (← sees Ahead.name) then
    namePattern g
  else if ← sign? "&" then
    discard <| word? ["mut"]
    discard g.pattern
    return .other
  else if ← sees (Ahead.group .parenthesis) then
    discard <| inside .parenthesis (g.list (alternatives g))
    return .other
  else if ← sees (Ahead.group .bracket) then
    discard <| inside .bracket (g.list (slicePatternElement g))
    return .other
  else if (← sees (Ahead.sign "..")) && !(← sees (Ahead.sign "...")) then openRangePattern g
  else expected (patternBeginnings (← get).rest)

end Reading

end MappingPlan.Derive
