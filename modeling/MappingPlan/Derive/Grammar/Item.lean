import MappingPlan.Derive.Grammar.Field
import MappingPlan.Derive.Grammar.Signature

/-!
# Reading items

Items are what a module holds: functions, imports, constants, types, traits and their
implementations, and macros.  Foreign blocks, traits and implementations hold items of
fewer kinds.
-/

namespace MappingPlan.Derive

/-- The conditions on an associated type: before its definition, after it, or in one of
both places. -/
inductive ConditionPlace where
  | before
  | after
  | either
  deriving DecidableEq, Repr

namespace Reading

def macroBeginnings : List Wanted :=
  [.identifier, .mark "self", .mark "super", .mark "crate", .mark "::"]

def beginsMacro (tokens : List Token) : Bool :=
  Ahead.name tokens || Ahead.word ["self", "super", "crate"] tokens || Ahead.sign "::" tokens

def beginsCall (tokens : List Token) : Bool :=
  Ahead.sign "!" (tokens.drop 1)

/-- Fails because none of some keywords stands at the cursor.  One that does stand there
but means something else is not asked for. -/
def expectedWord {α : Type} (words : List String) (others : List Wanted) : Reading α := do
  let tokens := (← get).rest
  let missing := words.filter fun text => !Ahead.word [text] tokens
  expected (missing.map .mark ++ others)

def constantName (others : List String) : Reading Unit := do
  if (← sees Ahead.name) || (← sees (Ahead.word ["_"])) then discard anyName
  else expected ([.identifier, .mark "_"] ++ others.map .mark)

variable (g : Grammar)

def functionBody (optional : Bool) : Reading Unit := do
  unless optional && (← sign? ";") do attributedBlock g

def constantRest : Reading Unit := do
  discard <| generics g
  sign ":"
  g.anyType
  if ← sign? "=" then g.expression true
  discard <| conditions? g
  sign ";"

def staticItem : Reading Unit := do
  word "static"
  discard <| word? ["mut"]
  discard name
  if ← sign? "=" then
    g.expression true
    sign ";"
  else
    sign ":"
    g.anyType
    unless ← sign? ";" do
      sign "="
      g.expression true
      sign ";"

/-- A type with bounds, conditions and a definition, any of which may be missing. -/
def typeItem (place : ConditionPlace) : Reading Unit := do
  word "type"
  discard name
  discard <| generics g
  if ← sign? ":" then
    let ends := sees fun tokens =>
      Ahead.word ["where"] tokens || Ahead.sign "=" tokens || Ahead.sign ";" tokens
    discard <| separated "+" ends (bound g .condition) g.fuel
  let conditioned ← if place = .after then pure false else conditions? g
  if ← sign? "=" then g.anyType
  unless place = .before || conditioned do discard <| conditions? g
  sign ";"

def enumItem : Reading Unit := do
  word "enum"
  discard name
  discard <| generics g
  discard <| conditions? g
  discard <| inside .brace (g.list (variantField g))

def unionItem : Reading Unit := do
  word "union"
  discard name
  discard <| generics g
  discard <| conditions? g
  discard <| g.read .fields

/-- A macro with its arguments, after which a semicolon stands unless they are in
braces. -/
def macroArguments : Reading Unit := do
  let (delimiter, _) ← anyGroup
  unless delimiter = .brace do sign ";"

def macroItem (named : Bool) : Reading Unit := do
  discard <| plainPath g.fuel
  sign "!"
  if named then
    if (← sees Ahead.name) || (← sees (Ahead.word ["try"])) then discard anyName
  macroArguments

def macroDeclaration : Reading Unit := do
  word "macro"
  discard name
  let applied ← sees (Ahead.group .parenthesis)
  if applied then discard anyGroup
  if ← sees (Ahead.group .brace) then discard anyGroup
  else expected (if applied then [.group .brace] else [.group .parenthesis, .group .brace])

def externCrate : Reading Unit := do
  unless ← word? ["self"] do discard name
  if ← word? ["as"] then
    unless ← word? ["_"] do discard name
  sign ";"

def importsPhrase (rooted : Bool) : Reading Unit := do
  if (← sees Ahead.name) || (← sees (Ahead.word ["self", "super", "crate", "try"])) then
    discard anyName
    if ← sign? "::" then g.read (.imports false)
    else if ← word? ["as"] then
      unless (← sees Ahead.name) || (← sees (Ahead.word ["_"])) do
        expected [.identifier, .underscore]
      discard anyName
  else if ← sign? "*" then return ()
  else if ← sees (Ahead.group .brace) then
    discard <| inside .brace (g.list do
      let root ← if rooted then sign? "::" else pure false
      g.read (.imports (rooted && !root)))
  else
    expected [.identifier, .mark "self", .mark "super", .mark "crate", .mark "try", .mark "*",
      .group .brace]

def useItem : Reading Unit := do
  word "use"
  let root ← sign? "::"
  g.read (.imports !root)
  sign ";"

def foreignItem : Reading Unit := do
  discard <| attributes g
  let visible ← visibility? g
  let guardedStatic ← sees fun tokens =>
    Ahead.word ["unsafe", "safe"] tokens && Ahead.word ["static"] (tokens.drop 1)
  if ← sees (Ahead.signature true) then
    signature g true
    if ← sees (Ahead.group .brace) then attributedBlock g else sign ";"
  else if guardedStatic || (← sees (Ahead.word ["static"])) then
    if guardedStatic then discard anyName
    word "static"
    discard <| word? ["mut"]
    discard name
    sign ":"
    g.anyType
    if ← sign? "=" then g.expression true
    sign ";"
  else if ← sees (Ahead.word ["type"]) then typeItem g .either
  else if !visible && (← sees beginsMacro) then macroItem g false
  else expectedWord ["fn", "static", "type"] (if visible then [] else macroBeginnings)

/-- A block of foreign items, which has no visibility. -/
def foreignBlock (visible : Bool) : Reading Unit := do
  if visible then throw (.expected [.mark "extern"] false)
  discard <| word? ["unsafe"]
  word "extern"
  discard string?
  inside .brace do
    innerAttributes g
    untilEnd (foreignItem g) g.fuel

def externItem (visible : Bool) : Reading Unit := do
  let block ← lookAhead do
    word "extern"
    if ← sees (Ahead.word ["crate"]) then return false
    else if ← sees (Ahead.group .brace) then return true
    else if ← string? then
      unless ← sees (Ahead.group .brace) do expected [.group .brace]
      return true
    else expected [.mark "crate", .group .brace, .stringLiteral]
  if block then foreignBlock g visible
  else
    word "extern"
    word "crate"
    externCrate

def moduleItem : Reading Unit := do
  discard <| word? ["unsafe"]
  word "mod"
  if ← sees (Ahead.word ["try"]) then discard anyName else discard name
  if ← sign? ";" then return ()
  else if ← sees (Ahead.group .brace) then
    inside .brace do
      innerAttributes g
      untilEnd (do discard <| attributes g; g.read .item) g.fuel
  else expected [.mark ";", .group .brace]

def traitItem : Reading Unit := do
  discard <| attributes g
  let visible ← visibility? g
  let defaulted ← word? ["default"]
  let constantNext ← sees (Ahead.word ["const"])
  let functionNext ← sees fun tokens =>
    Ahead.signature false tokens ||
      (constantNext && Ahead.word ["async", "unsafe", "extern", "fn"] (tokens.drop 1))
  if functionNext then
    signature g false
    if ← sees (Ahead.group .brace) then attributedBlock g
    else unless ← sign? ";" do expected [.group .brace, .mark ";"]
  else if constantNext then
    word "const"
    constantName ["async", "unsafe", "extern", "fn"]
    constantRest g
  else if ← sees (Ahead.word ["type"]) then typeItem g .after
  else if !visible && !defaulted && (← sees beginsMacro) then macroItem g false
  else
    expectedWord ["fn", "const", "type"] (if visible || defaulted then [] else macroBeginnings)

def traitRest : Reading Unit := do
  if ← sign? ":" then
    let ends := sees fun tokens => Ahead.word ["where"] tokens || Ahead.group .brace tokens
    discard <| separated "+" ends (bound g .condition) g.fuel
  discard <| conditions? g
  inside .brace do
    innerAttributes g
    untilEnd (traitItem g) g.fuel

def traitAlias : Reading Unit := do
  sign "="
  let ends := sees fun tokens => Ahead.word ["where"] tokens || Ahead.sign ";" tokens
  discard <| separated "+" ends (bound g .object) g.fuel
  discard <| conditions? g
  sign ";"

def traitOrAlias : Reading Unit := do
  word "trait"
  discard name
  discard <| generics g
  if (← sees (Ahead.group .brace)) || (← sees (Ahead.sign ":")) ||
      (← sees (Ahead.word ["where"])) then traitRest g
  else if ← sees (Ahead.sign "=") then traitAlias g
  else expected [.group .brace, .mark ":", .mark "where", .mark "="]

def markedTrait : Reading Unit := do
  discard <| word? ["unsafe"]
  discard <| word? ["auto"]
  word "trait"
  discard name
  discard <| generics g
  traitRest g

def implItem : Reading Unit := do
  discard <| attributes g
  let visible ← visibility? g
  let calls ← sees beginsCall
  let defaulted ← if calls then pure false else word? ["default"]
  let words := (if defaulted then [] else ["default"]) ++ ["fn", "const", "type"]
  if ← sees (Ahead.signature false) then
    signature g false
    functionBody g true
  else if ← word? ["const"] then
    constantName []
    constantRest g
  else if ← sees (Ahead.word ["type"]) then typeItem g .after
  else if !visible && !defaulted && (← sees beginsMacro) then macroItem g false
  else expectedWord words (if visible || defaulted then [] else macroBeginnings)

/-- Implementations of a trait, which may be denied, or of a type alone. -/
def implBlock : Reading Unit := do
  discard <| word? ["default"]
  discard <| word? ["unsafe"]
  word "impl"
  if ← sees beginsParameters then discard <| generics g
  let constant ← sees fun tokens =>
    Ahead.word ["const"] tokens ||
      (Ahead.sign "?" tokens && Ahead.word ["const"] (tokens.drop 1))
  if constant then
    discard <| sign? "?"
    word "const"
  let negative ← sees fun tokens =>
    Ahead.sign "!" tokens && !Ahead.group .brace (tokens.drop 1)
  if negative then sign "!"
  g.anyType
  if ← word? ["for"] then g.anyType
  else if negative then throw .negativeInherent
  discard <| conditions? g
  inside .brace do
    innerAttributes g
    untilEnd (implItem g) g.fuel

/-- An item that begins with the word for unsafe and is no function. -/
def unsafeItem (visible : Bool) : Reading Unit := do
  let after := (← get).rest.drop 1
  if Ahead.word ["trait"] after ||
      (Ahead.word ["auto"] after && Ahead.word ["trait"] (after.drop 1)) then markedTrait g
  else if Ahead.word ["impl"] after then implBlock g
  else if Ahead.word ["extern"] after then foreignBlock g visible
  else if Ahead.word ["mod"] after then moduleItem g
  else
    moveTo after
    expectedWord ["trait", "auto", "impl", "extern", "mod"] []

def itemPhrase : Reading Unit := do
  let visible ← visibility? g
  let tokens := (← get).rest
  let second := tokens.drop 1
  if Ahead.signature false tokens then
    signature g false
    functionBody g true
  else if Ahead.word ["extern"] tokens then externItem g visible
  else if Ahead.word ["use"] tokens then useItem g
  else if Ahead.word ["static"] tokens then staticItem g
  else if ← word? ["const"] then
    constantName []
    constantRest g
  else if Ahead.word ["unsafe"] tokens then unsafeItem g visible
  else if Ahead.word ["mod"] tokens then moduleItem g
  else if Ahead.word ["type"] tokens then typeItem g .before
  else if Ahead.word ["struct"] tokens then discard <| structFrom g []
  else if Ahead.word ["enum"] tokens then enumItem g
  else if Ahead.word ["union"] tokens && Ahead.name second then unionItem g
  else if Ahead.word ["trait"] tokens then traitOrAlias g
  else if Ahead.word ["auto"] tokens && Ahead.word ["trait"] second then markedTrait g
  else if Ahead.word ["impl"] tokens ||
      (Ahead.word ["default"] tokens && !beginsCall tokens) then implBlock g
  else if Ahead.word ["macro"] tokens then macroDeclaration
  else if !visible && beginsMacro tokens then macroItem g true
  else
    expectedWord ["fn", "extern", "use", "static", "const", "unsafe", "mod", "type", "struct",
      "enum", "union", "trait", "auto", "impl", "default", "macro"]
      (if visible then [] else macroBeginnings)

end Reading

end MappingPlan.Derive
