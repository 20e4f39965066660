import MappingPlan.Derive.Grammar.Item

/-!
# Reading statements

A block holds bindings, items and expressions.  An expression that does not end with a
block needs a semicolon after it, unless it is the last.
-/

namespace MappingPlan.Derive

namespace Reading

inductive MacroStatement where
  | item
  /-- a macro with braces that is a statement by itself -/
  | block
  deriving DecidableEq, Repr

/-- What the tokens after a path make of it as a macro. -/
def macroStatement? (tokens : List Token) : Option MacroStatement :=
  let second := tokens.drop 1
  let third := tokens.drop 2
  let selects :=
    (Ahead.sign "." third && !Ahead.sign ".." third) || Ahead.sign "?" third
  if !Ahead.sign "!" tokens then none
  else if Ahead.name second || Ahead.word ["try"] second then some .item
  else if Ahead.group .brace second && !selects then some .block
  else none

def beginsStaticItem (tokens : List Token) : Bool :=
  let second := tokens.drop 1
  Ahead.word ["static"] tokens && (Ahead.word ["mut"] second || Ahead.name second)

/-- Whether the word for a constant begins an item, and no closure or block. -/
def beginsConstantItem (tokens : List Token) : Bool :=
  let second := tokens.drop 1
  Ahead.word ["const"] tokens &&
    !(Ahead.group .brace second || Ahead.word ["static", "move"] second ||
      Ahead.sign "|" second ||
      (Ahead.word ["async"] second &&
        !Ahead.word ["unsafe", "extern", "fn"] (tokens.drop 2)))

def beginsItem (tokens : List Token) : Bool :=
  let second := tokens.drop 1
  Ahead.word
      ["pub", "extern", "use", "fn", "mod", "type", "struct", "enum", "trait", "impl", "macro"]
      tokens ||
    (Ahead.word ["crate"] tokens && !Ahead.sign "::" second) || beginsStaticItem tokens ||
    beginsConstantItem tokens ||
    (Ahead.word ["unsafe"] tokens && !Ahead.group .brace second) ||
    (Ahead.word ["async"] tokens && Ahead.word ["unsafe", "extern", "fn"] second) ||
    (Ahead.word ["union"] tokens && Ahead.name second) ||
    (Ahead.word ["auto"] tokens && Ahead.word ["trait"] second) ||
    (Ahead.word ["default"] tokens && Ahead.word ["unsafe", "impl"] second)

def endsInBrace (tokens rest : List Token) : Bool :=
  Ahead.group .brace (tokens.drop (tokens.length - rest.length - 1))

variable (g : Grammar)

/-- A binding.  Its value may have a block for when it does not match the pattern, and
then must not end with a block itself. -/
def binding : Reading Unit := do
  word "let"
  discard g.pattern
  if ← sign? ":" then g.anyType
  if ← sign? "=" then
    let start := (← get).rest
    g.expression true
    if ← sees (Ahead.word ["else"]) then
      unless endsInBrace start (← get).rest do
        word "else"
        block g
  sign ";"

/-- A statement; whether it has come to its end. -/
def statement : Reading Bool := do
  discard <| attributes g
  let named ← lookAhead do
    match ← attempt? (plainPath g.fuel) with
    | some _ => return macroStatement? (← get).rest
    | none => return none
  match named with
  | some .block =>
      discard <| plainPath g.fuel
      sign "!"
      discard anyGroup
      discard <| sign? ";"
      return true
  | some .item =>
      g.read .item
      return true
  | none =>
      if ← sees (Ahead.word ["let"]) then
        binding g
        return true
      else if ← sees beginsItem then
        g.read .item
        return true
      else
        let form ← g.read .standing
        let ended ← sign? ";"
        return ended || form == .block || form == .macroBlock

def statementsFrom : Nat → Reading Unit
  | 0 => exhausted
  | fuel + 1 => do
      discard <| whileSees (Ahead.sign ";") (sign ";") g.fuel
      unless ← atEnd do
        let ended ← statement g
        unless ← atEnd do
          unless ended do throw .unendedStatement
          statementsFrom fuel

end Reading

end MappingPlan.Derive
