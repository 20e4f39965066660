import MappingPlan.Derive.Grammar.Struct
import MappingPlan.Derive.Naming

/-!
# Deriving a shape from a struct

A struct becomes a shape with one field per named field.  Attributes named `shape`
steer this: on the struct they choose a naming convention, on a field they rename
it, mark it as a list or as an object, or leave it out.  All other attributes are
passed over.

Each field is judged by itself, up to its first fault; the shape fails with the
faults of all its bad fields, in order.
-/

namespace MappingPlan.Derive

inductive Fault where
  | malformed (fault : SyntaxFault)
  | genericStruct
  | fieldsNotNamed
  | repeatedRenameAll
  | unknownStructItem
  | unknownRule
  | unknownFieldItem
  | secondKind
  | expectedArguments
  | expectedParentheses
  deriving DecidableEq, Repr

def Fault.message : Fault → String
  | .malformed fault => fault.message
  | .genericStruct => "Shape cannot be derived for generic structs"
  | .fieldsNotNamed => "Shape can only be derived for structs with named fields"
  | .repeatedRenameAll => "duplicate `rename_all`"
  | .unknownStructItem => "unknown shape attribute; expected `rename_all`"
  | .unknownRule =>
      "unknown rename rule; expected one of " ++
        Text.joinWith ", " (NamingRule.all.map NamingRule.name)
  | .unknownFieldItem =>
      "unknown shape attribute; expected `rename`, `items`, `object` or `skip`"
  | .secondKind => "a field can be `items` or `object`, not both"
  | .expectedArguments => "expected attribute arguments in parentheses: #[shape(...)]"
  | .expectedParentheses => "expected parentheses: #[shape(...)]"

inductive Kind where
  | scalar
  | items
  | object
  deriving DecidableEq, Repr

def Kind.name : Kind → String
  | scalar => "scalar"
  | items => "items"
  | object => "object"

structure Field where
  ident : String
  name : String
  kind : Kind
  nullable : Bool
  deriving DecidableEq, Repr

structure Shape where
  ident : String
  fields : List Field
  deriving DecidableEq, Repr

def attributePath : String := "shape"

/-- The items of an attribute, which have to stand in parentheses. -/
def Attribute.items (attr : Attribute) : Except Fault (List AttributeItem) :=
  match attr.form with
  | .list items => .ok items
  | .bare => .error .expectedArguments
  | .assigned => .error .expectedParentheses

def AttributeValue.string? : Option AttributeValue → Except Fault String
  | none => .error (.malformed (.expected [.mark "="] false))
  | some (.string text) => .ok text
  | some .other => .error (.malformed (.expected [.stringLiteral] false))
  | some .missing => .error (.malformed (.expected [.stringLiteral] true))

def AttributeValue.absent : Option AttributeValue → Except Fault Unit
  | none => .ok ()
  | some _ => .error (.malformed (.expected [.mark ","] false))

def foldItems {σ : Type} (step : σ → AttributeItem → Except Fault σ) (initial : σ)
    (attributes : List Attribute) : Except Fault σ :=
  (attributes.filter fun attr => attr.path == attributePath).foldlM
    (fun state attr => do (← attr.items).foldlM step state) initial

def structItem (rule : Option NamingRule) : AttributeItem → Except Fault (Option NamingRule)
  | .broken fault => .error (.malformed fault)
  | .entry key value => do
      if key = "rename_all" then
        if rule.isSome then .error .repeatedRenameAll
        else
          match NamingRule.ofName? (← AttributeValue.string? value) with
          | some rule => return some rule
          | none => .error .unknownRule
      else .error .unknownStructItem

structure Marks where
  rename : Option String := none
  kind : Kind := .scalar
  skip : Bool := false
  deriving DecidableEq, Repr

/-- The marks with a kind, which may be set once. -/
def Marks.setKind (marks : Marks) (kind : Kind) : Except Fault Marks :=
  if marks.kind = .scalar then .ok { marks with kind := kind } else .error .secondKind

def fieldItem (marks : Marks) : AttributeItem → Except Fault Marks
  | .broken fault => .error (.malformed fault)
  | .entry key value => do
      if key = "rename" then
        return { marks with rename := some (← AttributeValue.string? value) }
      else if key = "items" then
        let marks ← marks.setKind .items
        AttributeValue.absent value
        return marks
      else if key = "object" then
        let marks ← marks.setKind .object
        AttributeValue.absent value
        return marks
      else if key = "skip" then
        AttributeValue.absent value
        return { marks with skip := true }
      else .error .unknownFieldItem

def bareName (ident : String) : String :=
  match ident.toList with
  | 'r' :: '#' :: rest => String.ofList rest
  | _ => ident

def registeredName (rule : Option NamingRule) (rename : Option String) (ident : String) :
    String :=
  match rename, rule with
  | some name, _ => name
  | none, some rule => rule.apply (bareName ident)
  | none, none => bareName ident

def Field.ofStructField (rule : Option NamingRule) (field : StructField) :
    Except Fault (Option Field) := do
  let marks ← foldItems fieldItem {} field.attributes
  if marks.skip then return none
  else
    return some {
      ident := field.ident
      name := registeredName rule marks.rename field.ident
      kind := marks.kind
      nullable := field.type.isOption }

def collectFields (rule : Option NamingRule) :
    List StructField → Except (List Fault) (List Field)
  | [] => .ok []
  | field :: rest =>
      match Field.ofStructField rule field, collectFields rule rest with
      | .ok first, .ok others => .ok (first.toList ++ others)
      | .ok _, .error faults => .error faults
      | .error fault, .ok _ => .error [fault]
      | .error fault, .error faults => .error (fault :: faults)

def Shape.ofStruct (decl : StructDecl) : Except (List Fault) Shape :=
  if decl.isGeneric then .error [.genericStruct]
  else
    match decl.body with
    | .tuple | .unit => .error [.fieldsNotNamed]
    | .named fields =>
        match foldItems structItem none decl.attributes with
        | .error fault => .error [fault]
        | .ok rule => (collectFields rule fields).map fun fields => ⟨decl.ident, fields⟩

def Shape.ofText (text : String) : Except (List Fault) Shape :=
  match StructDecl.parse text with
  | .error fault => .error [.malformed fault]
  | .ok decl => Shape.ofStruct decl

def describe (faults : List Fault) : String :=
  Text.joinWith "\n" (faults.map Fault.message)

end MappingPlan.Derive
