import MappingPlan.Error

/-!
# Documents and sections

A document is a JSON tree.  A section is a node of it together with the path at
which it stands; the path goes into every error about the node.  Keys that hold
the path separator are never looked up and never listed, because the path of such
a child could be read as that of a deeper node.
-/

namespace MappingPlan

structure Section where
  path : ConfigPath
  node : Json

structure Document where
  root : Json

namespace Section

def get? (self : Section) (key : String) : Option Section :=
  if ConfigPath.hasSeparator key then none
  else (self.node.member? key).map fun node => ⟨self.path.child key, node⟩

def follow? (self : Section) (keys : List String) : Option Section :=
  keys.foldlM get? self

def find (self : Section) (path : String) : Result Section :=
  match self.follow? (ConfigPath.segments ⟨path⟩) with
  | some found => .ok found
  | none => .error (.missingSection (self.path.child path))

def invalid {α : Type} (self : Section) (fault : MappingFault) : Result α :=
  .error (.invalid self.path fault)

def require (self : Section) (key : String) : Result Section :=
  match self.get? key with
  | some child => .ok child
  | none => .error (.missingKey self.path key)

def text (self : Section) (fault : MappingFault) : Result String :=
  match self.node.string? with
  | some text => .ok text
  | none => self.invalid fault

def requireString (self : Section) (key : String) : Result String := do
  let child ← self.require key
  child.text .notAString

def optionalString (self : Section) (key : String) : Result (Option String) :=
  match self.get? key with
  | none => .ok none
  | some child => (child.text .notAString).map some

def children (self : Section) : Result (List (String × Section)) :=
  match self.node.members? with
  | none => self.invalid .notAnObject
  | some members =>
      members.mapM fun (key, node) =>
        if ConfigPath.hasSeparator key then self.invalid (.separatorInKey key)
        else .ok (key, ⟨self.path.child key, node⟩)

/-- Refuses the first child whose key is not allowed. -/
def checkKeys (self : Section) (allowed : List String) : Result Unit := do
  let children ← self.children
  children.forM fun (key, child) =>
    if allowed.contains key then .ok () else child.invalid (.unexpectedKey key allowed)

theorem sizeOf_get?_lt {self child : Section} {key : String}
    (hget : self.get? key = some child) :
    sizeOf child.node < sizeOf self.node := by
  unfold get? at hget
  split at hget
  · simp at hget
  · simp only [Option.map_eq_some_iff] at hget
    obtain ⟨node, hnode, rfl⟩ := hget
    exact Json.sizeOf_member?_lt hnode

end Section

namespace Document

/-- The document that a text writes.  The source only names it in errors. -/
def parse (source text : String) : Result Document :=
  match Json.readStrict text with
  | .ok root => .ok ⟨root⟩
  | .error (.malformed fault) => .error (.malformed source fault)
  | .error (.refused refusal) =>
      let path := ConfigPath.root.descend refusal.enclosing
      match refusal.fault with
      | .separator => .error (.invalid path (.separatorInKey refusal.key))
      | .repeated => .error (.invalid (path.child refusal.key) (.repeatedKey refusal.key))

def rootSection (document : Document) : Section :=
  ⟨.root, document.root⟩

def find (document : Document) (path : String) : Result Section :=
  document.rootSection.find path

end Document

end MappingPlan
