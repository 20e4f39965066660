import MappingPlan.Text.Split

/-!
# Configuration paths

A path addresses a node of a document by the keys that lead to it, joined with
`:`.  The root has the empty path, and so has a child of the root under the empty
key; segments leave empty keys out.
-/

namespace MappingPlan

structure ConfigPath where
  text : String
  deriving DecidableEq, Repr

namespace ConfigPath

def separator : Char := ':'

def root : ConfigPath := ⟨""⟩

def isRoot (path : ConfigPath) : Bool :=
  path.text.isEmpty

def child (path : ConfigPath) (key : String) : ConfigPath :=
  if path.isRoot then ⟨key⟩ else ⟨path.text ++ ":" ++ key⟩

def descend (path : ConfigPath) (keys : List String) : ConfigPath :=
  keys.foldl child path

def segments (path : ConfigPath) : List String :=
  (Text.split separator path.text).filter fun segment => !segment.isEmpty

def display (path : ConfigPath) : String :=
  if path.isRoot then "<root>" else path.text

/-- Whether a key holds the separator, so that its path would look nested. -/
def hasSeparator (key : String) : Bool :=
  key.toList.contains separator

@[simp] theorem root_child (key : String) : root.child key = ⟨key⟩ := by
  simp [child, root, isRoot]

@[simp] theorem descend_nil (path : ConfigPath) : path.descend [] = path := rfl

@[simp] theorem descend_cons (path : ConfigPath) (key : String) (keys : List String) :
    path.descend (key :: keys) = (path.child key).descend keys := rfl

theorem descend_append (path : ConfigPath) (before after : List String) :
    path.descend (before ++ after) = (path.descend before).descend after := by
  simp [descend]

end ConfigPath

end MappingPlan
