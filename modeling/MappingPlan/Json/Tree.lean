import MappingPlan.Pairs
import MappingPlan.Text.Digits

/-!
# JSON trees

A document is a tree whose objects keep their members in the order in which they
were written.  Numbers are kept as far as a mapping can tell them apart: a whole
number has its value, and a number with a fraction or an exponent, or one too
large for 64 bits, is only known to be such a number.

The text of an object may repeat a key.  `Json.settle` applies the usual rule for
that: the key keeps its first place and takes its last value.
-/

namespace MappingPlan

inductive Json where
  | null
  | bool (value : Bool)
  | integer (value : Int)
  | fraction
  | string (text : String)
  | array (items : List Json)
  | object (members : List (String × Json))
  deriving Inhabited, Repr

namespace Json

def string? : Json → Option String
  | .string text => some text
  | _ => none

def members? : Json → Option (List (String × Json))
  | .object members => some members
  | _ => none

def int64? : Json → Option Int64
  | .integer value =>
      if -2 ^ 63 ≤ value ∧ value < 2 ^ 63 then some (Int64.ofInt value) else none
  | _ => none

def member? (key : String) : Json → Option Json
  | .object members => members.lookup key
  | _ => none

mutual

/-- The tree with no repeated keys that a written tree stands for. -/
def settle : Json → Json
  | .array items => .array (settleItems items)
  | .object members => .object (Pairs.collect (settleValues members))
  | .null => .null
  | .bool value => .bool value
  | .integer value => .integer value
  | .fraction => .fraction
  | .string text => .string text

def settleItems : List Json → List Json
  | [] => []
  | item :: rest => item.settle :: settleItems rest

def settleValues : List (String × Json) → List (String × Json)
  | [] => []
  | (key, value) :: rest => (key, value.settle) :: settleValues rest

end

theorem sizeOf_lt_of_mem_members {members : List (String × Json)} {key : String} {node : Json}
    (hmem : (key, node) ∈ members) :
    sizeOf node < sizeOf (Json.object members) := by
  have hlist := List.sizeOf_lt_of_mem hmem
  simp only [Prod.mk.sizeOf_spec] at hlist
  simp only [Json.object.sizeOf_spec]
  omega

theorem mem_of_member?_eq_some {members : List (String × Json)} {key : String} {node : Json}
    (hlookup : (Json.object members).member? key = some node) :
    (key, node) ∈ members := by
  simp only [member?] at hlookup
  induction members with
  | nil => simp at hlookup
  | cons member rest ih =>
      obtain ⟨name, value⟩ := member
      rw [List.lookup_cons] at hlookup
      split at hlookup
      · rename_i hkey
        simp only [beq_iff_eq] at hkey
        simp_all
      · exact List.mem_cons_of_mem _ (ih hlookup)

theorem sizeOf_member?_lt {tree node : Json} {key : String}
    (hlookup : tree.member? key = some node) :
    sizeOf node < sizeOf tree := by
  cases tree with
  | object members =>
      exact sizeOf_lt_of_mem_members (mem_of_member?_eq_some hlookup)
  | _ => simp [member?] at hlookup

end Json

end MappingPlan
