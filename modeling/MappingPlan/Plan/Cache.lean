import MappingPlan.Plan.Row

/-!
# The plan cache

A plan is kept under a key that tells which mapping it was compiled from: the event
and record shapes, the path of the section, the output format and a digest of the
declared names.  The content of the mapping is not part of the key.

Plans are never replaced.  Compiling can itself use the cache, so a key that was
missing before is looked up again afterwards, and the plan that came first stays.
-/

namespace MappingPlan

/-- The bytes that are digested for a list of names: each name, then a zero. -/
def nameBytes (names : List String) : List UInt8 :=
  names.flatMap fun name => name.toUTF8.data.toList ++ [0]

structure PlanKey where
  event : ShapeId
  record : ShapeId
  path : ConfigPath
  format : OutputFormat
  signature : List UInt8
  deriving DecidableEq, Repr

/-- A plan with the key that it was compiled under.  A compiler compiles a key at
most once, so two plans with one origin are one plan. -/
structure Shared (α : Type) where
  origin : PlanKey
  plan : α
  deriving DecidableEq, Repr

inductive CachedPlan where
  | rows (shared : Shared RowPlan)
  | document (shared : Shared DocumentPlan)
  deriving DecidableEq, Repr

def CachedPlan.origin : CachedPlan → PlanKey
  | rows shared => shared.origin
  | document shared => shared.origin

structure PlanCache where
  entries : List (PlanKey × CachedPlan)

namespace PlanCache

def empty : PlanCache := ⟨[]⟩

def size (cache : PlanCache) : Nat :=
  cache.entries.length

def isEmpty (cache : PlanCache) : Bool :=
  cache.entries.isEmpty

def get? (cache : PlanCache) (key : PlanKey) : Option CachedPlan :=
  cache.entries.lookup key

def insert (cache : PlanCache) (key : PlanKey) (plan : CachedPlan) : PlanCache :=
  ⟨(key, plan) :: cache.entries⟩

/-- The plan under a key, compiled if it is missing.  A plan that the compilation
itself put under the key is kept; a failure puts nothing there. -/
def getOrCompile (cache : PlanCache) (key : PlanKey)
    (compile : PlanCache → Result CachedPlan × PlanCache) : Result CachedPlan × PlanCache :=
  match cache.get? key with
  | some plan => (.ok plan, cache)
  | none =>
      match compile cache with
      | (.error error, cache) => (.error error, cache)
      | (.ok plan, cache) =>
          match cache.get? key with
          | some existing => (.ok existing, cache)
          | none => (.ok plan, cache.insert key plan)

@[simp] theorem get?_insert_self (cache : PlanCache) (key : PlanKey) (plan : CachedPlan) :
    (cache.insert key plan).get? key = some plan := by
  simp [insert, get?]

theorem get?_insert_of_ne {key other : PlanKey} (hne : other ≠ key) (cache : PlanCache)
    (plan : CachedPlan) :
    (cache.insert key plan).get? other = cache.get? other := by
  have hother : (other == key) = false := by simpa using hne
  simp [insert, get?, List.lookup_cons, hother]

end PlanCache

end MappingPlan
