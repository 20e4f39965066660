import MappingPlan.Plan.Cache

/-!
# The compiler

A compiler reads the declared format of a section, compiles the mapping, and keeps
one plan per key.  What it does is said twice.  The `fresh` functions compile a
section from nothing; the others look into the cache first, and answer with the
cache as it is afterwards.  A plan found under the key is returned without looking
at the mapping again.
-/

namespace MappingPlan

structure Compiler where
  resolver : Resolver
  coercions : Coercions := {}
  /-- condenses the declared names of a mapping -/
  digest : List UInt8 → List UInt8 := id

namespace Compiler

def binder (compiler : Compiler) : Binder :=
  ⟨compiler.resolver, compiler.coercions⟩

def rowKey (compiler : Compiler) (event record : ShapeId) (node : Section) :
    Result PlanKey := do
  OutputFormat.requireRows node
  let names ← RowMapping.columnNames node
  return ⟨event, record, node.path, .rows, compiler.digest (nameBytes names)⟩

def documentKey (compiler : Compiler) (event record : ShapeId) (node : Section) :
    Result PlanKey := do
  let children ← node.children
  return ⟨event, record, node.path, .json, compiler.digest (nameBytes (children.map Prod.fst))⟩

def freshRows (compiler : Compiler) (event record : ShapeId) (node : Section) :
    Result RowPlan := do
  let mapping ← RowMapping.ofSection node
  RowPlan.compile compiler.binder ⟨event, record, none⟩ mapping

def freshDocument (compiler : Compiler) (event record : ShapeId) (node : Section) :
    Result DocumentPlan := do
  let spec ← ObjectSpec.ofSection node
  DocumentPlan.compile compiler.binder ⟨event, record, none⟩ spec

def planFor (key : Result PlanKey) (compile : PlanKey → Result CachedPlan)
    (cache : PlanCache) : Result CachedPlan × PlanCache :=
  match key with
  | .error error => (.error error, cache)
  | .ok key => cache.getOrCompile key fun cache => (compile key, cache)

def compileRows (compiler : Compiler) (event record : ShapeId) (node : Section)
    (cache : PlanCache) : Result (Shared RowPlan) × PlanCache :=
  let (found, cache) := planFor (compiler.rowKey event record node)
    (fun key => (compiler.freshRows event record node).map fun plan => .rows ⟨key, plan⟩) cache
  let plan := do
    match ← found with
    | .rows shared => return shared
    | .document _ => node.invalid .otherFormatCached
  (plan, cache)

def compileDocument (compiler : Compiler) (event record : ShapeId) (node : Section)
    (cache : PlanCache) : Result (Shared DocumentPlan) × PlanCache :=
  let (found, cache) := planFor (compiler.documentKey event record node)
    (fun key =>
      (compiler.freshDocument event record node).map fun plan => .document ⟨key, plan⟩) cache
  let plan := do
    match ← found with
    | .document shared => return shared
    | .rows _ => node.invalid .otherFormatCached
  (plan, cache)

/-- Compiles a mapping as its format asks.  Only a mapping that gives rows stands on its
own. -/
def compileMapping (compiler : Compiler) (event record : ShapeId) (node : Section)
    (cache : PlanCache) : Result (Shared RowPlan) × PlanCache :=
  match OutputFormat.ofSection node with
  | .error error => (.error error, cache)
  | .ok .rows => compiler.compileRows event record node cache
  | .ok .json =>
      (.error (.unsupportedFormat (node.path.child "format") OutputFormat.json.name), cache)

/-- The source of a single field reference.  Such sources are not cached. -/
def compileField (compiler : Compiler) (event record : ShapeId) (node : Section) :
    Result ValueSource := do
  let reference ← FieldRef.ofSection node
  compiler.binder.scalar ⟨event, record, none⟩ reference none node.path

end Compiler

end MappingPlan
