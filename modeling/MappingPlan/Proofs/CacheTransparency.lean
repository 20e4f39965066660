import MappingPlan.Proofs.FaultPlaces
import MappingPlan.Proofs.FreshPlan
import MappingPlan.Proofs.Lookup
import MappingPlan.Proofs.PathAddress

/-!
# Transparency of the plan cache

One compiler answers a list of calls, each about a section of one document that a path
leads to.  The key of a plan holds neither the content of the section nor more than a
digest of its names, but within one document the path alone decides which section it is.
So a plan that is found is the plan that would be compiled, and every answer is that of a
compiler that has not been used before.

The invariant is about the cache between two calls: no key is entered twice, and what is
under a key is the fresh plan of a section that has this key.
-/

namespace MappingPlan

/-! ## Calls -/

/-- The ways to use a compiler. -/
inductive Request where
  | mapping
  | rows
  | document
  | field
  | table
  | index
  deriving DecidableEq, Repr

structure Call where
  request : Request
  event : ShapeId
  record : ShapeId
  path : String
  deriving DecidableEq, Repr

inductive Answer where
  | rows (shared : Shared RowPlan)
  | document (shared : Shared DocumentPlan)
  | field (source : ValueSource)
  | table (target : TableTarget)
  | index (target : IndexTarget)
  deriving DecidableEq, Repr

/-- The plan in an answer that a cache may hold. -/
def Answer.cached? : Answer → Option CachedPlan
  | rows shared => some (.rows shared)
  | document shared => some (.document shared)
  | field _ => none
  | table target => some (.rows target.plan)
  | index target => some (.document target.body)

namespace Compiler

variable (compiler : Compiler)

def answerAt (call : Call) (node : Section) (cache : PlanCache) : Result Answer × PlanCache :=
  match call.request with
  | .mapping =>
      let (plan, cache) := compiler.compileMapping call.event call.record node cache
      (plan.map .rows, cache)
  | .rows =>
      let (plan, cache) := compiler.compileRows call.event call.record node cache
      (plan.map .rows, cache)
  | .document =>
      let (plan, cache) := compiler.compileDocument call.event call.record node cache
      (plan.map .document, cache)
  | .field => ((compiler.compileField call.event call.record node).map .field, cache)
  | .table =>
      let (target, cache) := TableTarget.compile compiler call.event call.record node cache
      (target.map .table, cache)
  | .index =>
      let (target, cache) := IndexTarget.compile compiler call.event call.record node cache
      (target.map .index, cache)

def answer (document : Document) (call : Call) (cache : PlanCache) :
    Result Answer × PlanCache :=
  match document.find call.path with
  | .error error => (.error error, cache)
  | .ok node => compiler.answerAt call node cache

/-- The answers to calls in turn, and the cache after them. -/
def run (document : Document) : List Call → PlanCache → List (Result Answer) × PlanCache
  | [], cache => ([], cache)
  | call :: rest, cache =>
      let (first, cache) := compiler.answer document call cache
      let (others, cache) := run document rest cache
      (first :: others, cache)

/-- The key that a call about a section looks up. -/
def keyAt? (call : Call) (node : Section) : Option PlanKey :=
  match call.request with
  | .mapping | .rows | .table => (compiler.rowKey call.event call.record node).toOption
  | .document => (compiler.documentKey call.event call.record node).toOption
  | .field => none
  | .index =>
      (node.get? "fields").bind fun fields =>
        (compiler.documentKey call.event call.record fields).toOption

def key? (document : Document) (call : Call) : Option PlanKey :=
  (document.find call.path).toOption.bind (compiler.keyAt? call)

end Compiler

theorem IndexTarget.get?_of_parts {compiler : Compiler} {event record : ShapeId}
    {node fields : Section} {index : String} {id : ValueSource}
    (hparts : parts compiler event record node = .ok (index, id, fields)) :
    node.get? "fields" = some fields := by
  simp only [parts, Outcome.bind_eq_ok_iff, Outcome.pure_eq_ok_iff, Prod.mk.injEq] at hparts
  obtain ⟨_, _, _, _, _, _, _, _, _, hfields, _, _, rfl⟩ := hparts
  exact Section.require_eq_ok_iff.mp hfields

/-! ## Keeping plans -/

namespace PlanCache

variable (cache : PlanCache)

def keys : List PlanKey :=
  cache.entries.map Prod.fst

/-- The cache with a plan under its own key, unless the key has a plan already. -/
def keep (plan : CachedPlan) : PlanCache :=
  if (cache.get? plan.origin).isSome then cache else cache.insert plan.origin plan

def keepAnswer : Result Answer → PlanCache
  | .ok answer => answer.cached?.elim cache cache.keep
  | .error _ => cache

theorem isSome_get?_iff {key : PlanKey} : (cache.get? key).isSome ↔ key ∈ cache.keys := by
  rw [get?, List.lookup_isSome_iff, keys, List.mem_map]
  constructor
  · rintro ⟨entry, hmem, hkey⟩
    exact ⟨entry, hmem, (by simpa using hkey : key = entry.1).symm⟩
  · rintro ⟨entry, hmem, rfl⟩
    exact ⟨entry, hmem, by simp⟩

theorem mem_keys_keep (plan : CachedPlan) {key : PlanKey} :
    key ∈ (cache.keep plan).keys ↔ key ∈ cache.keys ∨ plan.origin = key := by
  unfold keep
  split
  next hfound =>
    rw [isSome_get?_iff] at hfound
    exact ⟨Or.inl, fun h => h.elim id fun heq => heq ▸ hfound⟩
  next => simp [keys, insert, or_comm, eq_comm]

theorem mem_keys_keepAnswer (answer : Result Answer) {key : PlanKey} :
    key ∈ (cache.keepAnswer answer).keys ↔
      key ∈ cache.keys ∨
        ∃ given, answer = .ok given ∧ given.cached?.map CachedPlan.origin = some key := by
  cases answer with
  | error error => simp [keepAnswer]
  | ok given =>
      cases hcached : given.cached? with
      | none => simp [keepAnswer, hcached]
      | some plan => simp [keepAnswer, hcached, mem_keys_keep]

end PlanCache

namespace Compiler

/-- All that can happen when a plan is wanted: nothing is made, or the plan is found, or it is
made and entered. -/
theorem planFor_cases (wanted : Result PlanKey) (compile : PlanKey → Result CachedPlan)
    (cache : PlanCache) :
    (∃ error, (wanted >>= compile) = .error error ∧
        planFor wanted compile cache = (.error error, cache)) ∨
      ∃ key plan, wanted = .ok key ∧
        ((cache.get? key = some plan ∧ planFor wanted compile cache = (.ok plan, cache)) ∨
          (compile key = .ok plan ∧
            planFor wanted compile cache = (.ok plan, cache.insert key plan))) := by
  cases wanted with
  | error error => exact .inl ⟨error, rfl, rfl⟩
  | ok key =>
      rw [planFor, PlanCache.getOrCompile]
      cases hget : cache.get? key with
      | some kept => exact .inr ⟨key, kept, rfl, .inl ⟨hget, rfl⟩⟩
      | none =>
          cases hcompile : compile key with
          | error error => exact .inl ⟨error, hcompile, rfl⟩
          | ok compiled => exact .inr ⟨key, compiled, rfl, .inr ⟨hcompile, by simp only [hget]⟩⟩

theorem planFor_eq_of_found {key : Result PlanKey} {compile : PlanKey → Result CachedPlan}
    {cache : PlanCache}
    (horigin : ∀ found plan, compile found = .ok plan → plan.origin = found)
    (hfound : ∀ found plan, key = .ok found → cache.get? found = some plan →
      compile found = .ok plan) :
    planFor key compile cache =
      (key >>= compile,
        match key >>= compile with
        | .ok plan => cache.keep plan
        | .error _ => cache) := by
  cases key with
  | error error => rfl
  | ok found =>
      have hbind : (Except.ok found >>= compile) = compile found := rfl
      rw [hbind, planFor, PlanCache.getOrCompile]
      cases hget : cache.get? found with
      | some plan =>
          have hcompile := hfound found plan rfl hget
          simp [hcompile, PlanCache.keep, horigin found plan hcompile, hget]
      | none =>
          cases hcompile : compile found with
          | error error => rfl
          | ok plan => simp [PlanCache.keep, horigin found plan hcompile, hget]

/-! ## Keys and fresh plans -/

section Formats

variable (compiler : Compiler) (format : OutputFormat) (event record : ShapeId)
  (node : Section)

def keyFor : Result PlanKey :=
  match format with
  | .rows => compiler.rowKey event record node
  | .json => compiler.documentKey event record node

/-- The plan that an unused compiler gives. -/
def freshPlan : Result CachedPlan :=
  match format with
  | .rows => (compiler.compileRows event record node .empty).1.map .rows
  | .json => (compiler.compileDocument event record node .empty).1.map .document

end Formats

variable {compiler : Compiler} {format : OutputFormat} {event record : ShapeId}
  {node : Section}

theorem of_keyFor_eq_ok {key : PlanKey}
    (hkey : compiler.keyFor format event record node = .ok key) :
    key.format = format ∧ key.event = event ∧ key.record = record ∧ key.path = node.path := by
  cases format with
  | rows =>
      simp only [keyFor, rowKey, Outcome.bind_eq_ok_iff, Outcome.pure_eq_ok_iff] at hkey
      obtain ⟨_, _, _, _, rfl⟩ := hkey
      exact ⟨rfl, rfl, rfl, rfl⟩
  | json =>
      simp only [keyFor, documentKey, Outcome.bind_eq_ok_iff, Outcome.pure_eq_ok_iff] at hkey
      obtain ⟨_, _, rfl⟩ := hkey
      exact ⟨rfl, rfl, rfl, rfl⟩

theorem keyFor_of_freshPlan {plan : CachedPlan}
    (hplan : compiler.freshPlan format event record node = .ok plan) :
    compiler.keyFor format event record node = .ok plan.origin := by
  cases format with
  | rows =>
      cases hrows : (compiler.compileRows event record node .empty).1 with
      | error error => simp [freshPlan, hrows, Except.map] at hplan
      | ok shared =>
          simp only [freshPlan, hrows, Except.map, Except.ok.injEq] at hplan
          rw [← hplan]
          exact (compileRows_empty_eq_ok_iff.mp hrows).1
  | json =>
      cases hdocument : (compiler.compileDocument event record node .empty).1 with
      | error error => simp [freshPlan, hdocument, Except.map] at hplan
      | ok shared =>
          simp only [freshPlan, hdocument, Except.map, Except.ok.injEq] at hplan
          rw [← hplan]
          exact (compileDocument_empty_eq_ok_iff.mp hdocument).1

/-! ## The invariant -/

/-- What the cache of a compiler holds between calls about sections of a document. -/
structure CacheInvariant (compiler : Compiler) (document : Document) (cache : PlanCache) :
    Prop where
  nodup : cache.keys.Nodup
  origin : ∀ key plan, cache.get? key = some plan → plan.origin = key
  fresh : ∀ key plan, cache.get? key = some plan →
    ∃ format event record node, document.Holds node ∧
      compiler.freshPlan format event record node = .ok plan

theorem cacheInvariant_empty (compiler : Compiler) (document : Document) :
    compiler.CacheInvariant document .empty := by
  constructor <;> simp [PlanCache.keys, PlanCache.empty, PlanCache.get?]

namespace CacheInvariant

variable {document : Document} {cache : PlanCache}

/-- Equal keys have equal paths, and so they are keys of one section. -/
theorem freshPlan_of_found (hinvariant : compiler.CacheInvariant document cache)
    (hnode : document.Holds node) {key : PlanKey} {plan : CachedPlan}
    (hkey : compiler.keyFor format event record node = .ok key)
    (hget : cache.get? key = some plan) :
    compiler.freshPlan format event record node = .ok plan := by
  obtain ⟨_, _, _, other, hother, hplan⟩ := hinvariant.fresh key plan hget
  have horigin := hinvariant.origin key plan hget
  obtain ⟨rfl, rfl, rfl, hpath⟩ := of_keyFor_eq_ok hkey
  obtain ⟨hformat, hevent, hrecord, hotherPath⟩ := of_keyFor_eq_ok (keyFor_of_freshPlan hplan)
  obtain rfl := hnode.eq_of_path_eq hother (by rw [← hotherPath, horigin, hpath])
  rwa [← hformat, ← hevent, ← hrecord, horigin] at hplan

theorem compileRows_eq (hinvariant : compiler.CacheInvariant document cache)
    (hnode : document.Holds node) :
    compiler.compileRows event record node cache =
      ((compiler.compileRows event record node .empty).1,
        cache.keepAnswer ((compiler.compileRows event record node .empty).1.map .rows)) := by
  rw [compileRows, planFor_eq_of_found, compileRows_empty]
  · cases hkey : compiler.rowKey event record node with
    | error error => rfl
    | ok key => cases hplan : compiler.freshRows event record node <;> rfl
  · intro key plan hplan
    cases hfresh : compiler.freshRows event record node with
    | error error => simp [hfresh, Except.map] at hplan
    | ok fresh =>
        simp only [hfresh, Except.map, Except.ok.injEq] at hplan
        rw [← hplan, CachedPlan.origin]
  · intro key plan hkey hget
    have hfresh : compiler.freshPlan .rows event record node = .ok plan :=
      hinvariant.freshPlan_of_found hnode hkey hget
    rw [freshPlan, compileRows_empty, hkey] at hfresh
    rw [← hfresh]
    cases compiler.freshRows event record node <;> rfl

theorem compileDocument_eq (hinvariant : compiler.CacheInvariant document cache)
    (hnode : document.Holds node) :
    compiler.compileDocument event record node cache =
      ((compiler.compileDocument event record node .empty).1,
        cache.keepAnswer
          ((compiler.compileDocument event record node .empty).1.map .document)) := by
  rw [compileDocument, planFor_eq_of_found, compileDocument_empty]
  · cases hkey : compiler.documentKey event record node with
    | error error => rfl
    | ok key => cases hplan : compiler.freshDocument event record node <;> rfl
  · intro key plan hplan
    cases hfresh : compiler.freshDocument event record node with
    | error error => simp [hfresh, Except.map] at hplan
    | ok fresh =>
        simp only [hfresh, Except.map, Except.ok.injEq] at hplan
        rw [← hplan, CachedPlan.origin]
  · intro key plan hkey hget
    have hfresh : compiler.freshPlan .json event record node = .ok plan :=
      hinvariant.freshPlan_of_found hnode hkey hget
    rw [freshPlan, compileDocument_empty, hkey] at hfresh
    rw [← hfresh]
    cases compiler.freshDocument event record node <;> rfl

theorem keep (hinvariant : compiler.CacheInvariant document cache)
    (hnode : document.Holds node) {plan : CachedPlan}
    (hplan : compiler.freshPlan format event record node = .ok plan) :
    compiler.CacheInvariant document (cache.keep plan) := by
  unfold PlanCache.keep
  split
  next => exact hinvariant
  next hmissing =>
      have hnew : plan.origin ∉ cache.keys := by
        rw [← PlanCache.isSome_get?_iff]
        simpa using hmissing
      have hget : ∀ key found, (cache.insert plan.origin plan).get? key = some found →
          (plan.origin = key ∧ plan = found) ∨ cache.get? key = some found := by
        intro key found hfound
        by_cases hkey : key = plan.origin
        · subst hkey
          rw [PlanCache.get?_insert_self] at hfound
          exact .inl ⟨rfl, Option.some.inj hfound⟩
        · rw [PlanCache.get?_insert_of_ne hkey] at hfound
          exact .inr hfound
      constructor
      · exact List.nodup_cons.mpr ⟨hnew, hinvariant.nodup⟩
      · intro key found hfound
        rcases hget key found hfound with ⟨rfl, rfl⟩ | hfound
        · rfl
        · exact hinvariant.origin key found hfound
      · intro key found hfound
        rcases hget key found hfound with ⟨_, rfl⟩ | hfound
        · exact ⟨format, event, record, node, hnode, hplan⟩
        · exact hinvariant.fresh key found hfound

end CacheInvariant

/-! ## One call -/

/-- The format is looked at once more when the key is made, so the first look decides
nothing. -/
theorem compileMapping_eq (compiler : Compiler) (event record : ShapeId) (node : Section)
    (cache : PlanCache) :
    compiler.compileMapping event record node cache =
      compiler.compileRows event record node cache := by
  unfold compileMapping
  cases hformat : OutputFormat.ofSection node with
  | error error => simp [compileRows, rowKey, OutputFormat.requireRows, hformat, planFor, bind,
      Except.bind]
  | ok format =>
      cases format with
      | rows => rfl
      | json => simp [compileRows, rowKey, OutputFormat.requireRows, hformat, planFor, bind,
          Except.bind]

namespace CacheInvariant

variable {document : Document} {cache : PlanCache}

theorem answerAt_eq (hinvariant : compiler.CacheInvariant document cache)
    (hnode : document.Holds node) (call : Call) :
    compiler.answerAt call node cache =
      ((compiler.answerAt call node .empty).1,
        cache.keepAnswer (compiler.answerAt call node .empty).1) := by
  obtain ⟨request, event, record, path⟩ := call
  cases request with
  | mapping =>
      simp only [answerAt, compileMapping_eq]
      rw [hinvariant.compileRows_eq hnode]
  | rows =>
      simp only [answerAt]
      rw [hinvariant.compileRows_eq hnode]
  | document =>
      simp only [answerAt]
      rw [hinvariant.compileDocument_eq hnode]
  | field =>
      simp only [answerAt]
      cases compiler.compileField event record node <;> rfl
  | table =>
      simp only [answerAt, TableTarget.compile]
      cases node.requireString "table" with
      | error error => rfl
      | ok table =>
          simp only
          rw [hinvariant.compileRows_eq hnode]
          cases (compiler.compileRows event record node .empty).1 <;> rfl
  | index =>
      simp only [answerAt, IndexTarget.compile]
      cases hparts : IndexTarget.parts compiler event record node with
      | error error => rfl
      | ok parts =>
          obtain ⟨index, id, fields⟩ := parts
          have hfields : document.Holds fields :=
            hnode.get? ⟨by decide, by decide⟩ (IndexTarget.get?_of_parts hparts)
          simp only
          rw [hinvariant.compileDocument_eq hfields]
          cases (compiler.compileDocument event record fields .empty).1 <;> rfl

end CacheInvariant

theorem freshPlan_of_compileRows {shared : Shared RowPlan}
    (hshared : (compiler.compileRows event record node .empty).1 = .ok shared) :
    (compiler.rowKey event record node).toOption = some shared.origin ∧
      compiler.freshPlan .rows event record node = .ok (.rows shared) := by
  have hplan : compiler.freshPlan .rows event record node = .ok (.rows shared) := by
    rw [freshPlan, hshared]
    rfl
  have hkey : compiler.rowKey event record node = .ok shared.origin :=
    keyFor_of_freshPlan hplan
  exact ⟨by rw [hkey]; rfl, hplan⟩

theorem freshPlan_of_compileDocument {shared : Shared DocumentPlan}
    (hshared : (compiler.compileDocument event record node .empty).1 = .ok shared) :
    (compiler.documentKey event record node).toOption = some shared.origin ∧
      compiler.freshPlan .json event record node = .ok (.document shared) := by
  have hplan : compiler.freshPlan .json event record node = .ok (.document shared) := by
    rw [freshPlan, hshared]
    rfl
  have hkey : compiler.documentKey event record node = .ok shared.origin :=
    keyFor_of_freshPlan hplan
  exact ⟨by rw [hkey]; rfl, hplan⟩

/-- The plan in an answer of an unused compiler. -/
theorem fresh_of_answerAt {document : Document} (hnode : document.Holds node) {call : Call}
    {answer : Answer} (hanswer : (compiler.answerAt call node .empty).1 = .ok answer) :
    compiler.keyAt? call node = answer.cached?.map CachedPlan.origin ∧
      ∀ plan, answer.cached? = some plan →
        ∃ format found, document.Holds found ∧
          compiler.freshPlan format call.event call.record found = .ok plan := by
  obtain ⟨request, event, record, path⟩ := call
  cases request with
  | mapping =>
      simp only [answerAt, compileMapping_eq, Outcome.map_eq_ok_iff] at hanswer
      obtain ⟨shared, hshared, rfl⟩ := hanswer
      obtain ⟨hkey, hplan⟩ := freshPlan_of_compileRows hshared
      exact ⟨hkey, fun plan hcached => ⟨_, node, hnode, Option.some.inj hcached ▸ hplan⟩⟩
  | rows =>
      simp only [answerAt, Outcome.map_eq_ok_iff] at hanswer
      obtain ⟨shared, hshared, rfl⟩ := hanswer
      obtain ⟨hkey, hplan⟩ := freshPlan_of_compileRows hshared
      exact ⟨hkey, fun plan hcached => ⟨_, node, hnode, Option.some.inj hcached ▸ hplan⟩⟩
  | document =>
      simp only [answerAt, Outcome.map_eq_ok_iff] at hanswer
      obtain ⟨shared, hshared, rfl⟩ := hanswer
      obtain ⟨hkey, hplan⟩ := freshPlan_of_compileDocument hshared
      exact ⟨hkey, fun plan hcached => ⟨_, node, hnode, Option.some.inj hcached ▸ hplan⟩⟩
  | field =>
      simp only [answerAt, Outcome.map_eq_ok_iff] at hanswer
      obtain ⟨source, _, rfl⟩ := hanswer
      exact ⟨rfl, by simp [Answer.cached?]⟩
  | table =>
      simp only [answerAt, TableTarget.compile, Outcome.map_eq_ok_iff] at hanswer
      obtain ⟨target, htarget, rfl⟩ := hanswer
      cases htable : node.requireString "table" with
      | error error => simp [htable] at htarget
      | ok table =>
          simp only [htable, Outcome.map_eq_ok_iff] at htarget
          obtain ⟨shared, hshared, rfl⟩ := htarget
          obtain ⟨hkey, hplan⟩ := freshPlan_of_compileRows hshared
          exact ⟨hkey, fun plan hcached => ⟨_, node, hnode, Option.some.inj hcached ▸ hplan⟩⟩
  | index =>
      simp only [answerAt, IndexTarget.compile, Outcome.map_eq_ok_iff] at hanswer
      obtain ⟨target, htarget, rfl⟩ := hanswer
      cases hparts : IndexTarget.parts compiler event record node with
      | error error => simp [hparts] at htarget
      | ok parts =>
          obtain ⟨index, id, fields⟩ := parts
          have hfields := IndexTarget.get?_of_parts hparts
          simp only [hparts, Outcome.map_eq_ok_iff] at htarget
          obtain ⟨shared, hshared, rfl⟩ := htarget
          obtain ⟨hkey, hplan⟩ := freshPlan_of_compileDocument hshared
          have hholds : document.Holds fields := hnode.get? ⟨by decide, by decide⟩ hfields
          refine ⟨?_, fun plan hcached =>
            ⟨_, fields, hholds, Option.some.inj hcached ▸ hplan⟩⟩
          rw [keyAt?, hfields]
          exact hkey

open Result (FailsWithin)

theorem compileRows_empty_failsWithin (compiler : Compiler) (event record : ShapeId)
    (node : Section) : FailsWithin node (compiler.compileRows event record node .empty).1 := by
  rw [compileRows_empty]
  exact .bind (compiler.rowKey_failsWithin event record node) fun _ _ =>
    .bind (compiler.freshRows_failsWithin event record node) fun _ _ => .pure _

theorem compileDocument_empty_failsWithin (compiler : Compiler) (event record : ShapeId)
    (node : Section) :
    FailsWithin node (compiler.compileDocument event record node .empty).1 := by
  rw [compileDocument_empty]
  exact .bind (compiler.documentKey_failsWithin event record node) fun _ _ =>
    .bind (compiler.freshDocument_failsWithin event record node) fun _ _ => .pure _

/-- The errors of an unused compiler are about the section, or one in it. -/
theorem answerAt_empty_failsWithin (call : Call) (node : Section) :
    FailsWithin node (compiler.answerAt call node .empty).1 := by
  obtain ⟨request, event, record, path⟩ := call
  have hrows := compiler.compileRows_empty_failsWithin event record node
  cases request with
  | mapping =>
      simp only [answerAt, compileMapping_eq]
      exact .map hrows _
  | rows => exact .map hrows _
  | document => exact .map (compiler.compileDocument_empty_failsWithin event record node) _
  | field => exact .map (compiler.compileField_failsWithin event record node) _
  | table =>
      simp only [answerAt, TableTarget.compile]
      have htable : FailsWithin node (node.requireString "table") :=
        node.requireString_failsWithin (by decide)
      cases hresult : node.requireString "table" with
      | error error => exact .map (.blames (htable error hresult)) _
      | ok table => exact .map (.map hrows _) _
  | index =>
      simp only [answerAt, IndexTarget.compile]
      have hparts := IndexTarget.parts_failsWithin compiler event record node
      cases hresult : IndexTarget.parts compiler event record node with
      | error error => exact .map (.blames (hparts error hresult)) _
      | ok parts =>
          have hfields := IndexTarget.get?_of_parts hresult
          have hbody := compiler.compileDocument_empty_failsWithin event record parts.2.2
          exact .map (.map (.child hfields hbody) _) _

/-! ## Failures -/

theorem compileRows_of_error {cache : PlanCache} {error : CompileError}
    (hfailed : (compiler.compileRows event record node cache).1 = .error error) :
    (compiler.compileRows event record node cache).2 = cache := by
  unfold compileRows planFor PlanCache.getOrCompile at hfailed ⊢
  cases hkey : compiler.rowKey event record node with
  | error error => rfl
  | ok key =>
      simp only [hkey] at hfailed ⊢
      cases hget : cache.get? key with
      | some plan => rfl
      | none =>
          cases hplan : compiler.freshRows event record node with
          | error error => rfl
          | ok plan =>
              simp only [hget, hplan, Except.map] at hfailed
              exact absurd hfailed (Outcome.pure_ne_error _ _)

theorem compileDocument_of_error {cache : PlanCache} {error : CompileError}
    (hfailed : (compiler.compileDocument event record node cache).1 = .error error) :
    (compiler.compileDocument event record node cache).2 = cache := by
  unfold compileDocument planFor PlanCache.getOrCompile at hfailed ⊢
  cases hkey : compiler.documentKey event record node with
  | error error => rfl
  | ok key =>
      simp only [hkey] at hfailed ⊢
      cases hget : cache.get? key with
      | some plan => rfl
      | none =>
          cases hplan : compiler.freshDocument event record node with
          | error error => rfl
          | ok plan =>
              simp only [hget, hplan, Except.map] at hfailed
              exact absurd hfailed (Outcome.pure_ne_error _ _)

theorem answer_of_error {document : Document} {call : Call} {cache : PlanCache}
    {error : CompileError}
    (hfailed : (compiler.answer document call cache).1 = .error error) :
    (compiler.answer document call cache).2 = cache := by
  unfold answer at hfailed ⊢
  cases hfind : document.find call.path with
  | error error => rfl
  | ok node =>
      obtain ⟨request, event, record, path⟩ := call
      simp only [hfind] at hfailed ⊢
      cases request with
      | mapping =>
          simp only [answerAt, compileMapping_eq, Outcome.map_eq_error_iff] at hfailed ⊢
          exact compileRows_of_error hfailed
      | rows =>
          simp only [answerAt, Outcome.map_eq_error_iff] at hfailed ⊢
          exact compileRows_of_error hfailed
      | document =>
          simp only [answerAt, Outcome.map_eq_error_iff] at hfailed ⊢
          exact compileDocument_of_error hfailed
      | field => rfl
      | table =>
          simp only [answerAt, TableTarget.compile, Outcome.map_eq_error_iff] at hfailed ⊢
          cases htable : node.requireString "table" with
          | error error => rfl
          | ok table =>
              simp only [htable, Outcome.map_eq_error_iff] at hfailed ⊢
              exact compileRows_of_error hfailed
      | index =>
          simp only [answerAt, IndexTarget.compile, Outcome.map_eq_error_iff] at hfailed ⊢
          cases hparts : IndexTarget.parts compiler event record node with
          | error error => rfl
          | ok parts =>
              simp only [hparts, Outcome.map_eq_error_iff] at hfailed ⊢
              exact compileDocument_of_error hfailed

/-! ## Runs -/

theorem key?_of_answer {document : Document} {call : Call} {given : Answer}
    (hgiven : (compiler.answer document call .empty).1 = .ok given) :
    compiler.key? document call = given.cached?.map CachedPlan.origin := by
  unfold answer at hgiven
  cases hfind : document.find call.path with
  | error error => simp [hfind] at hgiven
  | ok node =>
      simp only [hfind] at hgiven
      have hkey := (fresh_of_answerAt (Document.holds_of_find hfind) hgiven).1
      simpa [key?, hfind, Except.toOption] using hkey

theorem answer_empty_notMismatched (document : Document) (call : Call) :
    (compiler.answer document call .empty).1.NotMismatched := by
  unfold answer
  cases hfind : document.find call.path with
  | error error =>
      simp only [Document.find, Section.find] at hfind
      split at hfind
      · cases hfind
      · cases hfind
        simp [Result.NotMismatched]
  | ok node => exact (answerAt_empty_failsWithin call node).notMismatched

namespace CacheInvariant

variable {document : Document} {cache : PlanCache}

theorem answer_eq (hinvariant : compiler.CacheInvariant document cache) (call : Call) :
    compiler.answer document call cache =
      ((compiler.answer document call .empty).1,
        cache.keepAnswer (compiler.answer document call .empty).1) := by
  unfold answer
  cases hfind : document.find call.path with
  | error error => rfl
  | ok node => exact hinvariant.answerAt_eq (Document.holds_of_find hfind) call

theorem afterAnswer (hinvariant : compiler.CacheInvariant document cache) (call : Call) :
    compiler.CacheInvariant document
      (cache.keepAnswer (compiler.answer document call .empty).1) := by
  unfold answer
  cases hfind : document.find call.path with
  | error error => exact hinvariant
  | ok node =>
      cases hanswer : (compiler.answerAt call node .empty).1 with
      | error error => exact hinvariant
      | ok given =>
          simp only [PlanCache.keepAnswer]
          cases hcached : given.cached? with
          | none => exact hinvariant
          | some plan =>
              obtain ⟨_, hfresh⟩ := fresh_of_answerAt (Document.holds_of_find hfind) hanswer
              obtain ⟨_, found, hfound, hplan⟩ := hfresh plan hcached
              exact hinvariant.keep hfound hplan

theorem run_eq (hinvariant : compiler.CacheInvariant document cache) (calls : List Call) :
    (compiler.run document calls cache).1 =
        calls.map (fun call => (compiler.answer document call .empty).1) ∧
      compiler.CacheInvariant document (compiler.run document calls cache).2 ∧
      ∀ key, key ∈ (compiler.run document calls cache).2.keys ↔
        key ∈ cache.keys ∨ ∃ call ∈ calls, compiler.key? document call = some key ∧
          ∃ given, (compiler.answer document call .empty).1 = .ok given := by
  induction calls generalizing cache with
  | nil => exact ⟨rfl, hinvariant, by simp [run]⟩
  | cons call rest ih =>
      obtain ⟨hanswers, hafter, hkeys⟩ := ih (hinvariant.afterAnswer call)
      rw [run, hinvariant.answer_eq call]
      refine ⟨by rw [List.map_cons, ← hanswers], hafter, fun key => ?_⟩
      have hcall : (∃ given, (compiler.answer document call .empty).1 = .ok given ∧
            given.cached?.map CachedPlan.origin = some key) ↔
          compiler.key? document call = some key ∧
            ∃ given, (compiler.answer document call .empty).1 = .ok given := by
        constructor
        · rintro ⟨given, hgiven, horigin⟩
          exact ⟨(key?_of_answer hgiven).trans horigin, given, hgiven⟩
        · rintro ⟨hkey, given, hgiven⟩
          exact ⟨given, hgiven, (key?_of_answer hgiven).symm.trans hkey⟩
      rw [hkeys key, PlanCache.mem_keys_keepAnswer, hcall, or_assoc]
      simp only [List.mem_cons, exists_eq_or_imp]

end CacheInvariant

/-- A run that starts with an empty cache cannot be told from one in which every call has
a compiler of its own.  Afterwards the cache has exactly the keys of the calls that
succeeded, each once.  A call that fails leaves the cache as it was, and no call is refused
because a plan is cached with another format. -/
theorem run_eq_fresh (compiler : Compiler) (document : Document) (calls : List Call) :
    (compiler.run document calls .empty).1 =
        calls.map (fun call => (compiler.answer document call .empty).1) ∧
      (compiler.run document calls .empty).2.keys.Nodup ∧
      (∀ key, key ∈ (compiler.run document calls .empty).2.keys ↔
        ∃ call ∈ calls, compiler.key? document call = some key ∧
          ∃ given, (compiler.answer document call .empty).1 = .ok given) ∧
      (∀ call cache error, (compiler.answer document call cache).1 = .error error →
        (compiler.answer document call cache).2 = cache) ∧
      ∀ answer ∈ (compiler.run document calls .empty).1, ∀ path,
        answer ≠ .error (.invalid path .otherFormatCached) := by
  obtain ⟨hanswers, hinvariant, hkeys⟩ :=
    (cacheInvariant_empty compiler document).run_eq calls
  refine ⟨hanswers, hinvariant.nodup, fun key => ?_, fun _ _ _ => answer_of_error, ?_⟩
  · rw [hkeys key]
    simp [PlanCache.keys, PlanCache.empty]
  · rw [hanswers, List.forall_mem_map]
    exact fun call _ => answer_empty_notMismatched document call

end Compiler

end MappingPlan
