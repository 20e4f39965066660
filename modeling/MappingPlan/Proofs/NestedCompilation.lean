import Mathlib.Data.List.Nodup
import MappingPlan.Pairs
import MappingPlan.Plan.Cache

/-!
# Compilations that use the cache

A plan is looked up, compiled if it is missing, and looked up again before it is put into
the cache, since compiling may itself have used the cache for the same key or for others.
A compilation is here whatever does so: it looks for plans, asks for plans that other
compilations give, goes on with each answer, and ends with a plan or fails.

Only the return of a call changes the cache.  It puts one plan under a key that has none,
or leaves the cache as it is.  What holds from one return to the next, in the order of the
returns, then holds for the run: no entry is changed or removed, the entries of the run are
those its calls put there, and all their keys are different.
-/

namespace MappingPlan

namespace PlanCache

/-- What the earlier cache has under a key, the later one has too. -/
def KeptBy (earlier later : PlanCache) : Prop :=
  ∀ key plan, earlier.get? key = some plan → later.get? key = some plan

theorem KeptBy.trans {earlier middle later : PlanCache} (hfirst : earlier.KeptBy middle)
    (hsecond : middle.KeptBy later) : earlier.KeptBy later := by
  intro key plan hplan
  exact hsecond key plan (hfirst key plan hplan)

/-- The later cache has the earlier entries, and in front of them the installed ones, which
stand under different keys that had no plan before. -/
structure Grows (earlier : PlanCache) (installed : List (PlanKey × CachedPlan))
    (later : PlanCache) : Prop where
  entries : later.entries = installed.reverse ++ earlier.entries
  nodup : (installed.map Prod.fst).Nodup
  fresh : ∀ key ∈ installed.map Prod.fst, earlier.get? key = none

variable {earlier middle later : PlanCache} {installed more : List (PlanKey × CachedPlan)}

theorem grows_nil (cache : PlanCache) : cache.Grows [] cache := by
  constructor
  · rfl
  · exact List.nodup_nil
  · intro key hkey
    cases hkey

theorem grows_insert {cache : PlanCache} {key : PlanKey} (hfree : cache.get? key = none)
    (plan : CachedPlan) : cache.Grows [(key, plan)] (cache.insert key plan) := by
  constructor
  · rfl
  · exact List.nodup_singleton key
  · intro other hother
    rw [List.map_singleton, List.mem_singleton] at hother
    rw [hother]
    exact hfree

namespace Grows

theorem get?_eq_none_iff (hgrows : earlier.Grows installed later) (key : PlanKey) :
    later.get? key = none ↔ key ∉ installed.map Prod.fst ∧ earlier.get? key = none := by
  rw [get?, hgrows.entries, List.lookup_append, Option.or_eq_none_iff,
    Pairs.lookup_eq_none_iff_not_mem, List.map_reverse, List.mem_reverse]
  rfl

theorem append (hfirst : earlier.Grows installed middle) (hsecond : middle.Grows more later) :
    earlier.Grows (installed ++ more) later := by
  have hapart : ∀ key ∈ more.map Prod.fst,
      key ∉ installed.map Prod.fst ∧ earlier.get? key = none := by
    intro key hkey
    rw [← hfirst.get?_eq_none_iff]
    exact hsecond.fresh key hkey
  constructor
  · rw [hsecond.entries, hfirst.entries, List.reverse_append, List.append_assoc]
  · rw [List.map_append, List.nodup_append]
    refine ⟨hfirst.nodup, hsecond.nodup, ?_⟩
    intro key hkey other hother hsame
    subst other
    exact (hapart key hother).1 hkey
  · intro key hkey
    rw [List.map_append, List.mem_append] at hkey
    rcases hkey with hold | hnew
    · exact hfirst.fresh key hold
    · exact (hapart key hnew).2

theorem mem_of_get? (hgrows : earlier.Grows installed later) {key : PlanKey} {plan : CachedPlan}
    (hlater : later.get? key = some plan) (hearlier : earlier.get? key = none) :
    (key, plan) ∈ installed := by
  rw [get?, hgrows.entries, List.lookup_append] at hlater
  rw [get?] at hearlier
  rw [hearlier, Option.or_none] at hlater
  exact List.mem_reverse.mp (Pairs.mem_of_lookup hlater)

theorem keptBy (hgrows : earlier.Grows installed later) : earlier.KeptBy later := by
  intro key plan hplan
  have hnew : installed.reverse.lookup key = none := by
    rw [Pairs.lookup_eq_none_iff_not_mem, List.map_reverse, List.mem_reverse]
    intro hmem
    rw [hgrows.fresh key hmem] at hplan
    cases hplan
  rw [get?, hgrows.entries, List.lookup_append, hnew, Option.none_or]
  exact hplan

theorem size (hgrows : earlier.Grows installed later) :
    later.size = earlier.size + installed.length := by
  rw [PlanCache.size, hgrows.entries, List.length_append, List.length_reverse, Nat.add_comm]
  rfl

end Grows

end PlanCache

/-- A compilation, step by step: it ends, or looks for the plan under a key, or has that plan
compiled by another compilation if it is missing, and goes on with what it is given. -/
inductive Compilation where
  | done (result : Result CachedPlan)
  | look (key : PlanKey) (next : Option CachedPlan → Compilation)
  | request (key : PlanKey) (compile : Compilation) (next : Result CachedPlan → Compilation)

namespace Compilation

def run : Compilation → PlanCache → Result CachedPlan × PlanCache
  | done result, cache => (result, cache)
  | look key next, cache => (next (cache.get? key)).run cache
  | request key compile next, cache =>
      let (answer, cache) := cache.getOrCompile key compile.run
      (next answer).run cache

/-! ## A single call -/

/-- A request for the plan under a key, made while the cache is as at the entry. -/
structure Call where
  key : PlanKey
  compile : Compilation
  entry : PlanCache

namespace Call

def answer (call : Call) : Result CachedPlan :=
  (call.entry.getOrCompile call.key call.compile.run).1

def exit (call : Call) : PlanCache :=
  (call.entry.getOrCompile call.key call.compile.run).2

/-- What the call compiles and the cache that this leaves, unless the plan is found. -/
def compiled? (call : Call) : Option (Result CachedPlan × PlanCache) :=
  match call.entry.get? call.key with
  | some _ => none
  | none => some (call.compile.run call.entry)

/-- The cache just before the call returns. -/
def last (call : Call) : PlanCache :=
  (call.compiled?.map Prod.snd).getD call.entry

/-- The entry that the call itself makes. -/
def installed? (call : Call) : Option (PlanKey × CachedPlan) :=
  match call.compiled? with
  | some (.ok plan, left) =>
      match left.get? call.key with
      | some _ => none
      | none => some (call.key, plan)
  | _ => none

/-- The ways in which a call returns. -/
inductive Returned (call : Call) : Prop where
  | found (plan : CachedPlan) (hentry : call.entry.get? call.key = some plan)
      (hanswer : call.answer = .ok plan) (hexit : call.exit = call.last)
      (hinstalled : call.installed? = none)
  | failed (error : CompileError) (hcompiled : call.compiled? = some (.error error, call.last))
      (hanswer : call.answer = .error error) (hexit : call.exit = call.last)
      (hinstalled : call.installed? = none)
  | kept (plan existing : CachedPlan) (hcompiled : call.compiled? = some (.ok plan, call.last))
      (hthere : call.last.get? call.key = some existing) (hanswer : call.answer = .ok existing)
      (hexit : call.exit = call.last) (hinstalled : call.installed? = none)
  | installed (plan : CachedPlan) (hcompiled : call.compiled? = some (.ok plan, call.last))
      (hfree : call.last.get? call.key = none) (hanswer : call.answer = .ok plan)
      (hexit : call.exit = call.last.insert call.key plan)
      (hinstalled : call.installed? = some (call.key, plan))

theorem returned (call : Call) : call.Returned := by
  obtain ⟨key, compile, entry⟩ := call
  cases hentry : entry.get? key with
  | some plan =>
      apply Returned.found plan hentry
      all_goals simp [answer, exit, last, installed?, compiled?, PlanCache.getOrCompile, hentry]
  | none =>
      rcases hrun : compile.run entry with ⟨result, left⟩
      cases result with
      | error error =>
          apply Returned.failed error
          all_goals simp [answer, exit, last, installed?, compiled?, PlanCache.getOrCompile,
            hentry, hrun]
      | ok plan =>
          cases hthere : left.get? key with
          | some existing =>
              apply Returned.kept plan existing
              all_goals simp [answer, exit, last, installed?, compiled?,
                PlanCache.getOrCompile, hentry, hrun, hthere]
          | none =>
              apply Returned.installed plan
              all_goals simp [answer, exit, last, installed?, compiled?,
                PlanCache.getOrCompile, hentry, hrun, hthere]

theorem grows_exit (call : Call) : call.last.Grows call.installed?.toList call.exit := by
  cases call.returned with
  | found plan hentry hanswer hexit hinstalled =>
      rw [hexit, hinstalled]
      exact PlanCache.grows_nil call.last
  | failed error hcompiled hanswer hexit hinstalled =>
      rw [hexit, hinstalled]
      exact PlanCache.grows_nil call.last
  | kept plan existing hcompiled hthere hanswer hexit hinstalled =>
      rw [hexit, hinstalled]
      exact PlanCache.grows_nil call.last
  | installed plan hcompiled hfree hanswer hexit hinstalled =>
      rw [hexit, hinstalled]
      exact PlanCache.grows_insert hfree plan

/-- The plan of a call is the one that its key has when the call returns. -/
theorem get?_exit (call : Call) {plan : CachedPlan} (hanswer : call.answer = .ok plan) :
    call.exit.get? call.key = some plan := by
  cases call.returned with
  | found existing hentry hfound hexit hinstalled =>
      obtain rfl : existing = plan := by simpa [hfound] using hanswer
      have hlast : call.last = call.entry := by
        rw [last, compiled?, hentry]
        rfl
      rw [hexit, hlast]
      exact hentry
  | failed error hcompiled hfailed hexit hinstalled =>
      rw [hfailed] at hanswer
      cases hanswer
  | kept compiled existing hcompiled hthere hkept hexit hinstalled =>
      obtain rfl : existing = plan := by simpa [hkept] using hanswer
      rw [hexit]
      exact hthere
  | installed compiled hcompiled hfree hgiven hexit hinstalled =>
      obtain rfl : compiled = plan := by simpa [hgiven] using hanswer
      rw [hexit]
      exact PlanCache.get?_insert_self ..

/-- A plan that is there is returned, whatever the call would compile. -/
theorem getOrCompile_of_found {cache : PlanCache} {key : PlanKey} {plan : CachedPlan}
    (hfound : cache.get? key = some plan)
    (compile : PlanCache → Result CachedPlan × PlanCache) :
    cache.getOrCompile key compile = (.ok plan, cache) := by
  rw [PlanCache.getOrCompile, hfound]

end Call

/-! ## The calls of a run -/

/-- The calls that a run makes, those inside of others included, in the order in which they
return. -/
def calls : Compilation → PlanCache → List Call
  | done _, _ => []
  | look key next, cache => (next (cache.get? key)).calls cache
  | request key compile next, cache =>
      let call : Call := ⟨key, compile, cache⟩
      (match cache.get? key with
        | some _ => []
        | none => compile.calls cache) ++
        call :: (next call.answer).calls call.exit

/-- The calls return one after the other, each with the cache as the one before has left it. -/
inductive Passes : PlanCache → List Call → PlanCache → Prop where
  | none (cache : PlanCache) : Passes cache [] cache
  | call {call : Call} {rest : List Call} {final : PlanCache}
      (hrest : Passes call.exit rest final) : Passes call.last (call :: rest) final

namespace Passes

variable {start middle final : PlanCache} {before after : List Call}

theorem append (hbefore : Passes start before middle) (hafter : Passes middle after final) :
    Passes start (before ++ after) final := by
  induction hbefore with
  | none cache => exact hafter
  | call _ ih => exact .call (ih hafter)

theorem grows (hpasses : Passes start before final) :
    start.Grows (before.filterMap Call.installed?) final := by
  induction hpasses with
  | none cache => exact PlanCache.grows_nil cache
  | @call call rest final _ ih =>
      have hfirst := call.grows_exit
      have hboth := hfirst.append ih
      have hlist : (call :: rest).filterMap Call.installed? =
          call.installed?.toList ++ rest.filterMap Call.installed? := by
        cases hinstalled : call.installed? <;> simp [hinstalled]
      rw [hlist]
      exact hboth

/-- From each return to every later one, all entries are kept. -/
theorem pairwise_keptBy (hpasses : Passes start before final) :
    (start :: before.map Call.exit).Pairwise PlanCache.KeptBy := by
  induction hpasses with
  | none cache => exact List.pairwise_singleton PlanCache.KeptBy cache
  | @call call rest final _ ih =>
      have hstep : call.last.KeptBy call.exit := call.grows_exit.keptBy
      rw [List.map_cons, List.pairwise_cons]
      refine ⟨?_, ih⟩
      intro later hlater
      rcases List.mem_cons.mp hlater with rfl | hrest
      · exact hstep
      · exact hstep.trans ((List.pairwise_cons.mp ih).1 later hrest)

theorem getLast?_eq (hpasses : Passes start before final) :
    (start :: before.map Call.exit).getLast? = some final := by
  induction hpasses with
  | none cache => rfl
  | @call call rest final _ ih =>
      rw [List.map_cons, List.getLast?_cons_cons]
      exact ih

end Passes

theorem passes_run (task : Compilation) (cache : PlanCache) :
    Passes cache (task.calls cache) (task.run cache).2 := by
  induction task generalizing cache with
  | done result => exact .none cache
  | look key next ih => exact ih (cache.get? key) cache
  | request key compile next ihCompile ihNext =>
      let call : Call := ⟨key, compile, cache⟩
      have hnext : Passes call.exit ((next call.answer).calls call.exit)
          ((next call.answer).run call.exit).2 := ihNext call.answer call.exit
      have hinner : Passes cache
          (match cache.get? key with
            | some _ => []
            | none => compile.calls cache) call.last := by
        cases hentry : cache.get? key with
        | some plan =>
            have hlast : call.last = cache := by
              simp [call, Call.last, Call.compiled?, hentry]
            rw [hlast]
            exact .none cache
        | none =>
            have hlast : call.last = (compile.run cache).2 := by
              simp [call, Call.last, Call.compiled?, hentry]
            rw [hlast]
            exact ihCompile cache
      exact hinner.append (.call hnext)

/-- Whatever compilations do with the cache, and whether they succeed or fail, no entry is
changed or removed from one return of a call to any later one.  A call that gives a plan gives
the one that its key has then.  A call that finds a plan gives it, whatever it would compile.
A call whose compilation fails has this failure and leaves the cache as the compilation has
left it, where its key has a plan only if a call inside has put one there.  The entries of
the run are those that its calls made, and all their keys are different and were free. -/
theorem first_plan_stays (task : Compilation) (cache : PlanCache) :
    (cache :: (task.calls cache).map Call.exit).Pairwise PlanCache.KeptBy ∧
      (cache :: (task.calls cache).map Call.exit).getLast? = some (task.run cache).2 ∧
      (∀ call ∈ task.calls cache,
        (∀ plan, call.answer = .ok plan → call.exit.get? call.key = some plan) ∧
          (∀ plan, call.entry.get? call.key = some plan →
            ∀ compile, call.entry.getOrCompile call.key compile = (.ok plan, call.entry)) ∧
          ∀ error left, call.entry.get? call.key = none →
            call.compile.run call.entry = (.error error, left) →
            call.answer = .error error ∧ call.exit = left ∧
              ∀ plan, left.get? call.key = some plan →
                ∃ inner ∈ call.compile.calls call.entry,
                  inner.installed? = some (call.key, plan)) ∧
      cache.Grows ((task.calls cache).filterMap Call.installed?) (task.run cache).2 ∧
      (task.run cache).2.size =
        cache.size + ((task.calls cache).filterMap Call.installed?).length := by
  have hpasses := passes_run task cache
  refine ⟨hpasses.pairwise_keptBy, hpasses.getLast?_eq, ?_, hpasses.grows, hpasses.grows.size⟩
  intro call _
  refine ⟨fun plan => call.get?_exit, fun plan => Call.getOrCompile_of_found, ?_⟩
  intro error left hmissing hfails
  have houtcome : call.entry.getOrCompile call.key call.compile.run = (.error error, left) := by
    rw [PlanCache.getOrCompile, hmissing, hfails]
  refine ⟨congrArg Prod.fst houtcome, congrArg Prod.snd houtcome, ?_⟩
  intro plan hplan
  have hgrows := (passes_run call.compile call.entry).grows
  rw [hfails] at hgrows
  have hmem := hgrows.mem_of_get? hplan hmissing
  obtain ⟨inner, hinner, hinstalled⟩ := List.mem_filterMap.mp hmem
  exact ⟨inner, hinner, hinstalled⟩

/-- A compilation is overtaken by a call for the same key that it makes itself. -/
example :
    let key : PlanKey := ⟨⟨"Event"⟩, ⟨"Record"⟩, .root, .json, []⟩
    let first : CachedPlan := .document ⟨key, ⟨[.beginObject, .endObject]⟩⟩
    let second : CachedPlan := .document ⟨key, ⟨[]⟩⟩
    (request key (request key (done (.ok first)) fun _ => done (.ok second)) done).run .empty =
      (.ok first, ⟨[(key, first)]⟩) := by
  rfl

end Compilation

end MappingPlan
