import MappingPlan.Proofs.ColumnOrder
import MappingPlan.Proofs.NameSignature
import MappingPlan.Proofs.RowTypes

/-!
# Rows in batches

A batch is opened for a table.  Any table may append a row to it, and it can be drained and
used again, in any order with the calls on other batches.  However the calls are mixed, a batch
has lost and repeated nothing: what was drained from it and what it still holds are the rows
that were appended to it, in order.

Whether the rows fit the columns of the batch is not looked at when they are appended.  A row
has the length and the types of the plan of the table that appends it, so a batch is aligned as
long as the tables that append to it have the columns of the table that it was opened for.
-/

namespace MappingPlan

/-! ## Calls -/

/-- What a table builds a row from. -/
structure Appended where
  target : TableTarget
  inputs : Inputs

def Appended.row (appended : Appended) : List Value :=
  appended.target.plan.plan.build appended.inputs

/-- A call on a batch names it by its place among the batches, the first one opened first. -/
inductive BatchCall where
  | batch (target : TableTarget)
  | append (index : Nat) (appended : Appended)
  | drain (index : Nat)

/-- A batch, and the rows that were drained from it so far. -/
structure Holding where
  batch : RowBatch
  drained : List (List Value)
  deriving DecidableEq, Repr

def Holding.rows (holding : Holding) : List (List Value) :=
  holding.drained ++ holding.batch.rows

namespace BatchCall

def apply (holdings : List Holding) : BatchCall → Option (List Holding)
  | batch target => some (holdings ++ [⟨target.batch, []⟩])
  | append index appended =>
      holdings[index]?.map fun holding =>
        holdings.set index
          { holding with batch := appended.target.append holding.batch appended.inputs }
  | drain index =>
      holdings[index]?.map fun holding =>
        let (rows, emptied) := holding.batch.drain
        holdings.set index ⟨emptied, holding.drained ++ rows⟩

/-- The batches after calls in turn, unless one of these is on a batch that is not open. -/
def run (calls : List BatchCall) : Option (List Holding) :=
  calls.foldlM apply []

def maker? : BatchCall → Option TableTarget
  | batch target => some target
  | _ => none

def appendedTo? (index : Nat) : BatchCall → Option Appended
  | append other appended => if other = index then some appended else none
  | _ => none

def target? : BatchCall → Option TableTarget
  | batch target => some target
  | append _ appended => some appended.target
  | drain _ => none

/-- The tables that batches were opened for, in order. -/
def makers (calls : List BatchCall) : List TableTarget :=
  calls.filterMap maker?

def appendedTo (index : Nat) (calls : List BatchCall) : List Appended :=
  calls.filterMap (appendedTo? index)

def targets (calls : List BatchCall) : List TableTarget :=
  calls.filterMap target?

theorem makers_concat (calls : List BatchCall) (call : BatchCall) :
    makers (calls ++ [call]) = makers calls ++ call.maker?.toList := by
  cases hmaker : call.maker? <;> simp [makers, hmaker]

theorem appendedTo_concat (index : Nat) (calls : List BatchCall) (call : BatchCall) :
    appendedTo index (calls ++ [call]) =
      appendedTo index calls ++ (call.appendedTo? index).toList := by
  cases happended : call.appendedTo? index <;> simp [appendedTo, happended]

end BatchCall

/-! ## What batches hold -/

/-- The batch is of a table, and has seen the rows that were appended to it. -/
structure Holding.Keeps (holding : Holding) (maker : TableTarget) (appended : List Appended) :
    Prop where
  table : holding.batch.table = maker.table
  columns : holding.batch.columns = maker.plan.plan.names
  rows : holding.rows = appended.map Appended.row

theorem Holding.keeps_batch (target : TableTarget) :
    Holding.Keeps ⟨target.batch, []⟩ target [] :=
  ⟨rfl, rfl, rfl⟩

namespace Holding.Keeps

variable {holding : Holding} {maker : TableTarget} {before : List Appended}

theorem append (hkeeps : holding.Keeps maker before) (appended : Appended) :
    Holding.Keeps
      { holding with batch := appended.target.append holding.batch appended.inputs } maker
      (before ++ [appended]) := by
  refine ⟨hkeeps.table, hkeeps.columns, ?_⟩
  rw [List.map_append, ← hkeeps.rows, Holding.rows, Holding.rows, List.append_assoc]
  rfl

theorem drain (hkeeps : holding.Keeps maker before) :
    Holding.Keeps ⟨holding.batch.drain.2, holding.drained ++ holding.batch.drain.1⟩ maker
      before := by
  refine ⟨hkeeps.table, hkeeps.columns, ?_⟩
  rw [← hkeeps.rows, Holding.rows, Holding.rows]
  exact List.append_nil _

end Holding.Keeps

/-- What the calls so far say about every batch.  A batch that is opened next has not been
appended to before. -/
structure BatchLedger (calls : List BatchCall) (holdings : List Holding) : Prop where
  opened : holdings.length = (BatchCall.makers calls).length
  unused : ∀ index, holdings.length ≤ index → BatchCall.appendedTo index calls = []
  keeps : ∀ index (holding : Holding), holdings[index]? = some holding →
    ∃ maker, (BatchCall.makers calls)[index]? = some maker ∧
      holding.Keeps maker (BatchCall.appendedTo index calls)

namespace BatchLedger

variable {calls : List BatchCall} {holdings next : List Holding} {call : BatchCall}

theorem nil : BatchLedger [] [] := by
  refine ⟨rfl, fun _ _ => rfl, ?_⟩
  intro index holding hheld
  cases hheld

theorem batch (hledger : BatchLedger calls holdings) (target : TableTarget) :
    BatchLedger (calls ++ [.batch target]) (holdings ++ [⟨target.batch, []⟩]) := by
  have hmakers : BatchCall.makers (calls ++ [.batch target]) =
      BatchCall.makers calls ++ [target] := BatchCall.makers_concat calls _
  have happended (index : Nat) : BatchCall.appendedTo index (calls ++ [.batch target]) =
      BatchCall.appendedTo index calls :=
    (BatchCall.appendedTo_concat index calls _).trans (List.append_nil _)
  constructor
  · rw [hmakers, List.length_append, List.length_append, hledger.opened]
    rfl
  · intro index hindex
    rw [happended]
    exact hledger.unused index (by rw [List.length_append] at hindex; omega)
  · intro index holding hheld
    rw [hmakers, happended]
    rcases Nat.lt_or_ge index holdings.length with hopen | hnew
    · rw [List.getElem?_append_left hopen] at hheld
      rw [List.getElem?_append_left (hledger.opened ▸ hopen)]
      exact hledger.keeps index holding hheld
    · -- Past the batches so far there is only the new one, to which no call has appended.
      rw [List.getElem?_append_right hnew, List.getElem?_singleton] at hheld
      split at hheld
      · obtain rfl : index = holdings.length := by omega
        cases hheld
        refine ⟨target, ?_, ?_⟩
        · rw [List.getElem?_append_right (Nat.le_of_eq hledger.opened.symm), hledger.opened,
            Nat.sub_self]
          rfl
        · rw [hledger.unused _ hnew]
          exact Holding.keeps_batch target
      · cases hheld

/-- A call on one batch leaves the others alone. -/
theorem set (hledger : BatchLedger calls holdings) {index : Nat} {holding after : Holding}
    (hheld : holdings[index]? = some holding) (hmaker : call.maker? = none)
    (hothers : ∀ other, other ≠ index → call.appendedTo? other = none)
    (hkeeps : ∀ maker, holding.Keeps maker (BatchCall.appendedTo index calls) →
      after.Keeps maker
        (BatchCall.appendedTo index calls ++ (call.appendedTo? index).toList)) :
    BatchLedger (calls ++ [call]) (holdings.set index after) := by
  have hopen : index < holdings.length := (List.getElem?_eq_some_iff.mp hheld).1
  have hmakers : BatchCall.makers (calls ++ [call]) = BatchCall.makers calls := by
    rw [BatchCall.makers_concat, hmaker, Option.toList_none, List.append_nil]
  have happended (other : Nat) (hother : other ≠ index) :
      BatchCall.appendedTo other (calls ++ [call]) = BatchCall.appendedTo other calls := by
    rw [BatchCall.appendedTo_concat, hothers other hother, Option.toList_none, List.append_nil]
  constructor
  · rw [hmakers, List.length_set, hledger.opened]
  · intro other hother
    rw [List.length_set] at hother
    rw [happended other (by omega)]
    exact hledger.unused other hother
  · intro other found hfound
    rw [hmakers]
    by_cases hsame : other = index
    · subst hsame
      rw [List.getElem?_set_self hopen] at hfound
      cases hfound
      obtain ⟨maker, hopened, hkept⟩ := hledger.keeps other holding hheld
      rw [BatchCall.appendedTo_concat]
      exact ⟨maker, hopened, hkeeps maker hkept⟩
    · rw [List.getElem?_set_ne (Ne.symm hsame)] at hfound
      rw [happended other hsame]
      exact hledger.keeps other found hfound

theorem step (hledger : BatchLedger calls holdings) (hnext : call.apply holdings = some next) :
    BatchLedger (calls ++ [call]) next := by
  cases call with
  | batch target =>
      cases hnext
      exact hledger.batch target
  | append index appended =>
      obtain ⟨holding, hheld, rfl⟩ := Option.map_eq_some_iff.mp hnext
      refine hledger.set hheld rfl ?_ ?_
      · intro other hother
        exact if_neg (Ne.symm hother)
      · intro maker hkeeps
        have hself : (BatchCall.append index appended).appendedTo? index = some appended :=
          if_pos rfl
        rw [hself]
        exact hkeeps.append appended
  | drain index =>
      obtain ⟨holding, hheld, rfl⟩ := Option.map_eq_some_iff.mp hnext
      refine hledger.set hheld rfl (fun _ _ => rfl) ?_
      intro maker hkeeps
      have hnothing : (BatchCall.drain index).appendedTo? index = none := rfl
      rw [hnothing, Option.toList_none, List.append_nil]
      exact hkeeps.drain

theorem run {before : List BatchCall} (hledger : BatchLedger before holdings)
    (hrun : calls.foldlM BatchCall.apply holdings = some next) :
    BatchLedger (before ++ calls) next := by
  induction calls generalizing before holdings with
  | nil =>
      cases hrun
      rwa [List.append_nil]
  | cons call rest ih =>
      rw [List.foldlM_cons] at hrun
      obtain ⟨between, hcall, hrest⟩ := Option.bind_eq_some_iff.mp hrun
      rw [List.append_cons]
      exact ih (hledger.step hcall) hrest

end BatchLedger

theorem BatchCall.target_mem_targets {calls : List BatchCall} {index : Nat}
    {appended : Appended} (happended : appended ∈ appendedTo index calls) :
    appended.target ∈ targets calls := by
  obtain ⟨call, hcall, hsome⟩ := List.mem_filterMap.mp happended
  refine List.mem_filterMap.mpr ⟨call, hcall, ?_⟩
  cases call with
  | append other given =>
      obtain ⟨_, hsame⟩ := Option.ite_none_right_eq_some.mp hsome
      cases hsame
      rfl
  | _ => cases hsome

/-! ## Compiled tables -/

/-- One value for each column, null or of its type. -/
def RowPlan.Fits (plan : RowPlan) (row : List Value) : Prop :=
  List.Forall₂ (fun value type => value.Fits (some type)) row plan.types

theorem RowPlan.build_fits {binder : Binder} {scopes : Scopes} {mapping : RowMapping}
    {plan : RowPlan} (hcompile : compile binder scopes mapping = .ok plan) (inputs : Inputs) :
    plan.Fits (plan.build inputs) := by
  simp only [compile, Outcome.bind_eq_ok_iff, Outcome.pure_eq_ok_iff] at hcompile
  obtain ⟨columns, hcolumns, rfl⟩ := hcompile
  rw [Fits, build, types, List.forall₂_map_left_iff, List.forall₂_map_right_iff,
    List.forall₂_same]
  intro column hmem
  obtain ⟨spec, _, hcolumn⟩ := (Outcome.mem_iff_of_mapM_eq_ok hcolumns).mp hmem
  exact (Column.typed_of_compile hcolumn).fits inputs

namespace Compiler

variable {compiler : Compiler}

/-- The table was compiled when the compiler had answered some of the requests, of which the
latest comes first. -/
def HasTable (compiler : Compiler) (requests : List PlanRequest) (target : TableTarget) : Prop :=
  ∃ event record node earlier,
    ⟨.rows, event, record, node⟩ :: earlier <:+ requests ∧
      (TableTarget.compile compiler event record node (compiler.cacheAfter earlier)).1 =
        .ok target

/-- The plan of a table was compiled, for its own mapping or for another one. -/
theorem HasTable.exists_compile {requests : List PlanRequest} {target : TableTarget}
    (htable : compiler.HasTable requests target) :
    ∃ scopes mapping, RowPlan.compile compiler.binder scopes mapping = .ok target.plan.plan := by
  obtain ⟨event, record, node, earlier, _, hcompile⟩ := htable
  unfold TableTarget.compile at hcompile
  split at hcompile
  · cases hcompile
  · obtain ⟨shared, hshared, rfl⟩ := Outcome.map_eq_ok_iff.mp hcompile
    have hserve : (compiler.serve ⟨.rows, event, record, node⟩
        (compiler.cacheAfter earlier)).1 = .ok (.rows shared) := by
      rw [serve]
      exact Outcome.map_eq_ok_iff.mpr ⟨shared, hshared, rfl⟩
    obtain ⟨_, _, source, _, _, hplan⟩ := exists_source_of_serve hserve
    obtain ⟨format, sourceEvent, sourceRecord, sourceNode⟩ := source
    cases format with
    | rows =>
        obtain ⟨found, hfound, hsame⟩ := Outcome.map_eq_ok_iff.mp hplan
        cases hsame
        obtain ⟨_, hfresh⟩ := compileRows_empty_eq_ok_iff.mp hfound
        obtain ⟨mapping, _, hrows⟩ := Outcome.bind_eq_ok_iff.mp hfresh
        exact ⟨_, mapping, hrows⟩
    | json =>
        obtain ⟨_, _, hsame⟩ := Outcome.map_eq_ok_iff.mp hplan
        cases hsame

/-- A batch is of the table that it was opened for and has the columns of its plan.  What was
drained from it and what it holds are the rows that were appended to it, in order.  A row fits
the plan of the table that appended it.  So all rows fit the columns of the batch if those
tables have columns of the same types, and all rows have the length of the columns exactly if
they have as many. -/
theorem batches_keep_appended {requests : List PlanRequest} {calls : List BatchCall}
    {holdings : List Holding}
    (htables : ∀ target ∈ BatchCall.targets calls, compiler.HasTable requests target)
    (hrun : BatchCall.run calls = some holdings) {index : Nat} {holding : Holding}
    (hheld : holdings[index]? = some holding) :
    ∃ maker, (BatchCall.makers calls)[index]? = some maker ∧
      holding.batch.table = maker.table ∧
      holding.batch.columns = maker.plan.plan.names ∧
      holding.drained ++ holding.batch.rows =
        (BatchCall.appendedTo index calls).map Appended.row ∧
      (∀ appended ∈ BatchCall.appendedTo index calls,
        appended.target.plan.plan.Fits appended.row) ∧
      ((∀ appended ∈ BatchCall.appendedTo index calls,
          appended.target.plan.plan.types = maker.plan.plan.types) →
        ∀ row ∈ holding.drained ++ holding.batch.rows, maker.plan.plan.Fits row) ∧
      ((∀ row ∈ holding.drained ++ holding.batch.rows,
          row.length = holding.batch.columns.length) ↔
        ∀ appended ∈ BatchCall.appendedTo index calls,
          appended.target.plan.plan.size = maker.plan.plan.size) := by
  have hledger : BatchLedger calls holdings := BatchLedger.nil.run hrun
  obtain ⟨maker, hmaker, htable, hcolumns, hrows⟩ := hledger.keeps index holding hheld
  rw [Holding.rows] at hrows
  have hfits : ∀ appended ∈ BatchCall.appendedTo index calls,
      appended.target.plan.plan.Fits appended.row := by
    intro appended happended
    obtain ⟨_, _, hcompile⟩ :=
      (htables _ (BatchCall.target_mem_targets happended)).exists_compile
    exact RowPlan.build_fits hcompile appended.inputs
  refine ⟨maker, hmaker, htable, hcolumns, hrows, hfits, ?_, ?_⟩
  · intro htypes
    rw [hrows, List.forall_mem_map]
    intro appended happended
    rw [RowPlan.Fits, ← htypes appended happended]
    exact hfits appended happended
  · rw [hrows, List.forall_mem_map, hcolumns]
    simp only [Appended.row, RowPlan.length_build, RowPlan.length_names]

/-! ## Missing plans -/

section Missing

variable {event record : ShapeId} {node : Section} {cache : PlanCache} {key : PlanKey}

theorem compileRows_of_missing {plan : RowPlan}
    (hkey : compiler.rowKey event record node = .ok key) (hmissing : cache.get? key = none)
    (hplan : compiler.freshRows event record node = .ok plan) :
    compiler.compileRows event record node cache =
      (.ok ⟨key, plan⟩, cache.insert key (.rows ⟨key, plan⟩)) := by
  simp only [compileRows, hkey, planFor, PlanCache.getOrCompile, hmissing, hplan]
  simp only [Except.map, hmissing]
  rfl

theorem freshRows_of_unordered {specs : List ColumnSpec} {plan : RowPlan}
    (hread : RowMapping.ofSection node = .ok ⟨node.path, RowMapping.sortColumns specs⟩)
    (hunordered : ∀ spec ∈ specs, spec.order = none)
    (hplan : RowPlan.compile compiler.binder ⟨event, record, none⟩ ⟨node.path, specs⟩ =
      .ok plan) :
    compiler.freshRows event record node = .ok plan := by
  have hsorted : RowMapping.sortColumns specs = specs := by
    refine List.mergeSort_of_pairwise (List.pairwise_of_forall_mem_list ?_)
    intro earlier hearlier later hlater
    rw [ColumnSpec.rank_of_unordered (hunordered earlier hearlier),
      ColumnSpec.rank_of_unordered (hunordered later hlater)]
    decide
  rw [freshRows, hread, hsorted]
  exact hplan

end Missing

end Compiler

/-! ## Tables of empty documents -/

namespace Orders

def documentItem (name : String) : String × Json :=
  (name, .object [("format", .string "json"), ("fields", .object [])])

def tableRequest (path : String) (items : List (String × Json)) : PlanRequest :=
  ⟨.rows, placed, order, ⟨⟨path⟩, .object [("table", .string "orders"),
    ("format", .string "object[]"), ("items", .object items)]⟩⟩

def tableKey (path : String) (names : List String) : PlanKey :=
  ⟨placed, order, ⟨path⟩, .rows, nameBytes names⟩

def documentPlan (names : List String) : RowPlan :=
  ⟨names.map fun name => ⟨name, .string, .json ⟨[.beginObject, .endObject]⟩⟩⟩

def documentTable (path : String) (names : List String) : TableTarget :=
  ⟨"orders", ⟨tableKey path names, documentPlan names⟩⟩

def documentSpec (path name : String) : ColumnSpec :=
  let place := (ConfigPath.child ⟨path⟩ "items").child name
  ⟨name, place, none, .json ⟨place.child "fields", []⟩⟩

def narrowRequest : PlanRequest := tableRequest "narrow" (["code"].map documentItem)

def wideRequest : PlanRequest := tableRequest "wide" (["code", "note"].map documentItem)

def narrow : TableTarget := documentTable "narrow" ["code"]

def wide : TableTarget := documentTable "wide" ["code", "note"]

theorem freshRows_narrow :
    compiler.freshRows placed order narrowRequest.node = .ok (documentPlan ["code"]) := by
  have hread : RowMapping.ofSection narrowRequest.node =
    .ok ⟨⟨"narrow"⟩, RowMapping.sortColumns (["code"].map (documentSpec "narrow"))⟩ := rfl
  exact Compiler.freshRows_of_unordered hread (by simp [documentSpec]) rfl

theorem freshRows_wide :
    compiler.freshRows placed order wideRequest.node = .ok (documentPlan ["code", "note"]) := by
  have hread : RowMapping.ofSection wideRequest.node =
    .ok ⟨⟨"wide"⟩, RowMapping.sortColumns (["code", "note"].map (documentSpec "wide"))⟩ := rfl
  exact Compiler.freshRows_of_unordered hread (by simp [documentSpec]) rfl

theorem compileRows_narrow :
    compiler.compileRows placed order narrowRequest.node .empty =
      (.ok narrow.plan, PlanCache.insert .empty narrow.plan.origin (.rows narrow.plan)) :=
  Compiler.compileRows_of_missing rfl rfl freshRows_narrow

theorem cacheAfter_narrow :
    compiler.cacheAfter [narrowRequest] =
      PlanCache.insert .empty narrow.plan.origin (.rows narrow.plan) :=
  congrArg Prod.snd compileRows_narrow

theorem hasTable_narrow : compiler.HasTable [wideRequest, narrowRequest] narrow := by
  refine ⟨placed, order, narrowRequest.node, [], List.suffix_cons _ _, ?_⟩
  exact congrArg (fun answer => answer.1.map (TableTarget.mk "orders")) compileRows_narrow

theorem hasTable_wide : compiler.HasTable [wideRequest, narrowRequest] wide := by
  refine ⟨placed, order, wideRequest.node, [narrowRequest], List.suffix_rfl, ?_⟩
  have hmissing : (compiler.cacheAfter [narrowRequest]).get? wide.plan.origin = none := by
    rw [cacheAfter_narrow, PlanCache.get?_insert_of_ne (by decide)]
    rfl
  have hrows := Compiler.compileRows_of_missing rfl hmissing freshRows_wide
  exact congrArg (fun answer => answer.1.map (TableTarget.mk "orders")) hrows

/-- Two batches used in turn. -/
def batchCalls : List BatchCall := [.batch wide, .batch narrow, .append 0 ⟨wide, inputs⟩,
  .append 1 ⟨narrow, inputs⟩, .drain 0, .append 0 ⟨wide, inputs⟩]

end Orders

theorem Compiler.batches_keep_appended_orders :
    ∃ holdings first, BatchCall.run Orders.batchCalls = some holdings ∧
      holdings[0]? = some first ∧
      first.drained ++ first.batch.rows =
        [[.string "\x7b\x7d", .string "\x7b\x7d"], [.string "\x7b\x7d", .string "\x7b\x7d"]] ∧
      ∀ row ∈ first.drained ++ first.batch.rows, Orders.wide.plan.plan.Fits row := by
  have htables : ∀ target ∈ BatchCall.targets Orders.batchCalls,
      Orders.compiler.HasTable [Orders.wideRequest, Orders.narrowRequest] target := by
    intro target htarget
    have hcases : ∀ target ∈ BatchCall.targets Orders.batchCalls,
        target = Orders.wide ∨ target = Orders.narrow := by decide
    rcases hcases target htarget with rfl | rfl
    · exact Orders.hasTable_wide
    · exact Orders.hasTable_narrow
  obtain ⟨holdings, hrun⟩ : ∃ holdings, BatchCall.run Orders.batchCalls = some holdings :=
    ⟨_, rfl⟩
  obtain ⟨first, hfirst⟩ : ∃ first, holdings[0]? = some first := by
    cases hrun
    exact ⟨_, rfl⟩
  obtain ⟨maker, hmaker, _, _, hrows, _, haligned, _⟩ :=
    Compiler.batches_keep_appended htables hrun hfirst
  cases hmaker
  refine ⟨holdings, first, hrun, hfirst, hrows.trans ?_, haligned ?_⟩
  · decide +kernel
  · intro appended happended
    have hwide : ⟨Orders.wide, Orders.inputs⟩ = appended := by
      simpa [BatchCall.appendedTo, BatchCall.appendedTo?, Orders.batchCalls] using happended
    rw [← hwide]

/-- A row of one column in a batch of two, appended by another table of the same compiler. -/
theorem Compiler.batch_misaligned :
    Orders.compiler.HasTable [Orders.wideRequest, Orders.narrowRequest] Orders.wide ∧
      Orders.compiler.HasTable [Orders.wideRequest, Orders.narrowRequest] Orders.narrow ∧
      ∃ holding, BatchCall.run [.batch Orders.wide, .append 0 ⟨Orders.narrow, Orders.inputs⟩] =
          some [holding] ∧
        holding.batch.columns = ["code", "note"] ∧
        holding.batch.rows = [[.string "\x7b\x7d"]] :=
  ⟨Orders.hasTable_wide, Orders.hasTable_narrow, _, rfl, rfl, by decide +kernel⟩

end MappingPlan
