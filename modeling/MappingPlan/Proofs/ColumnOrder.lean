import MappingPlan.Proofs.RowMeaning

/-!
# The order of columns

The columns of a row mapping are sorted by rank, and a sort that is stable keeps ties as
they were declared.  So columns come in the order of their `order`, and columns of one
`order` as well as columns without one keep the order of the document.

A column without an `order` has the rank of the largest integer.  That integer is also an
`order` that a column may have, and then the two kinds of columns tie.  Ordered columns
come before the others therefore exactly if none of them has the largest `order` and is
declared after a column without one.
-/

namespace MappingPlan

/-- A stable sort does not move items that tie past each other. -/
theorem Outcome.filter_mergeSort {α : Type} {le : α → α → Bool}
    (htrans : ∀ a b c, le a b = true → le b c = true → le a c = true)
    (htotal : ∀ a b, (le a b || le b a) = true) {kept : α → Bool}
    (htie : ∀ a b, kept a = true → kept b = true → le a b = true) (items : List α) :
    (items.mergeSort le).filter kept = items.filter kept := by
  have hordered : (items.filter kept).Pairwise fun a b => le a b = true := by
    rw [List.pairwise_filter]
    exact List.pairwise_of_forall htie
  have hsublist : (items.filter kept).Sublist (items.mergeSort le) :=
    List.sublist_mergeSort htrans htotal hordered List.filter_sublist
  have hkept : (items.filter kept).Sublist ((items.mergeSort le).filter kept) := by
    have hfiltered := hsublist.filter kept
    simpa only [List.filter_filter, Bool.and_self] using hfiltered
  have hlength : ((items.mergeSort le).filter kept).length = (items.filter kept).length :=
    ((List.mergeSort_perm items le).filter kept).length_eq
  exact (hkept.eq_of_length hlength.symm).symm

/-! ## Ranks -/

namespace ColumnSpec

/-- The rank of the columns that come last. -/
def lastRank : Int := Int64.maxValue.toInt

theorem rank_of_order {column : ColumnSpec} {order : Int64}
    (horder : column.order = some order) : column.rank = order.toInt := by
  simp only [rank, horder]

theorem rank_of_unordered {column : ColumnSpec} (hunordered : column.order = none) :
    column.rank = lastRank := by
  simp only [rank, hunordered, lastRank, Int64.toInt_maxValue]

theorem rank_le_lastRank (column : ColumnSpec) : column.rank ≤ lastRank := by
  cases horder : column.order with
  | none => exact Int.le_of_eq (rank_of_unordered horder)
  | some order =>
      rw [rank_of_order horder]
      exact order.toInt_le

theorem rank_eq_of_order_eq {first second : ColumnSpec} (horder : first.order = second.order) :
    first.rank = second.rank := by
  simp only [rank, horder]

/-- What comes last is without an `order` or has the largest. -/
theorem rank_eq_lastRank_iff {column : ColumnSpec} :
    column.rank = lastRank ↔ column.order = none ∨ column.order = some Int64.maxValue := by
  cases horder : column.order with
  | none => simp [rank_of_unordered horder]
  | some order => simp [rank_of_order horder, lastRank, Int64.toInt_inj]

end ColumnSpec

/-! ## Sorted columns -/

namespace RowMapping

def sortColumns (columns : List ColumnSpec) : List ColumnSpec :=
  columns.mergeSort fun a b => decide (a.rank ≤ b.rank)

theorem rank_le_trans (a b c : ColumnSpec) (hab : decide (a.rank ≤ b.rank) = true)
    (hbc : decide (b.rank ≤ c.rank) = true) : decide (a.rank ≤ c.rank) = true := by
  rw [decide_eq_true_eq] at hab hbc ⊢
  exact Int.le_trans hab hbc

theorem rank_le_total (a b : ColumnSpec) :
    (decide (a.rank ≤ b.rank) || decide (b.rank ≤ a.rank)) = true := by
  simpa using Int.le_total a.rank b.rank

theorem pairwise_sortColumns (columns : List ColumnSpec) :
    (sortColumns columns).Pairwise fun earlier later => earlier.rank ≤ later.rank := by
  have hsorted := List.pairwise_mergeSort rank_le_trans rank_le_total columns
  exact hsorted.imp of_decide_eq_true

theorem filter_sortColumns {kept : ColumnSpec → Bool}
    (htie : ∀ a b : ColumnSpec, kept a = true → kept b = true → a.rank = b.rank)
    (columns : List ColumnSpec) :
    (sortColumns columns).filter kept = columns.filter kept := by
  refine Outcome.filter_mergeSort rank_le_trans rank_le_total ?_ columns
  intro a b ha hb
  have hrank : a.rank = b.rank := htie a b ha hb
  exact decide_eq_true (Int.le_of_eq hrank)

variable {columns : List ColumnSpec}

theorem pairwise_order_sortColumns :
    (sortColumns columns).Pairwise fun earlier later => ∀ first second,
      earlier.order = some first → later.order = some second → first ≤ second := by
  refine (pairwise_sortColumns columns).imp ?_
  intro earlier later hrank first second hfirst hsecond
  rw [ColumnSpec.rank_of_order hfirst, ColumnSpec.rank_of_order hsecond] at hrank
  exact Int64.le_iff_toInt_le.mpr hrank

/-- An ordered column that follows an unordered one has the largest `order`. -/
theorem pairwise_unordered_sortColumns :
    (sortColumns columns).Pairwise fun earlier later => earlier.order = none →
      ∀ order, later.order = some order → order = Int64.maxValue := by
  refine (pairwise_sortColumns columns).imp ?_
  intro earlier later hrank hunordered order horder
  rw [ColumnSpec.rank_of_unordered hunordered] at hrank
  have hlast : later.rank = ColumnSpec.lastRank := Int.le_antisymm later.rank_le_lastRank hrank
  rcases ColumnSpec.rank_eq_lastRank_iff.mp hlast with hnone | hlargest
  · rw [hnone] at horder
    cases horder
  · rw [hlargest] at horder
    exact (Option.some.inj horder).symm

/-- Whether unordered columns come last is decided among the columns of the last rank,
and sorting leaves these as they are declared. -/
theorem pairwise_unordered_last_iff :
    ((sortColumns columns).Pairwise fun earlier later =>
        earlier.order = none → later.order = none) ↔
      columns.Pairwise fun earlier later =>
        earlier.order = none → later.order ≠ some Int64.maxValue := by
  let last : ColumnSpec → Bool := fun column => decide (column.rank = ColumnSpec.lastRank)
  have hlast : (sortColumns columns).filter last = columns.filter last := by
    refine filter_sortColumns ?_ columns
    intro a b ha hb
    exact (of_decide_eq_true ha).trans (of_decide_eq_true hb).symm
  have hsorted : ((sortColumns columns).Pairwise fun earlier later =>
        earlier.order = none → later.order = none) ↔
      ((sortColumns columns).filter last).Pairwise fun earlier later =>
        earlier.order = none → later.order = none := by
    constructor
    · exact fun hall => hall.filter last
    · intro hall
      rw [List.pairwise_filter] at hall
      refine (hall.and (pairwise_sortColumns columns)).imp ?_
      intro earlier later hboth hunordered
      have hearlier : earlier.rank = ColumnSpec.lastRank :=
        ColumnSpec.rank_of_unordered hunordered
      have hlater : later.rank = ColumnSpec.lastRank :=
        Int.le_antisymm later.rank_le_lastRank (hearlier ▸ hboth.2)
      exact hboth.1 (decide_eq_true hearlier) (decide_eq_true hlater) hunordered
  rw [hsorted, hlast, List.pairwise_filter]
  refine List.Pairwise.iff ?_
  intro earlier later
  constructor
  · intro hkept hunordered hlargest
    have hearlier : earlier.rank = ColumnSpec.lastRank :=
      ColumnSpec.rank_of_unordered hunordered
    have hlater : later.rank = ColumnSpec.lastRank :=
      ColumnSpec.rank_eq_lastRank_iff.mpr (.inr hlargest)
    have hnone : later.order = none :=
      hkept (decide_eq_true hearlier) (decide_eq_true hlater) hunordered
    rw [hnone] at hlargest
    cases hlargest
  · intro hsmaller _ hlater hunordered
    rcases ColumnSpec.rank_eq_lastRank_iff.mp (of_decide_eq_true hlater) with hnone | hlargest
    · exact hnone
    · exact absurd hlargest (hsmaller hunordered)

end RowMapping

/-- The columns of an accepted mapping are the declared ones in another order: ordered
columns by their `order`, ties as they are declared, and no ordered column after an
unordered one unless its `order` is the largest integer.  That exception is met exactly
when a column with this `order` is declared after one without. -/
theorem RowMapping.columns_ordered {node : Section} {mapping : RowMapping}
    (haccepted : ofSection node = .ok mapping) :
    ∃ (sections : List (String × Section)) (columns : List ColumnSpec),
      declared node = .ok sections ∧
      List.Forall₂ (fun column spec => ColumnSpec.ofSection column.1 column.2 = .ok spec)
        sections columns ∧
      columnNames node = .ok (columns.map ColumnSpec.name) ∧
      mapping.columns.Perm columns ∧
      (mapping.columns.Pairwise fun earlier later => ∀ first second,
        earlier.order = some first → later.order = some second → first ≤ second) ∧
      (∀ order : Option Int64, mapping.columns.filter (fun column => column.order = order) =
        columns.filter fun column => column.order = order) ∧
      (mapping.columns.Pairwise fun earlier later => earlier.order = none →
        ∀ order, later.order = some order → order = Int64.maxValue) ∧
      ((mapping.columns.Pairwise fun earlier later =>
          earlier.order = none → later.order = none) ↔
        columns.Pairwise fun earlier later =>
          earlier.order = none → later.order ≠ some Int64.maxValue) := by
  simp only [ofSection, Outcome.bind_eq_ok_iff, Outcome.pure_eq_ok_iff,
    Outcome.mapM_eq_ok_iff] at haccepted
  obtain ⟨_, _, sections, hsections, columns, hcolumns, rfl⟩ := haccepted
  have hnames : columnNames node = .ok (columns.map ColumnSpec.name) := by
    have hsame : sections.map Prod.fst = columns.map ColumnSpec.name := by
      clear hsections
      induction hcolumns with
      | nil => rfl
      | cons hcolumn _ ih =>
          obtain ⟨_, hname, _⟩ := ColumnSpec.ofSection_eq_ok_iff.mp hcolumn
          rw [List.map_cons, List.map_cons, ih, hname]
    rw [columnNames, hsections, ← hsame]
    rfl
  have hties : ∀ order : Option Int64,
      (sortColumns columns).filter (fun column => column.order = order) =
        columns.filter fun column => column.order = order := by
    intro order
    refine filter_sortColumns ?_ columns
    intro a b ha hb
    exact ColumnSpec.rank_eq_of_order_eq
      ((of_decide_eq_true ha).trans (of_decide_eq_true hb).symm)
  exact ⟨sections, columns, hsections, hcolumns, hnames, List.mergeSort_perm columns _,
    pairwise_order_sortColumns, hties, pairwise_unordered_sortColumns,
    pairwise_unordered_last_iff⟩

namespace Ledger

/-- A column with an empty document. -/
def column (order : List (String × Json)) : Json :=
  .object ([("format", .string "json"), ("fields", .object [])] ++ order)

def rows (items : List (String × Json)) : Section :=
  ⟨.root, .object [("format", .string "object[]"), ("items", .object items)]⟩

/-- Here the column with the largest `order` is declared before the unordered ones. -/
def apart : Section := rows [
  ("second", column [("order", .integer 2)]),
  ("largest", column [("order", .integer (2 ^ 63 - 1))]),
  ("free", column []),
  ("first", column [("order", .integer (-2 ^ 63))]),
  ("alsoSecond", column [("order", .integer 2)]),
  ("alsoFree", column [])]

/-- Here it is declared after one. -/
def tied : Section := rows [
  ("free", column []),
  ("largest", column [("order", .integer (2 ^ 63 - 1))])]

def spec (name : String) (order : Option Int64) : ColumnSpec :=
  ⟨name, ⟨"items:" ++ name⟩, order, .json ⟨⟨"items:" ++ name ++ ":fields"⟩, []⟩⟩

def apartColumns : List ColumnSpec := [
  spec "second" (some 2), spec "largest" (some Int64.maxValue), spec "free" none,
  spec "first" (some Int64.minValue), spec "alsoSecond" (some 2), spec "alsoFree" none]

def tiedColumns : List ColumnSpec := [spec "free" none, spec "largest" (some Int64.maxValue)]

end Ledger

theorem RowMapping.columns_ordered_apart :
    ∃ mapping, ofSection Ledger.apart = .ok mapping ∧
      mapping.columns.Perm Ledger.apartColumns ∧
      (mapping.columns.filter fun column => column.order = some 2) =
        [Ledger.spec "second" (some 2), Ledger.spec "alsoSecond" (some 2)] ∧
      (mapping.columns.filter fun column => column.order = none) =
        [Ledger.spec "free" none, Ledger.spec "alsoFree" none] ∧
      mapping.columns.Pairwise fun earlier later =>
        earlier.order = none → later.order = none := by
  have haccepted : ofSection Ledger.apart =
      .ok ⟨.root, sortColumns Ledger.apartColumns⟩ := rfl
  obtain ⟨sections, columns, hsections, hcolumns, _, hperm, _, hties, _, hlast⟩ :=
    columns_ordered haccepted
  have hread : (declared Ledger.apart >>= fun sections =>
      sections.mapM fun column => ColumnSpec.ofSection column.1 column.2) =
        .ok Ledger.apartColumns := rfl
  have hsame : columns = Ledger.apartColumns := by
    rw [hsections, Outcome.ok_bind, Outcome.mapM_eq_ok_iff.mpr hcolumns] at hread
    exact Except.ok.inj hread
  rw [hsame] at hperm hties hlast
  have hapart : Ledger.apartColumns.Pairwise fun earlier later =>
      earlier.order = none → later.order ≠ some Int64.maxValue := by decide
  exact ⟨_, haccepted, hperm, (hties (some 2)).trans rfl, (hties none).trans rfl,
    hlast.mpr hapart⟩

/-- A column with the largest `order` that is declared after one without stays there. -/
theorem RowMapping.largest_order_after_unordered :
    ∃ mapping, ofSection Ledger.tied = .ok mapping ∧
      mapping.columns = Ledger.tiedColumns ∧
      ¬ mapping.columns.Pairwise fun earlier later =>
        earlier.order = none → later.order = none := by
  have haccepted : ofSection Ledger.tied = .ok ⟨.root, sortColumns Ledger.tiedColumns⟩ := rfl
  have hkept : sortColumns Ledger.tiedColumns = Ledger.tiedColumns := by
    refine List.mergeSort_of_pairwise ?_
    decide
  refine ⟨_, haccepted, hkept, ?_⟩
  rw [pairwise_unordered_last_iff]
  decide

end MappingPlan
