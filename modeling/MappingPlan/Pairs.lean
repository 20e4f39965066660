/-!
# Tables as lists of pairs

A table lists each key once, in the order in which the keys first came.  `put`
keeps that order: a known key keeps its place and changes its value.  All that a
reader of a table needs to know about `put` is what `lookup` finds afterwards.
-/

namespace MappingPlan.Pairs

variable {α β : Type} [DecidableEq α]

def put (key : α) (value : β) : List (α × β) → List (α × β)
  | [] => [(key, value)]
  | pair :: rest =>
      if pair.1 = key then (key, value) :: rest else pair :: put key value rest

/-- The table of a list in which keys may repeat; the last value counts. -/
def collect (pairs : List (α × β)) : List (α × β) :=
  pairs.foldl (fun table pair => put pair.1 pair.2 table) []

@[simp] theorem lookup_put_self (key : α) (value : β) (table : List (α × β)) :
    (put key value table).lookup key = some value := by
  induction table with
  | nil => simp [put]
  | cons pair rest ih =>
      obtain ⟨name, old⟩ := pair
      by_cases hkey : name = key
      · simp [put, hkey]
      · have hne : (key == name) = false := by simpa using Ne.symm hkey
        simp [put, hkey, List.lookup_cons, hne, ih]

theorem lookup_put_of_ne {key other : α} (hne : other ≠ key) (value : β)
    (table : List (α × β)) :
    (put key value table).lookup other = table.lookup other := by
  have hother : (other == key) = false := by simpa using hne
  induction table with
  | nil => simp [put, List.lookup_cons, hother]
  | cons pair rest ih =>
      obtain ⟨name, old⟩ := pair
      by_cases hkey : name = key
      · subst hkey
        simp [put, List.lookup_cons, hother]
      · simp [put, hkey, List.lookup_cons, ih]

theorem mem_of_lookup {pairs : List (α × β)} {key : α} {value : β}
    (hlookup : pairs.lookup key = some value) : (key, value) ∈ pairs := by
  rw [List.lookup_eq_some_iff] at hlookup
  obtain ⟨before, after, hsplit, _⟩ := hlookup
  rw [hsplit]
  exact List.mem_append_right before List.mem_cons_self

theorem lookup_eq_none_iff_not_mem {pairs : List (α × β)} {key : α} :
    pairs.lookup key = none ↔ key ∉ pairs.map Prod.fst := by
  rw [List.lookup_eq_none_iff, List.mem_map]
  constructor
  · rintro hall ⟨pair, hpair, rfl⟩
    exact bne_iff_ne.mp (hall pair hpair) rfl
  · intro habsent pair hpair
    apply bne_iff_ne.mpr
    intro hsame
    exact habsent ⟨pair, hpair, hsame.symm⟩

theorem lookup_collect (pairs : List (α × β)) (key : α) :
    (collect pairs).lookup key = pairs.reverse.lookup key := by
  have hfold : ∀ table : List (α × β),
      (pairs.foldl (fun table pair => put pair.1 pair.2 table) table).lookup key =
        (pairs.reverse.lookup key).or (table.lookup key) := by
    induction pairs with
    | nil => simp
    | cons pair rest ih =>
        intro table
        obtain ⟨name, value⟩ := pair
        rw [List.foldl_cons, ih, List.reverse_cons, List.lookup_append, Option.or_assoc]
        congr 1
        by_cases hkey : key = name
        · subst hkey
          rw [lookup_put_self, List.lookup_cons_self, Option.some_or]
        · have hother : (key == name) = false := by simpa using hkey
          rw [lookup_put_of_ne hkey, List.lookup_cons, hother]
          rfl
  rw [collect, hfold]
  exact Option.or_none

end MappingPlan.Pairs
