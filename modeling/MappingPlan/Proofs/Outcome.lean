import Mathlib.Data.List.Forall2

/-!
# Successes and first failures

A compilation is a chain of steps that ends at the first one that fails.  The lemmas
of this file take such a chain apart: what a success says about each step, and which
step a failure comes from.  A traversal of a list fails with its first failing member.
-/

namespace MappingPlan.Outcome

variable {ε α β : Type}

theorem ok_bind (value : α) (next : α → Except ε β) :
    Except.ok value >>= next = next value := rfl

theorem error_bind (error : ε) (next : α → Except ε β) :
    Except.error error >>= next = .error error := rfl

theorem pure_eq_ok_iff {value result : α} :
    (pure value : Except ε α) = .ok result ↔ value = result := by
  simp [pure, Except.pure]

theorem pure_ne_error (value : α) (error : ε) :
    (pure value : Except ε α) ≠ .error error := by
  simp [pure, Except.pure]

theorem bind_eq_ok_iff {first : Except ε α} {next : α → Except ε β} {result : β} :
    first >>= next = .ok result ↔ ∃ value, first = .ok value ∧ next value = .ok result := by
  cases first <;> simp [bind, Except.bind]

theorem bind_eq_error_iff {first : Except ε α} {next : α → Except ε β} {error : ε} :
    first >>= next = .error error ↔
      first = .error error ∨ ∃ value, first = .ok value ∧ next value = .error error := by
  cases first <;> simp [bind, Except.bind]

theorem map_eq_ok_iff {first : Except ε α} {f : α → β} {result : β} :
    first.map f = .ok result ↔ ∃ value, first = .ok value ∧ f value = result := by
  cases first <;> simp [Except.map]

theorem map_eq_error_iff {first : Except ε α} {f : α → β} {error : ε} :
    first.map f = .error error ↔ first = .error error := by
  cases first <;> simp [Except.map]

/-- A traversal succeeds with the list of what its members give. -/
theorem mapM_eq_ok_iff {step : α → Except ε β} {items : List α} {results : List β} :
    items.mapM step = .ok results ↔
      List.Forall₂ (fun item result => step item = .ok result) items results := by
  induction items generalizing results with
  | nil => cases results <;> simp [pure, Except.pure]
  | cons item rest ih =>
      rw [List.mapM_cons]
      simp only [bind_eq_ok_iff, pure_eq_ok_iff]
      constructor
      · rintro ⟨value, hvalue, values, hvalues, rfl⟩
        exact .cons hvalue (ih.mp hvalues)
      · intro hall
        cases hall with
        | cons hvalue hvalues => exact ⟨_, hvalue, _, ih.mpr hvalues, rfl⟩

theorem exists_mapM_eq_ok_iff {step : α → Except ε β} {items : List α} :
    (∃ results, items.mapM step = .ok results) ↔
      ∀ item ∈ items, ∃ result, step item = .ok result := by
  induction items with
  | nil => simp [pure, Except.pure]
  | cons item rest ih =>
      rw [List.forall_mem_cons, ← ih, List.mapM_cons]
      simp only [bind_eq_ok_iff, pure_eq_ok_iff]
      constructor
      · rintro ⟨_, value, hvalue, values, hvalues, _⟩
        exact ⟨⟨value, hvalue⟩, values, hvalues⟩
      · rintro ⟨⟨value, hvalue⟩, values, hvalues⟩
        exact ⟨_, value, hvalue, values, hvalues, rfl⟩

theorem mem_iff_of_mapM_eq_ok {step : α → Except ε β} {items : List α} {results : List β}
    (hmap : items.mapM step = .ok results) {result : β} :
    result ∈ results ↔ ∃ item ∈ items, step item = .ok result := by
  rw [mapM_eq_ok_iff] at hmap
  induction hmap with
  | nil => simp
  | cons hfirst _ ih => simp [ih, hfirst, eq_comm]

theorem forM_eq_ok_iff {step : α → Except ε PUnit} {items : List α} :
    items.forM step = .ok () ↔ ∀ item ∈ items, step item = .ok () := by
  induction items with
  | nil => simp [pure, Except.pure]
  | cons item rest ih =>
      rw [List.forall_mem_cons, ← ih, List.forM_eq_forM, List.forM_cons, bind_eq_ok_iff]
      exact ⟨fun ⟨_, hitem, hrest⟩ => ⟨hitem, hrest⟩, fun ⟨hitem, hrest⟩ => ⟨_, hitem, hrest⟩⟩

/-- A traversal fails with its first failing member. -/
theorem forM_eq_error_iff {step : α → Except ε PUnit} {items : List α} {error : ε} :
    items.forM step = .error error ↔
      ∃ before item after, items = before ++ item :: after ∧
        (∀ earlier ∈ before, step earlier = .ok ()) ∧ step item = .error error := by
  induction items with
  | nil => simp [pure, Except.pure]
  | cons first rest ih =>
      rw [List.forM_eq_forM, List.forM_cons, bind_eq_error_iff, ← List.forM_eq_forM, ih]
      constructor
      · rintro (hfirst | ⟨_, hfirst, before, item, after, rfl, hbefore, hitem⟩)
        · exact ⟨[], first, rest, rfl, by simp, hfirst⟩
        · exact ⟨first :: before, item, after, rfl,
            List.forall_mem_cons.mpr ⟨hfirst, hbefore⟩, hitem⟩
      · rintro ⟨before, item, after, hsplit, hbefore, hitem⟩
        cases before with
        | nil =>
            obtain ⟨rfl, rfl⟩ := List.cons.inj hsplit
            exact .inl hitem
        | cons earlier before =>
            obtain ⟨rfl, rfl⟩ := List.cons.inj hsplit
            rw [List.forall_mem_cons] at hbefore
            exact .inr ⟨_, hbefore.1, before, item, after, rfl, hbefore.2, hitem⟩

/-- A chain of steps over a list fails at one of its members, and the steps before succeed. -/
theorem exists_of_foldlM_eq_error {step : β → α → Except ε β} {items : List α} {state : β}
    {error : ε} (hfailed : items.foldlM step state = .error error) :
    ∃ before item after middle, items = before ++ item :: after ∧
      before.foldlM step state = .ok middle ∧ step middle item = .error error := by
  induction items generalizing state with
  | nil => cases hfailed
  | cons item rest ih =>
      rw [List.foldlM_cons, bind_eq_error_iff] at hfailed
      rcases hfailed with hitem | ⟨next, hnext, hrest⟩
      · exact ⟨[], item, rest, state, rfl, rfl, hitem⟩
      · obtain ⟨before, later, after, middle, rfl, hbefore, hlater⟩ := ih hrest
        refine ⟨item :: before, later, after, middle, rfl, ?_, hlater⟩
        rw [List.foldlM_cons, hnext, ok_bind, hbefore]

end MappingPlan.Outcome
