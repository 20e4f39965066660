import MappingPlan.Document.Section
import MappingPlan.Proofs.Outcome

/-!
# Looking into sections

What a section answers depends on its tree and, for the places in errors and in the
children, on its path.  The lemmas say what an accepted lookup tells about the tree.
-/

namespace MappingPlan

theorem Pairs.lookup_of_mem {α : Type} {table : List (String × α)} {key : String} {value : α}
    (hdistinct : (table.map Prod.fst).Nodup) (hmem : (key, value) ∈ table) :
    table.lookup key = some value := by
  induction table with
  | nil => cases hmem
  | cons pair rest ih =>
      obtain ⟨hnew, hrest⟩ := List.nodup_cons.mp hdistinct
      rcases List.mem_cons.mp hmem with rfl | hlater
      · rw [List.lookup_cons_self]
      · have hne : key ≠ pair.1 := by
          rintro rfl
          exact hnew (List.mem_map.mpr ⟨_, hlater, rfl⟩)
        have hbeq : (key == pair.1) = false := by simpa using hne
        rw [List.lookup_cons, hbeq]
        exact ih hrest hlater

def Json.textAt? (key : String) (node : Json) : Option String :=
  (node.member? key).bind Json.string?

/-- A child as a list of children has it. -/
def Section.childOf (node : Section) (member : String × Json) : String × Section :=
  (member.1, ⟨node.path.child member.1, member.2⟩)

namespace Section

variable {node child : Section} {key : String}

theorem get?_of_plain (hplain : ConfigPath.hasSeparator key = false) :
    node.get? key = (node.node.member? key).map fun tree => ⟨node.path.child key, tree⟩ := by
  simp [get?, hplain]

theorem bind_get?_string? (hplain : ConfigPath.hasSeparator key = false) :
    ((node.get? key).bind fun child => child.node.string?) = node.node.textAt? key := by
  rw [get?_of_plain hplain, Option.bind_map]
  rfl

theorem require_eq_ok_iff :
    node.require key = .ok child ↔ node.get? key = some child := by
  unfold require
  cases node.get? key <;> simp

theorem text_eq_ok_iff {fault : MappingFault} {text : String} :
    node.text fault = .ok text ↔ node.node.string? = some text := by
  unfold Section.text invalid
  cases node.node.string? <;> simp

theorem requireString_eq_ok_iff (hplain : ConfigPath.hasSeparator key = false)
    {text : String} :
    node.requireString key = .ok text ↔ node.node.textAt? key = some text := by
  simp only [requireString, Outcome.bind_eq_ok_iff, require_eq_ok_iff, text_eq_ok_iff,
    ← bind_get?_string? hplain, Option.bind_eq_some_iff]

theorem textAt?_of_optionalString (hplain : ConfigPath.hasSeparator key = false)
    {text : Option String} (htext : node.optionalString key = .ok text) :
    node.node.textAt? key = text := by
  rw [← bind_get?_string? hplain]
  unfold optionalString at htext
  cases hchild : node.get? key with
  | none =>
      simp only [hchild, Except.ok.injEq] at htext
      exact htext
  | some child =>
      simp only [hchild] at htext
      cases hstring : child.node.string? with
      | none => simp [Section.text, invalid, hstring, Except.map] at htext
      | some found =>
          simp only [Section.text, hstring, Except.map, Except.ok.injEq] at htext
          rw [Option.bind_some, hstring, htext]

theorem children_eq_ok_iff {children : List (String × Section)} :
    node.children = .ok children ↔
      ∃ members, node.node.members? = some members ∧
        (∀ member ∈ members, ConfigPath.hasSeparator member.1 = false) ∧
        children = members.map node.childOf := by
  unfold Section.children
  cases hmembers : node.node.members? with
  | none => simp [invalid]
  | some members =>
      simp only [Outcome.mapM_eq_ok_iff, Option.some.injEq, exists_eq_left']
      clear hmembers
      constructor
      · intro hall
        induction hall with
        | nil => simp
        | @cons member child members children hchild _ ih =>
            cases hsep : ConfigPath.hasSeparator member.1 with
            | true => simp [hsep, invalid] at hchild
            | false =>
                simp only [hsep, Bool.false_eq_true, if_false, Except.ok.injEq] at hchild
                obtain ⟨hplain, rfl⟩ := ih
                exact ⟨List.forall_mem_cons.mpr ⟨hsep, hplain⟩, by rw [← hchild]; rfl⟩
      · rintro ⟨hplain, rfl⟩
        induction members with
        | nil => exact .nil
        | cons member members ih =>
            rw [List.forall_mem_cons] at hplain
            refine .cons ?_ (ih hplain.2)
            simp [hplain.1, childOf]

theorem checkKeys_eq_ok_iff {allowed : List String} :
    node.checkKeys allowed = .ok () ↔
      ∃ members, node.node.members? = some members ∧
        ∀ member ∈ members,
          ConfigPath.hasSeparator member.1 = false ∧ member.1 ∈ allowed := by
  simp only [checkKeys, Outcome.bind_eq_ok_iff, children_eq_ok_iff, Outcome.forM_eq_ok_iff]
  have hstep : ∀ member : String × Json,
      (if allowed.contains (node.childOf member).1 then .ok ()
        else (node.childOf member).2.invalid
          (.unexpectedKey (node.childOf member).1 allowed) : Result Unit) = .ok () ↔
        member.1 ∈ allowed := by
    intro member
    by_cases hmem : member.1 ∈ allowed <;> simp [childOf, invalid, hmem]
  constructor
  · rintro ⟨_, ⟨members, hmembers, hplain, rfl⟩, hallowed⟩
    rw [List.forall_mem_map] at hallowed
    exact ⟨members, hmembers, fun member hmem =>
      ⟨hplain member hmem, (hstep member).mp (hallowed member hmem)⟩⟩
  · rintro ⟨members, hmembers, hall⟩
    refine ⟨_, ⟨members, hmembers, fun member hmem => (hall member hmem).1, rfl⟩, ?_⟩
    rw [List.forall_mem_map]
    exact fun member hmem => (hstep member).mpr (hall member hmem).2

end Section

/-- Only the errors of reading a document mention its source. -/
theorem Document.parse_eq_ok_iff {source text : String} {document : Document} :
    Document.parse source text = .ok document ↔ Json.readStrict text = .ok document.root := by
  unfold Document.parse
  split
  all_goals rename_i heq; simp only [heq, reduceCtorEq, Except.ok.injEq]
  · exact ⟨fun h => h ▸ rfl, fun h => by rw [h]⟩
  · split <;> simp

end MappingPlan
