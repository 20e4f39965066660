import MappingPlan.Proofs.StrictTree

/-!
# The tree that is being read

While a text is read, the containers on the stack wait for their next part.  What a reader
ends with contains everything that it held on the way: a container becomes one with the parts
that it had, then the value that it waited for, then others.

Which parts follow is decided by the rest of the text, so this is shown backwards from the
end of the reading, one character at a time.  It does not depend on the rule for keys.
-/

namespace MappingPlan.Json.Reader

/-- A value for which a stack waits, and a root in which it stands when all containers are
complete. -/
inductive Encloses (root : Json) : List Frame → Json → Prop
  | root : Encloses root [] root
  | array {stack : List Frame} {items more : List Json} {node : Json}
      (houter : Encloses root stack (.array (items.reverse ++ node :: more))) :
      Encloses root (.array items :: stack) node
  | object {stack : List Frame} {members more : List (String × Json)} {key : String} {node : Json}
      (houter : Encloses root stack (.object (members.reverse ++ (key, node) :: more))) :
      Encloses root (.object members key :: stack) node

/-- What the reader holds is the beginning of a root. -/
def LeadsTo (root : Json) (stack : List Frame) : Mode → Prop
  | .value _ | .text _ | .number _ => ∃ node, Encloses root stack node
  | .word _ node => Encloses root stack node
  | .firstItem => ∃ items, Encloses root stack (.array items)
  | .afterItem items => ∃ more, Encloses root stack (.array (items.reverse ++ more))
  | .firstKey => ∃ members, Encloses root stack (.object members)
  | .nextKey members | .keyText members _ | .afterMember members =>
      ∃ more, Encloses root stack (.object (members.reverse ++ more))
  | .colon members key =>
      ∃ node more, Encloses root stack (.object (members.reverse ++ (key, node) :: more))
  | .finished tree => tree = root

variable {root node : Json} {stack next : List Frame} {mode after : Mode} {c : Char}
  {position : Position} {rule : KeyRule} {reader later : Reader}

theorem encloses_of_complete
    (hleads : LeadsTo root (complete node stack).1 (complete node stack).2) :
    Encloses root stack node := by
  cases stack with
  | nil =>
      cases hleads
      exact .root
  | cons frame stack =>
      cases frame with
      | array items =>
          obtain ⟨more, hstack⟩ := hleads
          rw [List.reverse_cons, List.append_assoc] at hstack
          exact .array hstack
      | object members key =>
          obtain ⟨more, hstack⟩ := hleads
          rw [List.reverse_cons, List.append_assoc] at hstack
          exact .object hstack

theorem encloses_of_complete_eq {fault : Type} (hleads : LeadsTo root next after)
    (hcomplete : (.ok (complete node stack) : Except fault _) = .ok (next, after)) :
    Encloses root stack node := by
  have hstate : complete node stack = (next, after) := Except.ok.inj hcomplete
  refine encloses_of_complete ?_
  rwa [hstate]

theorem exists_encloses_of_beginValue (hleads : LeadsTo root next after)
    (hbegin : beginValue stack position c = .ok (next, after)) :
    ∃ node, Encloses root stack node := by
  unfold beginValue at hbegin
  by_cases hcontainer : c = '[' ∨ c = '\x7b'
  · rw [if_pos hcontainer] at hbegin
    by_cases hfull : nestingLimit ≤ stack.length
    · simp [hfull, malformed] at hbegin
    · rw [if_neg hfull, Except.ok.injEq, Prod.mk.injEq] at hbegin
      obtain ⟨rfl, rfl⟩ := hbegin
      split_ifs at hleads
      · obtain ⟨items, hstack⟩ := hleads
        exact ⟨_, hstack⟩
      · obtain ⟨members, hstack⟩ := hleads
        exact ⟨_, hstack⟩
  · rw [if_neg hcontainer] at hbegin
    split_ifs at hbegin
    · cases hbegin; exact hleads
    · cases hbegin; exact ⟨_, hleads⟩
    · cases hbegin; exact ⟨_, hleads⟩
    · cases hbegin; exact ⟨_, hleads⟩
    · cases hnumber : NumberText.begin? c with
      | none => simp [hnumber, malformed] at hbegin
      | some number =>
          simp only [hnumber, Except.ok.injEq, Prod.mk.injEq] at hbegin
          obtain ⟨rfl, rfl⟩ := hbegin
          exact hleads

/-- What leads to a root after a character has led to it before. -/
theorem LeadsTo.of_advance (hleads : LeadsTo root next after)
    (hadvance : advance rule position stack mode c = .ok (next, after)) :
    LeadsTo root stack mode := by
  cases mode with
  | value afterComma =>
      simp only [Reader.advance] at hadvance
      split_ifs at hadvance
      · cases hadvance; exact hleads
      · exact absurd hadvance malformed_ne_ok
      · exact exists_encloses_of_beginValue hleads hadvance
  | firstItem =>
      simp only [Reader.advance] at hadvance
      split_ifs at hadvance
      · cases hadvance; exact hleads
      · exact ⟨_, encloses_of_complete_eq hleads hadvance⟩
      · obtain ⟨node, hnode⟩ := exists_encloses_of_beginValue hleads hadvance
        cases hnode with
        | array hstack => exact ⟨_, hstack⟩
  | afterItem items =>
      simp only [Reader.advance] at hadvance
      split_ifs at hadvance
      · cases hadvance; exact hleads
      · cases hadvance
        obtain ⟨node, hnode⟩ := hleads
        cases hnode with
        | array hstack => exact ⟨_, hstack⟩
      · refine ⟨[], ?_⟩
        rw [List.append_nil]
        exact encloses_of_complete_eq hleads hadvance
      · exact absurd hadvance malformed_ne_ok
  | firstKey =>
      simp only [Reader.advance] at hadvance
      split_ifs at hadvance
      · cases hadvance; exact hleads
      · cases hadvance
        obtain ⟨members, hstack⟩ := hleads
        exact ⟨_, hstack⟩
      · exact ⟨_, encloses_of_complete_eq hleads hadvance⟩
      · exact absurd hadvance malformed_ne_ok
  | nextKey members =>
      simp only [Reader.advance] at hadvance
      split_ifs at hadvance
      · cases hadvance; exact hleads
      · cases hadvance; exact hleads
      · exact absurd hadvance malformed_ne_ok
      · exact absurd hadvance malformed_ne_ok
  | keyText members text =>
      simp only [Reader.advance] at hadvance
      cases hstep : text.step c with
      | more longer =>
          simp only [hstep] at hadvance
          cases hadvance
          exact hleads
      | faulty cause bytes =>
          simp only [hstep] at hadvance
          exact absurd hadvance malformed_ne_ok
      | closed key =>
          simp only [hstep] at hadvance
          split at hadvance
          · cases hadvance
          · cases hadvance
            obtain ⟨node, more, hstack⟩ := hleads
            exact ⟨_, hstack⟩
  | colon members key =>
      simp only [Reader.advance] at hadvance
      split_ifs at hadvance
      · cases hadvance; exact hleads
      · cases hadvance
        obtain ⟨node, hnode⟩ := hleads
        cases hnode with
        | object hstack => exact ⟨_, _, hstack⟩
      · exact absurd hadvance malformed_ne_ok
  | afterMember members =>
      simp only [Reader.advance] at hadvance
      split_ifs at hadvance
      · cases hadvance; exact hleads
      · cases hadvance; exact hleads
      · refine ⟨[], ?_⟩
        rw [List.append_nil]
        exact encloses_of_complete_eq hleads hadvance
      · exact absurd hadvance malformed_ne_ok
  | word rest node =>
      simp only [Reader.advance] at hadvance
      split at hadvance
      · exact encloses_of_complete_eq hleads hadvance
      · split_ifs at hadvance
        · exact encloses_of_complete_eq hleads hadvance
        · exact absurd hadvance malformed_ne_ok
      · split_ifs at hadvance
        · cases hadvance; exact hleads
        · exact absurd hadvance malformed_ne_ok
  | text text =>
      simp only [Reader.advance] at hadvance
      cases hstep : text.step c with
      | more longer =>
          simp only [hstep] at hadvance
          cases hadvance
          exact hleads
      | faulty cause bytes =>
          simp only [hstep] at hadvance
          exact absurd hadvance malformed_ne_ok
      | closed text =>
          simp only [hstep] at hadvance
          exact ⟨_, encloses_of_complete_eq hleads hadvance⟩
  | number number => exact absurd hadvance malformed_ne_ok
  | finished tree =>
      simp only [Reader.advance] at hadvance
      split_ifs at hadvance
      · cases hadvance; exact hleads
      · exact absurd hadvance malformed_ne_ok

theorem LeadsTo.of_step (hleads : LeadsTo root later.stack later.mode)
    (hstep : step rule reader c = .ok later) : LeadsTo root reader.stack reader.mode := by
  obtain ⟨position, stack, mode⟩ := reader
  by_cases hmode : ∀ number, mode ≠ .number number
  · rw [step_of_ne_number hmode, Outcome.map_eq_ok_iff] at hstep
    obtain ⟨⟨next, after⟩, hnext, rfl⟩ := hstep
    exact hleads.of_advance hnext
  · obtain ⟨number, rfl⟩ : ∃ number, mode = .number number := by simpa using hmode
    cases hnumber : number.step c with
    | more longer =>
        rw [step_more hnumber] at hstep
        cases hstep
        exact hleads
    | faulty cause => simp [Reader.step, hnumber, malformed] at hstep
    | finished =>
        cases hfinish : number.finish with
        | error cause => simp [Reader.step, hnumber, hfinish, malformed] at hstep
        | ok node =>
            rw [step_finished hnumber hfinish, Outcome.map_eq_ok_iff] at hstep
            obtain ⟨⟨next, after⟩, hnext, rfl⟩ := hstep
            exact ⟨node, encloses_of_complete (hleads.of_advance hnext)⟩

theorem LeadsTo.of_foldlM {chars : List Char} (hleads : LeadsTo root later.stack later.mode)
    (hrun : chars.foldlM (Reader.step rule) reader = .ok later) :
    LeadsTo root reader.stack reader.mode := by
  induction chars generalizing reader with
  | nil =>
      cases hrun
      exact hleads
  | cons c rest ih =>
      rw [List.foldlM_cons, Outcome.bind_eq_ok_iff] at hrun
      obtain ⟨next, hnext, hrest⟩ := hrun
      exact (ih hrest).of_step hnext

theorem leadsTo_of_finish (hfinish : reader.finish = .ok root) :
    LeadsTo root reader.stack reader.mode := by
  obtain ⟨position, stack, mode⟩ := reader
  cases mode with
  | finished tree =>
      cases hfinish
      rfl
  | number number =>
      cases hnumber : number.finish with
      | error cause => simp [Reader.finish, hnumber, malformed] at hfinish
      | ok node =>
          cases stack with
          | nil => exact ⟨root, .root⟩
          | cons frame stack =>
              cases frame <;> simp [Reader.finish, hnumber, malformed] at hfinish
  | _ => simp [Reader.finish, malformed] at hfinish

end MappingPlan.Json.Reader
