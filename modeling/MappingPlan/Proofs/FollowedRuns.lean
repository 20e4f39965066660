import MappingPlan.Proofs.StreamedPieces

/-!
# What a run comes to

A run goes through a slice of the instructions of a plan in one loop.  At the begin of an array it
hands on the slice for one element, once for each element, and goes on behind it.  So its
loop passes every instruction of its slice exactly if the instructions that it comes to and
the slices that it hands on make up the whole slice, in order.

The steps of a run keep what was handed on with the runs that it led to.  That a run goes
through all of its slice is then a statement about its steps, at every level the same, and
the positions that a followed run tells are those of the steps.
-/

namespace MappingPlan

/-- A step of the loop: to one instruction, or over an array with the runs of its elements. -/
inductive Step where
  | one (position : Nat)
  | array (position body : Nat) (runs : List (List Step))

namespace Step

/-- The instructions that the loop passes with a step. -/
def passed : Step → List Nat
  | .one position => [position]
  | .array position body _ => List.range' position (body + 1)

mutual

/-- The instructions that a step comes to, in order. -/
def positions : Step → List Nat
  | .one position => [position]
  | .array position _ runs => position :: positionsOfRuns runs

def positionsOfRun : List Step → List Nat
  | [] => []
  | step :: steps => step.positions ++ positionsOfRun steps

def positionsOfRuns : List (List Step) → List Nat
  | [] => []
  | run :: runs => positionsOfRun run ++ positionsOfRuns runs

end

theorem positionsOfRuns_eq_flatMap (runs : List (List Step)) :
    positionsOfRuns runs = runs.flatMap positionsOfRun := by
  induction runs with
  | nil => rfl
  | cons run runs ih => rw [positionsOfRuns, ih, List.flatMap_cons]

end Step

/-- The steps of a run of some instructions of a plan: those from `start` on, `length` in number.
The loop passes each of them once and in order.  For an array it has one run for each
element, which goes through all the instructions of one element in the same way. -/
inductive RunsThrough (ops : List Op) : Inputs → Nat → Nat → List Step → Prop where
  | intro {inputs : Inputs} {start length : Nat} {steps : List Step}
      (hrange : start + length ≤ ops.length)
      (hpassed : steps.flatMap Step.passed = List.range' start length)
      (hone : ∀ position, .one position ∈ steps →
        ∀ source body, ops[position]? ≠ some (.beginArray source body))
      (harray : ∀ position body runs, .array position body runs ∈ steps →
        ∃ source, ops[position]? = some (.beginArray source body) ∧
          runs.length = ((source.items? inputs).getD []).length)
      (helement : ∀ (position body : Nat) (runs : List (List Step)) (source : CollectionSource),
        .array position body runs ∈ steps → ops[position]? = some (.beginArray source body) →
        ∀ (index : Nat) (item : Instance) (run : List Step),
          ((source.items? inputs).getD [])[index]? = some item → runs[index]? = some run →
          RunsThrough ops (inputs.withItem item) (position + 1) body run) :
      RunsThrough ops inputs start length steps

namespace RunsThrough

variable {ops : List Op} {inputs : Inputs} {start length : Nat} {steps : List Step}

theorem nil (hstart : start ≤ ops.length) : RunsThrough ops inputs start 0 [] :=
  .intro hstart rfl nofun nofun nofun

theorem cons_one {op : Op} (hop : ops[start]? = some op)
    (hplain : ∀ source body, op ≠ .beginArray source body)
    (hrest : RunsThrough ops inputs (start + 1) length steps) :
    RunsThrough ops inputs start (length + 1) (.one start :: steps) := by
  obtain ⟨hrange, hpassed, hone, harray, helement⟩ := hrest
  refine .intro (by omega) ?_ ?_ ?_ ?_
  · rw [List.flatMap_cons, hpassed, List.range'_succ]
    rfl
  · intro position hmem source body
    rcases List.mem_cons.mp hmem with hfirst | hmem
    · cases hfirst
      rw [hop, Ne, Option.some.injEq]
      exact hplain source body
    · exact hone position hmem source body
  · intro position body runs hmem
    rcases List.mem_cons.mp hmem with hfirst | hmem
    · cases hfirst
    · exact harray position body runs hmem
  · intro position body runs source hmem
    rcases List.mem_cons.mp hmem with hfirst | hmem
    · cases hfirst
    · exact helement position body runs source hmem

theorem cons_array {source : CollectionSource} {body : Nat} {run : Instance → List Step}
    (hop : ops[start]? = some (.beginArray source body))
    (helement : ∀ item, RunsThrough ops (inputs.withItem item) (start + 1) body (run item))
    (hrest : RunsThrough ops inputs (start + 1 + body) length steps) :
    RunsThrough ops inputs start (body + length + 1)
      (.array start body (((source.items? inputs).getD []).map run) :: steps) := by
  obtain ⟨hrange, hpassed, hone, harray, helements⟩ := hrest
  refine .intro (by omega) ?_ ?_ ?_ ?_
  · have hlength : body + length + 1 = body + 1 + length := by omega
    rw [List.flatMap_cons, hpassed, hlength, Nat.add_right_comm start 1 body, Nat.add_assoc start,
      ← List.range'_append_1]
    rfl
  · intro position hmem
    rcases List.mem_cons.mp hmem with hfirst | hmem
    · cases hfirst
    · exact hone position hmem
  · intro position size runs hmem
    rcases List.mem_cons.mp hmem with hfirst | hmem
    · cases hfirst
      exact ⟨source, hop, List.length_map _⟩
    · exact harray position size runs hmem
  · intro position size runs found hmem hfound index item run hitem hrun
    rcases List.mem_cons.mp hmem with hfirst | hmem
    · cases hfirst
      rw [hop] at hfound
      cases hfound
      rw [List.getElem?_map, hitem] at hrun
      cases hrun
      exact helement item
    · exact helements position size runs found hmem hfound index item run hitem hrun

end RunsThrough

/-- A run of some instructions of a plan, which stand at a position: it writes the texts that they
stand for and comes to the positions of its steps, whatever it writes to. -/
structure Streams (whole : List Op) (inputs : Inputs) (position : Nat) (ops : List Op)
    (actions : List Action) (steps : List Step) : Prop where
  texts_eq : Action.texts actions = writtenPieces ops inputs
  positions_eq : Action.positions actions = Step.positionsOfRun steps
  runsThrough : RunsThrough whole inputs position ops.length steps
  run_eq : ∀ {σ ε : Type} (writer : Writer σ ε) (cutting : Cutting) (note : Nat → σ → σ),
    streamOps writer cutting note position ops inputs = writer.performAll cutting note actions

namespace Streams

variable {whole : List Op} {op : Op} {rest : List Op} {inputs : Inputs} {position : Nat}
  {actions : List Action} {steps : List Step}

theorem nil (hposition : position ≤ whole.length) : Streams whole inputs position [] [] [] where
  texts_eq := by
    rw [writtenPieces]
    rfl
  positions_eq := rfl
  runsThrough := .nil hposition
  run_eq writer cutting note := by
    rw [streamOps]
    rfl

/-- An instruction that writes one text or one value, in front of others. -/
theorem cons (action : Action) {text : String} (hop : whole[position]? = some op)
    (hplain : ∀ source body, op ≠ .beginArray source body)
    (hrest : Streams whole inputs (position + 1) rest actions steps)
    (htext : action.text? = some text)
    (hwritten : writtenPieces (op :: rest) inputs = text :: writtenPieces rest inputs)
    (hrun : ∀ {σ ε : Type} (writer : Writer σ ε) (cutting : Cutting) (note : Nat → σ → σ),
      streamOps writer cutting note position (op :: rest) inputs =
        (do modify (note position)
            writer.perform cutting note action
            streamOps writer cutting note (position + 1) rest inputs)) :
    Streams whole inputs position (op :: rest) (.come position :: action :: actions)
      (.one position :: steps) where
  texts_eq := by
    rw [hwritten, ← hrest.texts_eq, Action.texts_come, Action.texts,
      List.filterMap_cons_some htext]
    rfl
  positions_eq := by
    have hnone : action.position? = none := by
      cases action with
      | come _ => cases htext
      | text _ | value _ => rfl
    rw [Step.positionsOfRun, Step.positions, ← hrest.positions_eq, Action.positions_come,
      Action.positions, List.filterMap_cons_none hnone]
    rfl
  runsThrough := hrest.runsThrough.cons_one hop hplain
  run_eq writer cutting note := by
    rw [hrun, hrest.run_eq, Writer.performAll_cons, Writer.performAll_cons]
    rfl

theorem array {source : CollectionSource} {body : List Op} {taken : Instance → List Action}
    {run : Instance → List Step} (hop : whole[position]? = some (.beginArray source body.length))
    (helement : ∀ item,
      Streams whole (inputs.withItem item) (position + 1) body (taken item) (run item))
    (hrest : Streams whole inputs (position + 1 + body.length) rest actions steps) :
    Streams whole inputs position (.beginArray source body.length :: (body ++ rest))
      (.come position :: .text "[" ::
        (joinLists (.text ",") (((source.items? inputs).getD []).map taken) ++ actions))
      (.array position body.length (((source.items? inputs).getD []).map run) :: steps) where
  texts_eq := by
    have htexts : ∀ item, Action.texts (taken item) = writtenPieces body (inputs.withItem item) :=
      fun item => (helement item).texts_eq
    rw [writtenPieces, List.take_left, List.drop_left, ← hrest.texts_eq, ← List.cons_append,
      ← List.cons_append, Action.texts_append]
    show "[" :: Action.texts (joinLists _ _) ++ _ = _
    rw [Action.texts_joinLists, List.map_map]
    simp only [Function.comp_def, htexts]
  positions_eq := by
    have hpositions : ∀ item, Action.positions (taken item) = Step.positionsOfRun (run item) :=
      fun item => (helement item).positions_eq
    rw [Step.positionsOfRun, Step.positions, Step.positionsOfRuns_eq_flatMap,
      ← hrest.positions_eq, ← List.cons_append, ← List.cons_append, Action.positions_append]
    show position :: Action.positions (joinLists _ _) ++ _ = _
    rw [Action.positions_joinLists, List.flatMap_map, List.flatMap_map]
    simp only [hpositions]
  runsThrough := by
    rw [List.length_cons, List.length_append]
    exact hrest.runsThrough.cons_array hop fun item => (helement item).runsThrough
  run_eq writer cutting note := by
    have hbody : body.length ≤ (body ++ rest).length := by simp
    have hvisit : (fun item => streamOps writer cutting note (position + 1) body
          (inputs.withItem item)) =
        fun item => writer.performAll cutting note (taken item) := by
      funext item
      exact (helement item).run_eq writer cutting note
    rw [streamOps, if_pos hbody, List.take_left, List.drop_left, hvisit, Visit.all_performAll,
      hrest.run_eq, ← Writer.performAll_append]
    rfl

end Streams

/-- A run that tells the positions to which it comes. -/
def DocumentPlan.follow {σ ε : Type} (plan : DocumentPlan) (writer : Writer σ ε)
    (cutting : Cutting) (inputs : Inputs) : EStateM (Halt ε) (σ × List Nat) Unit :=
  streamOps (writer.beside (List Nat)) cutting noted 0 plan.ops inputs

namespace Streams

variable {plan : DocumentPlan} {inputs : Inputs} {actions : List Action} {steps : List Step}

/-- The run of a plan is the writing of pieces, which make up its document. -/
theorem exists_pieces (hstreams : Streams plan.ops inputs 0 plan.ops actions steps)
    (cutting : Cutting) :
    ∃ pieces : List (List UInt8), pieces.flatten = Text.utf8 (plan.render inputs) ∧
      ∀ {σ ε : Type} (writer : Writer σ ε),
        plan.write writer cutting inputs = writer.writePieces pieces := by
  refine ⟨actions.flatMap (Action.pieces cutting), ?_, ?_⟩
  · rw [Action.flatten_pieces, hstreams.texts_eq, DocumentPlan.render]
  · intro σ ε writer
    rw [DocumentPlan.write, hstreams.run_eq, Writer.performAll_silent]

theorem follows (hstreams : Streams plan.ops inputs 0 plan.ops actions steps)
    {σ ε : Type} (writer : Writer σ ε) (cutting : Cutting) (start : σ) (before : List Nat) :
    Follows before (Step.positionsOfRun steps) ((plan.write writer cutting inputs).run start)
      ((plan.follow writer cutting inputs).run (start, before)) := by
  rw [DocumentPlan.write, DocumentPlan.follow, hstreams.run_eq, hstreams.run_eq,
    ← hstreams.positions_eq]
  exact writer.follows_performAll cutting actions start before

end Streams

end MappingPlan
