import MappingPlan.Plan.Stream
import MappingPlan.Proofs.Rendering

/-!
# Streamed pieces

A streaming run comes to one instruction after the other and writes the same texts as the
run that collects the document, each cut into pieces of bytes.  Carrying the outcome through
the elements of an array changes nothing about the order: a run performs one list of
actions, one after the other, whatever it writes to and whoever follows it.

A followed run keeps the positions to which it came beside the state of the writer.  It
writes what the run itself writes and ends as the run does, so its positions are those of the
run.
-/

namespace MappingPlan

theorem Text.utf8_append (front back : String) :
    utf8 (front ++ back) = utf8 front ++ utf8 back := by
  simp [utf8]

/-! ## Writing pieces -/

namespace Writer

variable {σ ε : Type} (writer : Writer σ ε)

theorem run_writeAll_cons (byte : UInt8) (rest : List UInt8) (start : σ) :
    (writer.writeAll (byte :: rest)).run start =
      match (writer.write (byte :: rest)).run start with
      | .error fault state => .error (.failed fault) state
      | .ok 0 state => .error .stalled state
      | .ok (taken + 1) state => (writer.writeAll (rest.drop taken)).run state := by
  rw [writeAll]
  rfl

theorem writePieces_cons (piece : List UInt8) (pieces : List (List UInt8)) :
    writer.writePieces (piece :: pieces) =
      (do writer.writeAll piece; writer.writePieces pieces) := rfl

theorem writePieces_singleton (piece : List UInt8) :
    writer.writePieces [piece] = writer.writeAll piece := by
  rw [writePieces_cons]
  exact bind_pure (writer.writeAll piece)

theorem writePieces_append (front back : List (List UInt8)) :
    writer.writePieces (front ++ back) =
      (do writer.writePieces front; writer.writePieces back) :=
  List.forM_append

theorem writeAll_ne_outOfRange (piece : List UInt8) (start final : σ) :
    (writer.writeAll piece).run start ≠ .error .outOfRange final := by
  induction piece using writeAll.induct generalizing start with
  | case1 =>
      rw [writeAll]
      nofun
  | case2 byte rest ih =>
      rw [run_writeAll_cons]
      cases (writer.write (byte :: rest)).run start with
      | error fault state => nofun
      | ok taken state =>
          cases taken with
          | zero => nofun
          | succ taken => exact ih taken state

theorem writePieces_ne_outOfRange (pieces : List (List UInt8)) (start final : σ) :
    (writer.writePieces pieces).run start ≠ .error .outOfRange final := by
  induction pieces generalizing start with
  | nil => nofun
  | cons piece pieces ih =>
      have hpiece := writer.writeAll_ne_outOfRange piece start final
      rw [writePieces_cons, EStateM.run_bind]
      cases hfirst : (writer.writeAll piece).run start with
      | ok value state => exact ih state
      | error halt state => rwa [hfirst] at hpiece

/-- A writer that never fails and holds all that it was offered. -/
def buffer : Writer (List UInt8) Empty where
  write piece held := .ok piece.length (held ++ piece)

theorem run_writeAll_buffer (piece held : List UInt8) :
    (buffer.writeAll piece).run held = .ok () (held ++ piece) := by
  cases piece with
  | nil =>
      rw [writeAll, List.append_nil]
      rfl
  | cons byte rest =>
      have hwrite : (buffer.write (byte :: rest)).run held =
          .ok (rest.length + 1) (held ++ byte :: rest) := rfl
      rw [run_writeAll_cons, hwrite]
      simp only [List.drop_length]
      rw [writeAll]
      rfl

theorem run_writePieces_buffer (pieces : List (List UInt8)) (held : List UInt8) :
    (buffer.writePieces pieces).run held = .ok () (held ++ pieces.flatten) := by
  induction pieces generalizing held with
  | nil =>
      rw [List.flatten_nil, List.append_nil]
      rfl
  | cons piece pieces ih =>
      rw [writePieces_cons, EStateM.run_bind, run_writeAll_buffer]
      simp only [ih, List.flatten_cons, List.append_assoc]

end Writer

/-! ## Visiting elements -/

namespace Visit

variable {σ ε : Type} (separator : EStateM (Halt ε) σ Unit)
  (element : Instance → EStateM (Halt ε) σ Unit)

/-- The elements behind the first one, visited by a loop that ends at the first failure. -/
def others (items : List Instance) : EStateM (Halt ε) σ Unit :=
  items.forM fun item => do separator; element item

theorem others_cons (item : Instance) (items : List Instance) :
    others separator element (item :: items) =
      (do separator; element item; others separator element items) := by
  rw [others, List.forM_eq_forM, List.forM_cons, bind_assoc]
  rfl

/-- Going on after an outcome: a failure stays what it is. -/
def resume (outcome : EStateM.Result (Halt ε) σ Unit) (rest : EStateM (Halt ε) σ Unit) :
    EStateM.Result (Halt ε) σ Unit :=
  match outcome with
  | .ok _ state => rest.run state
  | .error halt state => .error halt state

theorem resume_run (first rest : EStateM (Halt ε) σ Unit) (start : σ) :
    resume (first.run start) rest = (do first; rest : EStateM (Halt ε) σ Unit).run start := by
  rw [EStateM.run_bind]
  cases first.run start <;> rfl

theorem next_ok (item : Instance) (state : σ) :
    next separator element ⟨.ok () state, false⟩ item =
      ⟨(do separator; element item : EStateM (Halt ε) σ Unit).run state, false⟩ := by
  rw [← resume_run]
  simp only [next, Bool.false_eq_true, if_false]
  cases separator.run state <;> rfl

theorem outcome_foldl_next (items : List Instance) (outcome : EStateM.Result (Halt ε) σ Unit) :
    (items.foldl (next separator element) ⟨outcome, false⟩).outcome =
      resume outcome (others separator element items) := by
  induction items generalizing outcome with
  | nil => cases outcome <;> rfl
  | cons item items ih =>
      rw [List.foldl_cons, others_cons]
      cases outcome with
      | error halt state => exact ih (.error halt state)
      | ok value state => rw [next_ok, ih, resume_run, resume, bind_assoc]

theorem all_cons (item : Instance) (items : List Instance) :
    all separator element (item :: items) =
      (do element item; others separator element items) := by
  funext state
  have hfold := outcome_foldl_next separator element items ((element item).run state)
  rw [resume_run] at hfold
  exact hfold

end Visit

theorem joinLists_cons {α : Type} (separator : α) (first : List α) (lists : List (List α)) :
    joinLists separator (first :: lists) = first ++ lists.flatMap (separator :: ·) := by
  induction lists generalizing first with
  | nil => simp [joinLists]
  | cons second lists ih =>
      rw [List.flatMap_cons, List.cons_append, ← ih second]
      rfl

/-! ## Actions -/

/-- What a run does: it comes to an instruction, or it writes a text or a value. -/
inductive Action where
  | come (position : Nat)
  | text (text : String)
  | value (value : Value)

namespace Action

def position? : Action → Option Nat
  | .come position => some position
  | _ => none

def text? : Action → Option String
  | .come _ => none
  | .text written => some written
  | .value written => some written.toJson

def pieces (cutting : Cutting) : Action → List (List UInt8)
  | .come _ => []
  | .text written => [Text.utf8 written]
  | .value written => cutting.pieces written

/-- The instructions that a run comes to. -/
def positions (actions : List Action) : List Nat :=
  actions.filterMap position?

/-- The texts that a run writes. -/
def texts (actions : List Action) : List String :=
  actions.filterMap text?

@[simp] theorem positions_come (position : Nat) (actions : List Action) :
    positions (.come position :: actions) = position :: positions actions := rfl

@[simp] theorem texts_come (position : Nat) (actions : List Action) :
    texts (.come position :: actions) = texts actions := rfl

@[simp] theorem positions_append (front back : List Action) :
    positions (front ++ back) = positions front ++ positions back :=
  List.filterMap_append

@[simp] theorem texts_append (front back : List Action) :
    texts (front ++ back) = texts front ++ texts back :=
  List.filterMap_append

theorem flatten_pieces (cutting : Cutting) (actions : List Action) :
    (actions.flatMap (pieces cutting)).flatten = Text.utf8 (String.join (texts actions)) := by
  induction actions with
  | nil => rfl
  | cons action actions ih =>
      rw [List.flatMap_cons, List.flatten_append, ih]
      cases action with
      | come position => rfl
      | text text =>
          show [Text.utf8 text].flatten ++ _ = Text.utf8 (String.join (text :: texts actions))
          rw [String.join_cons, Text.utf8_append, List.flatten_singleton]
      | value value =>
          show (cutting.pieces value).flatten ++ _ =
            Text.utf8 (String.join (value.toJson :: texts actions))
          rw [String.join_cons, Text.utf8_append, cutting.flatten_pieces]

section Separated

variable (separator : String) (lists : List (List Action))

theorem positions_joinLists :
    positions (joinLists (.text separator) lists) = lists.flatMap positions := by
  cases lists with
  | nil => rfl
  | cons list lists =>
      rw [joinLists_cons, positions_append, List.flatMap_cons, positions, positions,
        List.filterMap_flatMap]
      rfl

theorem texts_joinLists :
    texts (joinLists (.text separator) lists) = joinLists separator (lists.map texts) := by
  cases lists with
  | nil => rfl
  | cons list lists =>
      rw [joinLists_cons, texts_append, List.map_cons, joinLists_cons, List.flatMap_map, texts,
        texts, List.filterMap_flatMap]
      rfl

end Separated

end Action

section Perform

variable {σ ε : Type} (writer : Writer σ ε) (cutting : Cutting) (note : Nat → σ → σ)

def Writer.perform : Action → EStateM (Halt ε) σ Unit
  | .come position => modify (note position)
  | .text text => writer.writeAll (Text.utf8 text)
  | .value value => writer.writePieces (cutting.pieces value)

def Writer.performAll (actions : List Action) : EStateM (Halt ε) σ Unit :=
  actions.forM (writer.perform cutting note)

theorem Writer.performAll_cons (action : Action) (actions : List Action) :
    writer.performAll cutting note (action :: actions) =
      (do writer.perform cutting note action; writer.performAll cutting note actions) := rfl

theorem Writer.performAll_append (front back : List Action) :
    writer.performAll cutting note (front ++ back) =
      (do writer.performAll cutting note front; writer.performAll cutting note back) :=
  List.forM_append

theorem Visit.all_performAll (separator : String) (actions : Instance → List Action)
    (items : List Instance) :
    Visit.all (writer.writeAll (Text.utf8 separator))
        (fun item => writer.performAll cutting note (actions item)) items =
      writer.performAll cutting note (joinLists (.text separator) (items.map actions)) := by
  have hothers : ∀ items : List Instance,
      others (writer.writeAll (Text.utf8 separator))
          (fun item => writer.performAll cutting note (actions item)) items =
        writer.performAll cutting note
          ((items.map actions).flatMap (.text separator :: ·)) := by
    intro items
    induction items with
    | nil => rfl
    | cons item items ih =>
        rw [others_cons, ih, List.map_cons, List.flatMap_cons, List.cons_append,
          Writer.performAll_cons, Writer.performAll_append]
        rfl
  cases items with
  | nil => rfl
  | cons item items =>
      rw [all_cons, hothers, List.map_cons, joinLists_cons, Writer.performAll_append]

/-- Where nobody is told about positions, only the pieces are left. -/
theorem Writer.performAll_silent (actions : List Action) :
    writer.performAll cutting (fun _ state => state) actions =
      writer.writePieces (actions.flatMap (Action.pieces cutting)) := by
  induction actions with
  | nil => rfl
  | cons action actions ih =>
      rw [performAll_cons, ih, List.flatMap_cons, writePieces_append]
      cases action with
      | come position => rfl
      | text text =>
          show (do writer.writeAll (Text.utf8 text); _) = _
          rw [Action.pieces, writePieces_singleton]
      | value value => rfl

end Perform

/-! ## Followed runs -/

section Followed

variable {σ τ ε : Type} (writer : Writer σ ε) (cutting : Cutting)

/-- A writer with something kept beside its state. -/
def Writer.beside (τ : Type) (writer : Writer σ ε) : Writer (σ × τ) ε where
  write piece state :=
    match (writer.write piece).run state.1 with
    | .ok taken next => .ok taken (next, state.2)
    | .error fault next => .error fault (next, state.2)

/-- An outcome with what is kept beside its state. -/
def keep {α : Type} (kept : τ) : EStateM.Result (Halt ε) σ α → EStateM.Result (Halt ε) (σ × τ) α
  | .ok value state => .ok value (state, kept)
  | .error halt state => .error halt (state, kept)

theorem Writer.run_writeAll_beside (piece : List UInt8) (start : σ) (kept : τ) :
    ((writer.beside τ).writeAll piece).run (start, kept) =
      keep kept ((writer.writeAll piece).run start) := by
  induction piece using writeAll.induct generalizing start with
  | case1 =>
      rw [writeAll, writeAll]
      rfl
  | case2 byte rest ih =>
      have hbeside : ((writer.beside τ).write (byte :: rest)).run (start, kept) =
          match (writer.write (byte :: rest)).run start with
          | .ok taken next => .ok taken (next, kept)
          | .error fault next => .error fault (next, kept) := rfl
      rw [run_writeAll_cons, run_writeAll_cons, hbeside]
      cases (writer.write (byte :: rest)).run start with
      | error fault next => rfl
      | ok taken next =>
          cases taken with
          | zero => rfl
          | succ taken => exact ih taken next

theorem Writer.run_writePieces_beside (pieces : List (List UInt8)) (start : σ) (kept : τ) :
    ((writer.beside τ).writePieces pieces).run (start, kept) =
      keep kept ((writer.writePieces pieces).run start) := by
  induction pieces generalizing start with
  | nil => rfl
  | cons piece pieces ih =>
      rw [writePieces_cons, writePieces_cons, EStateM.run_bind, EStateM.run_bind,
        run_writeAll_beside]
      cases (writer.writeAll piece).run start with
      | error halt next => rfl
      | ok value next => exact ih next

/-- The positions so far, with one more. -/
def noted (position : Nat) (state : σ × List Nat) : σ × List Nat :=
  (state.1, state.2 ++ [position])

/-- The followed run ends as the run itself does.  It has come to all the positions, or to the
first of them if it ends with a failure. -/
def Follows (before positions : List Nat) :
    EStateM.Result (Halt ε) σ Unit → EStateM.Result (Halt ε) (σ × List Nat) Unit → Prop
  | .ok _ final, followed => followed = .ok () (final, before ++ positions)
  | .error halt final, followed =>
      ∃ reached, reached <+: positions ∧ followed = .error halt (final, before ++ reached)

theorem Follows.cons {position : Nat} {before positions : List Nat}
    {plain : EStateM.Result (Halt ε) σ Unit}
    {followed : EStateM.Result (Halt ε) (σ × List Nat) Unit}
    (hfollows : Follows (before ++ [position]) positions plain followed) :
    Follows before (position :: positions) plain followed := by
  cases plain with
  | ok value final =>
      have hfollowed : followed = .ok () (final, before ++ [position] ++ positions) := hfollows
      rwa [List.append_assoc] at hfollowed
  | error halt final =>
      obtain ⟨reached, hreached, hfollowed⟩ := hfollows
      refine ⟨position :: reached, List.cons_prefix_cons.mpr ⟨rfl, hreached⟩, ?_⟩
      rwa [List.append_assoc] at hfollowed

theorem Writer.follows_performAll (actions : List Action) (start : σ) (before : List Nat) :
    Follows before (Action.positions actions)
      ((writer.performAll cutting (fun _ state => state) actions).run start)
      (((writer.beside (List Nat)).performAll cutting noted actions).run (start, before)) := by
  induction actions generalizing start before with
  | nil => simp [Follows, performAll, Action.positions]
  | cons action actions ih =>
      have hpieces : ∀ pieces : List (List UInt8),
          Follows before (Action.positions actions)
            ((do writer.writePieces pieces
                 writer.performAll cutting (fun _ state => state) actions :
              EStateM (Halt ε) σ Unit).run start)
            ((do (writer.beside (List Nat)).writePieces pieces
                 (writer.beside (List Nat)).performAll cutting noted actions :
              EStateM (Halt ε) (σ × List Nat) Unit).run (start, before)) := by
        intro pieces
        rw [EStateM.run_bind, EStateM.run_bind, run_writePieces_beside]
        cases (writer.writePieces pieces).run start with
        | ok value next => exact ih next before
        | error halt next => exact ⟨[], List.nil_prefix, by rw [List.append_nil]; rfl⟩
      cases action with
      | come position =>
          have hnext := ih start (before ++ [position])
          exact hnext.cons
      | text written =>
          have hone := hpieces [Text.utf8 written]
          rwa [writePieces_singleton, writePieces_singleton] at hone
      | value value => exact hpieces (cutting.pieces value)

end Followed

end MappingPlan
