import MappingPlan.Plan.Sink
import MappingPlan.Proofs.Nesting

/-!
# Streaming to a writer that fails

A writer with limited room takes bytes, in one go or in many, until there is no room
left, and fails from then on.  A document that fits is written to it as to a writer
that never fails; of any other document it holds the longest part that fits, the run ends
with its failure, and there is no attempt after the one that failed.

A run is the writing of a list of pieces, so each property is shown for one piece and then
for the list, from any state.
-/

namespace MappingPlan

/-- A piece that was offered to a writer, and how many bytes of it were taken. -/
structure Attempt (ε : Type) where
  piece : List UInt8
  answer : Except ε Nat
  deriving Repr

def Attempt.Succeeded {ε : Type} (attempt : Attempt ε) : Prop :=
  ∃ taken, attempt.answer = .ok taken

namespace Writer

variable {σ ε : Type}

/-- A writer with its attempts so far. -/
def recorded (writer : Writer σ ε) : Writer (σ × List (Attempt ε)) ε where
  write piece state :=
    match (writer.write piece).run state.1 with
    | .ok taken next => .ok taken (next, state.2 ++ [⟨piece, .ok taken⟩])
    | .error fault next => .error fault (next, state.2 ++ [⟨piece, .error fault⟩])

/-- While there is room, the writer takes some of the bytes that it is offered, but no more
than there is room for; without room it fails.  The bytes that it holds are those that it
took. -/
structure Limited (writer : Writer σ ε) (held : σ → List UInt8) (room : σ → Nat) (fault : ε) :
    Prop where
  takes : ∀ (piece : List UInt8) (state : σ), piece ≠ [] → 0 < room state →
    ∃ taken next, (writer.write piece).run state = .ok taken next ∧
      0 < taken ∧ taken ≤ piece.length ∧ taken + room next = room state ∧
      held next = held state ++ piece.take taken
  refuses : ∀ (piece : List UInt8) (state : σ), piece ≠ [] → room state = 0 →
    ∃ next, (writer.write piece).run state = .error fault next ∧
      room next = 0 ∧ held next = held state

/-- The outcome of writing some bytes where there is room for others. -/
def ending (size room : Nat) (fault : ε) (final : σ) : EStateM.Result (Halt ε) σ Unit :=
  if size ≤ room then .ok () final else .error (.failed fault) final

/-! ## Writing with a limit -/

/-- As much of the bytes as there was room for has come to what was held. -/
structure Filled (held : σ → List UInt8) (room : σ → Nat) (bytes : List UInt8)
    (start final : σ) : Prop where
  held_eq : held final = held start ++ bytes.take (room start)
  room_eq : room final = room start - bytes.length

section Filled

variable {held : σ → List UInt8} {room : σ → Nat} {front back : List UInt8}
  {start middle final : σ}

theorem Filled.append (hfront : Filled held room front start middle)
    (hback : Filled held room back middle final) :
    Filled held room (front ++ back) start final where
  held_eq := by
    rw [hback.held_eq, hfront.held_eq, hfront.room_eq, List.append_assoc, List.take_append]
  room_eq := by
    rw [hback.room_eq, hfront.room_eq, List.length_append, Nat.sub_sub]

theorem filled_of_full {bytes : List UInt8} (hstart : room start = 0) (hfinal : room final = 0)
    (hheld : held final = held start) : Filled held room bytes start final where
  held_eq := by rw [hheld, hstart, List.take_zero, List.append_nil]
  room_eq := by rw [hfinal, hstart, Nat.zero_sub]

end Filled

theorem ending_of_le {size room : Nat} {fault : ε} {final : σ} (hle : size ≤ room) :
    ending size room fault final = .ok () final := if_pos hle

theorem ending_of_lt {size room : Nat} {fault : ε} {final : σ} (hlt : room < size) :
    ending size room fault final = .error (.failed fault) final := if_neg (Nat.not_le.mpr hlt)

theorem ending_add (front back room : Nat) (fault : ε) (final : σ) (hle : front ≤ room) :
    ending back (room - front) fault final = ending (front + back) room fault final := by
  have hfits : back ≤ room - front ↔ front + back ≤ room := by omega
  simp only [ending, hfits]

namespace Limited

variable {writer : Writer σ ε} {held : σ → List UInt8} {room : σ → Nat} {fault : ε}
  (hlimited : writer.Limited held room fault)
include hlimited

theorem exists_run_writeAll (piece : List UInt8) (start : σ) :
    ∃ final, (writer.writeAll piece).run start = ending piece.length (room start) fault final ∧
      Filled held room piece start final := by
  induction piece using writeAll.induct generalizing start with
  | case1 =>
      refine ⟨start, ?_, ?_, rfl⟩
      · rw [writeAll]
        exact (ending_of_le (Nat.zero_le _)).symm
      · rw [List.take_nil, List.append_nil]
  | case2 byte rest ih =>
      rw [run_writeAll_cons]
      have hnonempty : byte :: rest ≠ [] := List.cons_ne_nil byte rest
      rcases Nat.eq_zero_or_pos (room start) with hfull | hroom
      · obtain ⟨next, hwrite, hnext, hheld⟩ := hlimited.refuses _ start hnonempty hfull
        refine ⟨next, ?_, filled_of_full hfull hnext hheld⟩
        rw [hwrite, hfull]
        exact (ending_of_lt (Nat.succ_pos rest.length)).symm
      · obtain ⟨taken, next, hwrite, hpos, hle, hnext, hheld⟩ :=
          hlimited.takes _ start hnonempty hroom
        obtain ⟨taken, rfl⟩ := Nat.exists_eq_succ_of_ne_zero (Nat.ne_of_gt hpos)
        obtain ⟨final, hrun, hfilled⟩ := ih taken next
        have htaken : Filled held room ((byte :: rest).take (taken + 1)) start next := by
          constructor
          · rw [hheld, List.take_take, Nat.min_eq_right (by omega)]
          · rw [List.length_take]
            omega
        refine ⟨final, ?_, ?_⟩
        · have hending : ending (rest.drop taken).length (room next) fault final =
              ending (byte :: rest).length (room start) fault final := by
            have hlength : taken + 1 + (rest.drop taken).length = (byte :: rest).length := by
              rw [List.length_drop, List.length_cons] at *
              omega
            have hroom : room next = room start - (taken + 1) := by omega
            rw [hroom, ending_add _ _ _ _ _ (by omega), hlength]
          rw [hwrite]
          exact hrun.trans hending
        · have hwhole := htaken.append hfilled
          rwa [List.take_succ_cons, List.cons_append, List.take_append_drop] at hwhole

theorem exists_run_writePieces (pieces : List (List UInt8)) (start : σ) :
    ∃ final, (writer.writePieces pieces).run start =
        ending pieces.flatten.length (room start) fault final ∧
      Filled held room pieces.flatten start final := by
  induction pieces generalizing start with
  | nil =>
      refine ⟨start, ?_, ?_, rfl⟩
      · exact (ending_of_le (Nat.zero_le _)).symm
      · rw [List.flatten_nil, List.take_nil, List.append_nil]
  | cons piece pieces ih =>
      obtain ⟨middle, hpiece, hmiddle⟩ := hlimited.exists_run_writeAll piece start
      rw [writePieces_cons, EStateM.run_bind, hpiece, List.flatten_cons]
      rcases Nat.lt_or_ge (room start) piece.length with hlt | hle
      · -- The piece does not fit, and no room is left for the others.
        have hfull : room middle = 0 := by
          rw [hmiddle.room_eq]
          omega
        refine ⟨middle, ?_, hmiddle.append (filled_of_full hfull hfull rfl)⟩
        rw [ending_of_lt hlt, List.length_append]
        exact (ending_of_lt (by omega)).symm
      · obtain ⟨final, hrun, hfilled⟩ := ih middle
        refine ⟨final, ?_, hmiddle.append hfilled⟩
        rw [ending_of_le hle, List.length_append, ← ending_add _ _ _ _ _ hle]
        rw [hmiddle.room_eq] at hrun
        exact hrun

end Limited

/-! ## Recorded attempts -/

/-- The recorded run ends as the run itself does.  After a failure there was no further attempt:
all attempts but the last succeeded, and all of them if the run did. -/
def Traces (plain : EStateM.Result (Halt ε) σ Unit)
    (logged : EStateM.Result (Halt ε) (σ × List (Attempt ε)) Unit) : Prop :=
  match plain with
  | .ok _ final =>
      ∃ attempts, logged = .ok () (final, attempts) ∧ ∀ attempt ∈ attempts, attempt.Succeeded
  | .error halt final =>
      ∃ attempts, logged = .error halt (final, attempts) ∧
        ∀ attempt ∈ attempts.dropLast, attempt.Succeeded

theorem forall_mem_concat {attempts : List (Attempt ε)}
    (hattempts : ∀ attempt ∈ attempts, attempt.Succeeded) (piece : List UInt8) (taken : Nat) :
    ∀ attempt ∈ attempts ++ [⟨piece, .ok taken⟩], attempt.Succeeded := by
  intro attempt hmem
  rcases List.mem_append.mp hmem with hmem | hlast
  · exact hattempts attempt hmem
  · rw [List.mem_singleton.mp hlast]
    exact ⟨taken, rfl⟩

variable (writer : Writer σ ε)

theorem traces_writeAll (piece : List UInt8) (start : σ) (attempts : List (Attempt ε))
    (hattempts : ∀ attempt ∈ attempts, attempt.Succeeded) :
    Traces ((writer.writeAll piece).run start)
      ((writer.recorded.writeAll piece).run (start, attempts)) := by
  induction piece using writeAll.induct generalizing start attempts with
  | case1 =>
      rw [writeAll, writeAll]
      exact ⟨attempts, rfl, hattempts⟩
  | case2 byte rest ih =>
      have hlogged : (writer.recorded.write (byte :: rest)).run (start, attempts) =
          match (writer.write (byte :: rest)).run start with
          | .ok taken next => .ok taken (next, attempts ++ [⟨byte :: rest, .ok taken⟩])
          | .error fault next => .error fault (next, attempts ++ [⟨byte :: rest, .error fault⟩]) :=
        rfl
      rw [run_writeAll_cons, run_writeAll_cons, hlogged]
      cases (writer.write (byte :: rest)).run start with
      | error fault next =>
          refine ⟨_, rfl, ?_⟩
          rwa [List.dropLast_concat]
      | ok taken next =>
          cases taken with
          | zero =>
              refine ⟨_, rfl, ?_⟩
              rwa [List.dropLast_concat]
          | succ taken => exact ih taken next _ (forall_mem_concat hattempts _ _)

theorem traces_writePieces (pieces : List (List UInt8)) (start : σ) (attempts : List (Attempt ε))
    (hattempts : ∀ attempt ∈ attempts, attempt.Succeeded) :
    Traces ((writer.writePieces pieces).run start)
      ((writer.recorded.writePieces pieces).run (start, attempts)) := by
  induction pieces generalizing start attempts with
  | nil => exact ⟨attempts, rfl, hattempts⟩
  | cons piece pieces ih =>
      have hpiece := writer.traces_writeAll piece start attempts hattempts
      rw [writePieces_cons, writePieces_cons, EStateM.run_bind, EStateM.run_bind]
      cases hplain : (writer.writeAll piece).run start with
      | ok value middle =>
          rw [hplain] at hpiece
          obtain ⟨more, hlogged, hmore⟩ := hpiece
          rw [hlogged]
          exact ih middle more hmore
      | error halt final =>
          rw [hplain] at hpiece
          obtain ⟨more, hlogged, hmore⟩ := hpiece
          rw [hlogged]
          exact ⟨more, rfl, hmore⟩

end Writer

/-! ## Streamed documents -/

theorem Writer.exists_attempts {σ ε : Type} {writer : Writer σ ε} {pieces : List (List UInt8)}
    {start final : σ} {size room : Nat} {fault : ε}
    (hrun : (writer.writePieces pieces).run start = ending size room fault final) :
    ∃ attempts, (writer.recorded.writePieces pieces).run (start, []) =
        ending size room fault (final, attempts) ∧
      ∀ attempt ∈ attempts.dropLast, attempt.Succeeded := by
  have htraces := writer.traces_writePieces pieces start [] nofun
  rw [hrun] at htraces
  rcases Nat.lt_or_ge room size with hlt | hle
  · rw [ending_of_lt hlt] at htraces
    obtain ⟨attempts, hlogged, hattempts⟩ := htraces
    exact ⟨attempts, hlogged.trans (ending_of_lt hlt).symm, hattempts⟩
  · rw [ending_of_le hle] at htraces
    obtain ⟨attempts, hlogged, hattempts⟩ := htraces
    refine ⟨attempts, hlogged.trans (ending_of_le hle).symm, ?_⟩
    intro attempt hmem
    exact hattempts attempt (List.dropLast_subset attempts hmem)

/-- Streaming a compiled plan to a writer that never fails gives the rendered document, and
streaming it to one with limited room gives the bytes of the document that there is room
for.  The run succeeds if that is the whole document; otherwise it ends with the failure
of the writer, and the attempt that failed was the last one. -/
theorem DocumentPlan.write_limited {binder : Binder} {scopes : Scopes} {spec : ObjectSpec}
    {plan : DocumentPlan} (hcompile : compile binder scopes spec = .ok plan)
    (cutting : Cutting) (inputs : Inputs) :
    ∃ document, (plan.write .buffer cutting inputs).run [] = .ok () document ∧
      document = Text.utf8 (plan.render inputs) ∧
      ∀ {σ ε : Type} (writer : Writer σ ε) (held : σ → List UInt8) (room : σ → Nat) (fault : ε),
        writer.Limited held room fault → ∀ start, held start = [] →
        ∃ final attempts,
          (plan.write writer cutting inputs).run start =
              Writer.ending document.length (room start) fault final ∧
            held final = document.take (room start) ∧
            (plan.write writer.recorded cutting inputs).run (start, []) =
              Writer.ending document.length (room start) fault (final, attempts) ∧
            ∀ attempt ∈ attempts.dropLast, attempt.Succeeded := by
  obtain ⟨actions, steps, hstreams⟩ := exists_streams_of_compile hcompile inputs
  obtain ⟨pieces, hpieces, hwrite⟩ := hstreams.exists_pieces cutting
  refine ⟨pieces.flatten, ?_, hpieces, ?_⟩
  · rw [hwrite, Writer.run_writePieces_buffer, List.nil_append]
  · intro σ ε writer held room fault hlimited start hempty
    obtain ⟨final, hrun, hfilled⟩ := hlimited.exists_run_writePieces pieces start
    obtain ⟨attempts, hlogged, hattempts⟩ := Writer.exists_attempts hrun
    refine ⟨final, attempts, ?_, ?_, ?_, hattempts⟩
    · rw [hwrite, hrun]
    · rw [hfilled.held_eq, hempty, List.nil_append]
    · rw [hwrite, hlogged]

theorem Sink.limited_writer : Sink.writer.Limited held room .brokenPipe where
  takes := by
    intro piece sink hpiece hroom
    have hlength : 0 < piece.length := List.length_pos_iff.mpr hpiece
    refine ⟨min piece.length sink.room, _, if_neg (Nat.ne_of_gt hroom), ?_, ?_, ?_, ?_⟩
    · exact Nat.lt_min.mpr ⟨hlength, hroom⟩
    · exact Nat.min_le_left _ _
    · show min piece.length sink.room + (sink.room - piece.length) = sink.room
      omega
    · show sink.held ++ piece.take sink.room = sink.held ++ piece.take (min piece.length sink.room)
      rw [List.take_eq_take_min, Nat.min_comm]
  refuses := by
    intro piece sink _ hroom
    exact ⟨sink, if_pos hroom, hroom, rfl⟩

/-- The room ends in the second of two elements of an array in an array. -/
theorem DocumentPlan.write_limited_orders :
    compile ⟨Orders.registry.resolve, {}⟩ ⟨Orders.placed, Orders.order, none⟩ Orders.spec =
        .ok ⟨Orders.ops⟩ ∧
      Sink.writer.Limited Sink.held Sink.room .brokenPipe ∧
      ∃ final, (DocumentPlan.write ⟨Orders.ops⟩ Sink.writer .whole Orders.inputs).run
            (.ofCapacity 60) = .error (.failed .brokenPipe) final ∧
        final.held = Text.utf8 ("\x7b\"id\":\"7\",\"lines\":[" ++
          "\x7b\"tags\":[\x7b\"tag\":\"x\",\"kind\":\"new\"\x7d,\x7b\"tag\":") := by
  have hcompile : compile ⟨Orders.registry.resolve, {}⟩
      ⟨Orders.placed, Orders.order, none⟩ Orders.spec = .ok ⟨Orders.ops⟩ := rfl
  have hlimited := Sink.limited_writer
  obtain ⟨document, -, hdocument, hwrite⟩ := write_limited hcompile .whole Orders.inputs
  obtain ⟨final, attempts, hrun, hheld, -⟩ :=
    hwrite Sink.writer Sink.held Sink.room .brokenPipe hlimited (.ofCapacity 60) rfl
  rw [render_of_compile Orders.inputs hcompile] at hdocument
  subst document
  refine ⟨hcompile, hlimited, final, ?_, ?_⟩
  · rw [hrun]
    refine Writer.ending_of_lt ?_
    decide +kernel
  · rw [hheld]
    decide +kernel

end MappingPlan
