import MappingPlan.Plan.Document

/-!
# Streaming documents

A document can be streamed to a writer instead of being collected.  A writer is offered
bytes and takes some of the first of them, or fails.  What it did not take is offered
again, until all of a piece is taken; a failure ends the run.  (A call that is interrupted
is repeated, so a writer stands for calls that go through.)

A run goes through its instructions from the front.  At an array it cuts off the
instructions for one element, runs them for every element, and goes on behind them.  The
visit of an element cannot end the visits of the others, so the outcome so far is carried
along: after a failure the remaining elements are passed over.

A run can be followed: it tells the position of every instruction that it comes to.  When a
document is written, nobody is told.
-/

namespace MappingPlan

def Text.utf8 (text : String) : List UInt8 :=
  text.toUTF8.data.toList

/-- What bytes can be written to: it answers with the number of bytes that it took. -/
structure Writer (σ ε : Type) where
  write : List UInt8 → EStateM ε σ Nat

/-- Why a run ends before its last instruction. -/
inductive Halt (ε : Type) where
  | failed (fault : ε)
  /-- the writer took nothing of what it was offered -/
  | stalled
  /-- there are fewer instructions left than one element takes -/
  | outOfRange
  deriving DecidableEq, Repr

/-- How the text of a value is cut into pieces that are written one by one. -/
structure Cutting where
  pieces : Value → List (List UInt8)
  flatten_pieces : ∀ value, (pieces value).flatten = Text.utf8 value.toJson

def Cutting.whole : Cutting where
  pieces value := [Text.utf8 value.toJson]
  flatten_pieces value := by simp

namespace Writer

variable {σ ε : Type} (writer : Writer σ ε)

/-- Offers a piece until all of it is taken. -/
def writeAll : List UInt8 → EStateM (Halt ε) σ Unit
  | [] => pure ()
  | byte :: rest => fun state =>
      match (writer.write (byte :: rest)).run state with
      | .error fault state => .error (.failed fault) state
      | .ok 0 state => .error .stalled state
      | .ok (taken + 1) state => (writeAll (rest.drop taken)).run state
termination_by piece => piece.length
decreasing_by
  simp only [List.length_drop, List.length_cons]
  omega

def writePieces (pieces : List (List UInt8)) : EStateM (Halt ε) σ Unit :=
  pieces.forM writer.writeAll

end Writer

/-- The outcome of the elements so far, and whether the next one is the first. -/
structure Visit (σ ε : Type) where
  outcome : EStateM.Result (Halt ε) σ Unit
  first : Bool

namespace Visit

variable {σ ε : Type}

def next (separator : EStateM (Halt ε) σ Unit) (element : Instance → EStateM (Halt ε) σ Unit)
    (visit : Visit σ ε) (item : Instance) : Visit σ ε :=
  match visit.outcome with
  | .error halt state => ⟨.error halt state, visit.first⟩
  | .ok _ state =>
      if visit.first then ⟨(element item).run state, false⟩
      else
        match separator.run state with
        | .error halt state => ⟨.error halt state, false⟩
        | .ok _ state => ⟨(element item).run state, false⟩

/-- Visits every element, in order. -/
def all (separator : EStateM (Halt ε) σ Unit) (element : Instance → EStateM (Halt ε) σ Unit)
    (items : List Instance) : EStateM (Halt ε) σ Unit := fun state =>
  (items.foldl (next separator element) ⟨.ok () state, true⟩).outcome

end Visit

/-- Runs instructions for some inputs.  The first of them stands at a position of the plan;
`note` is told the position of each instruction that the run comes to. -/
def streamOps {σ ε : Type} (writer : Writer σ ε) (cutting : Cutting) (note : Nat → σ → σ)
    (position : Nat) : List Op → Inputs → EStateM (Halt ε) σ Unit
  | [], _ => pure ()
  | op :: rest, inputs => do
      modify (note position)
      match op with
      | .beginObject =>
          writer.writeAll (Text.utf8 "\x7b")
          streamOps writer cutting note (position + 1) rest inputs
      | .endObject =>
          writer.writeAll (Text.utf8 "\x7d")
          streamOps writer cutting note (position + 1) rest inputs
      | .propertyName name first =>
          writer.writeAll (Text.utf8 (propertyText name first))
          streamOps writer cutting note (position + 1) rest inputs
      | .emitValue source =>
          writer.writePieces (cutting.pieces (source.evaluate inputs))
          streamOps writer cutting note (position + 1) rest inputs
      | .endArray =>
          writer.writeAll (Text.utf8 "]")
          streamOps writer cutting note (position + 1) rest inputs
      | .beginArray source body =>
          writer.writeAll (Text.utf8 "[")
          if body ≤ rest.length then
            Visit.all (writer.writeAll (Text.utf8 ","))
              (fun item =>
                streamOps writer cutting note (position + 1) (rest.take body)
                  (inputs.withItem item))
              ((source.items? inputs).getD [])
            streamOps writer cutting note (position + 1 + body) (rest.drop body) inputs
          else throw .outOfRange
termination_by ops => ops.length
decreasing_by all_goals grind

def DocumentPlan.write {σ ε : Type} (plan : DocumentPlan) (writer : Writer σ ε)
    (cutting : Cutting) (inputs : Inputs) : EStateM (Halt ε) σ Unit :=
  streamOps writer cutting (fun _ state => state) 0 plan.ops inputs

end MappingPlan
