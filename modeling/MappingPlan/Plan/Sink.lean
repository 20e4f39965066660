import MappingPlan.Plan.Stream

/-!
# Sinks

A sink is a writer that has room for a given number of bytes and refuses every further
one.  Of a piece that does not fit it takes as much as there is room for.
-/

namespace MappingPlan

structure Sink where
  held : List UInt8
  room : Nat
  deriving DecidableEq, Repr

namespace Sink

inductive Fault where
  | brokenPipe
  deriving DecidableEq, Repr

def ofCapacity (capacity : Nat) : Sink := ⟨[], capacity⟩

def writer : Writer Sink Fault where
  write piece sink :=
    if sink.room = 0 then .error .brokenPipe sink
    else
      .ok (min piece.length sink.room)
        ⟨sink.held ++ piece.take sink.room, sink.room - piece.length⟩

end Sink

/-- The sink after the document, and whether it took the whole of it. -/
def DocumentPlan.stream (plan : DocumentPlan) (inputs : Inputs) (sink : Sink) : Sink × Bool :=
  match (plan.write Sink.writer .whole inputs).run sink with
  | .ok _ sink => (sink, true)
  | .error _ sink => (sink, false)

end MappingPlan
