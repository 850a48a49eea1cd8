/-!
# The Stopwatch

A stopwatch gives readings of a monotonic clock in nanoseconds.  The readings it will give
are part of its state, so that every run with a stopwatch is a function of its inputs.  After
the last of them it stands still.
-/

namespace Handheld

/-- A clock that gives a sequence of readings. -/
structure Stopwatch where
  now : Nat := 0
  upcoming : List Nat := []
deriving DecidableEq, Repr

def Stopwatch.read (watch : Stopwatch) : Nat × Stopwatch :=
  match watch.upcoming with
  | [] => (watch.now, watch)
  | reading :: rest => (reading, ⟨reading, rest⟩)

end Handheld
