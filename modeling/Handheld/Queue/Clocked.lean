import Handheld.Journal.Diagnostic

/-!
# Clocked Queues

A clocked queue holds items with the clock each was stamped with, the oldest first.  It is a
sliding window: when more than `limit` items wait at the time of a push, the oldest is given
up.  So at most `limit + 1` items ever wait.

The holders of a queue share this one value: what one pushes another pops.
-/

namespace Handheld

/-- A queue of stamped items that gives up the oldest beyond its limit. -/
structure ClockedQueue (α : Type) where
  limit : Nat := 0
  items : List (Instant × α) := []
deriving Repr

namespace ClockedQueue

variable {α : Type}

/-- The queue without its oldest item, if it is over its limit. -/
def makeRoom (queue : ClockedQueue α) : Noted (ClockedQueue α) :=
  if queue.limit < queue.items.length then
    ⟨{ queue with items := queue.items.tail }, [.queueOverLimit queue.limit]⟩
  else ⟨queue, []⟩

/-- Adds an item behind all others.  The room is made first, so `limit + 1` items may wait
afterwards, and not only `limit`. -/
def push (queue : ClockedQueue α) (clock : Instant) (item : α) : Noted (ClockedQueue α) :=
  let room := queue.makeRoom
  { room with value := { queue with items := room.value.items ++ [(clock, item)] } }

/-- Takes the oldest item out, if there is one. -/
def pop (queue : ClockedQueue α) : Option (Instant × α) × ClockedQueue α :=
  (queue.items.head?, { queue with items := queue.items.tail })

end ClockedQueue

end Handheld
