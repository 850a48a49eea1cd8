import Handheld.Picture.Frame
import Handheld.Queue.Clocked

/-!
# The Frame Hand-off

Frames pass from the side that produces them to the side that shows them.  The showing side
says which encoding it wants, and never shows a frame that is not newer than all it has shown
before: such a frame is *stale* and discarded.
-/

namespace Handheld

/-- The ordered passage of frames from production to presentation. -/
structure Handoff where
  queue : ClockedQueue Frame
  /-- The encoding wanted by the showing side. -/
  encoding : PixelEncoding := .rgba
  /-- The clock of the frame shown last. -/
  lastClock : Option Instant := none
deriving Repr

namespace Handoff

/-- A passage without any frames.  At most `depth + 1` frames will wait in it. -/
def new (depth : Nat) : Handoff := { queue := { limit := depth } }

/-- A frame stamped with `clock` is newer than the one shown last. -/
def IsNewer (last : Option Instant) (clock : Instant) : Prop :=
  ∀ shown ∈ last, shown.femtos < clock.femtos

instance (last : Option Instant) (clock : Instant) : Decidable (IsNewer last clock) :=
  match last with
  | none => isTrue (by simp [IsNewer])
  | some shown =>
    decidable_of_iff (shown.femtos < clock.femtos) (by simp [IsNewer])

/-- The producing side hands a frame on.  Its clock is not looked at here: a stale frame is
found out only when it is about to be shown. -/
def add (handoff : Handoff) (clock : Instant) (frame : Frame) : Noted Handoff :=
  let pushed := handoff.queue.push clock frame
  ⟨{ handoff with queue := pushed.value }, pushed.notes⟩

/-- The showing side wants another encoding.  Frames that have been handed on keep theirs. -/
def request (handoff : Handoff) (encoding : PixelEncoding) : Handoff :=
  { handoff with encoding }

/-- The first frame that is newer than `last`, and the frames behind it. -/
def firstNewer (last : Option Instant) :
    List (Instant × Frame) → Noted (Option (Instant × Frame) × List (Instant × Frame))
  | [] => ⟨(none, []), []⟩
  | (clock, frame) :: rest =>
    if IsNewer last clock then ⟨(some (clock, frame), rest), []⟩
    else
      let later := firstNewer last rest
      ⟨later.value, .staleFrame clock :: later.notes⟩

/-- Takes out the oldest frame that is not stale, and all stale ones before it. -/
def next (handoff : Handoff) : Noted (Option (Instant × Frame) × Handoff) :=
  let found := firstNewer handoff.lastClock handoff.queue.items
  let queue := { handoff.queue with items := found.value.2 }
  match found.value.1 with
  | none => ⟨(none, { handoff with queue }), found.notes⟩
  | some (clock, frame) =>
    ⟨(some (clock, frame), { handoff with queue, lastClock := some clock }), found.notes⟩

theorem length_firstNewer_lt {last : Option Instant} {items rest : List (Instant × Frame)}
    {found : Instant × Frame} (h : (firstNewer last items).value = (some found, rest)) :
    rest.length < items.length := by
  induction items with
  | nil => simp [firstNewer] at h
  | cons item items ih =>
    obtain ⟨clock, frame⟩ := item
    unfold firstNewer at h
    split at h
    -- The first frame is taken.
    · simp only [Prod.mk.injEq] at h
      simp [h.2]
    -- It is stale, and a later one is taken.
    · have := ih h
      simp only [List.length_cons]
      omega

/-- A frame that is taken out is gone: the queue gets shorter. -/
theorem length_next_lt {handoff rest : Handoff} {found : Instant × Frame}
    (h : handoff.next.value = (some found, rest)) :
    rest.queue.items.length < handoff.queue.items.length := by
  unfold next at h
  cases hfound : (firstNewer handoff.lastClock handoff.queue.items).value with
  | mk first items =>
    cases first with
    -- Only stale frames waited, and none was taken out.
    | none => simp [hfound] at h
    | some first =>
      simp only [hfound, Prod.mk.injEq] at h
      rw [← h.2]
      exact length_firstNewer_lt hfound

end Handoff

end Handheld
