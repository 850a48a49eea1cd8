import Handheld.Checked
import Handheld.Text.Number

/-!
# Statistics

How often the core was stepped and how long that took.

A `Timer` measures a repeated operation.  It keeps the longest and the shortest time in
nanoseconds and a running average, in which every time weighs as much as all before it.  A
time is cut off at the largest 32-bit word.  A start that is not followed by an end before
the next start counts for nothing, and so does an end without a start.
-/

namespace Handheld

/-! ## §1 Timers -/

/-- The times of a repeated operation, in nanoseconds. -/
structure Timer where
  high : UInt32 := 0
  average : Float32 := 0
  low : UInt32 := 0xFFFFFFFF
  events : UInt32 := 0
  /-- The reading of the stopwatch at the start of the operation that is under way. -/
  started : Option Nat := none

namespace Timer

/-- Begins an operation.  One that is already under way is forgotten. -/
def start (timer : Timer) (now : Nat) : Timer := { timer with started := some now }

/-- A time in nanoseconds as a word. -/
def clamp (nanoseconds : Nat) : UInt32 := UInt32.ofNat (min nanoseconds (UInt32.size - 1))

/-- Counts a time.  The first one is the average as it stands.  The count of times is a word,
and one time too many is a fault. -/
def record (timer : Timer) (time : UInt32) : Faulty Timer := do
  let events ← Checked.next32 timer.events
  return {
    high := max timer.high time
    low := min timer.low time
    events
    average :=
      if events = 1 then time.toFloat32 else (timer.average + time.toFloat32) / 2
    started := none }

/-- Ends the operation that is under way, if any, and counts its time. -/
def stop (timer : Timer) (now : Nat) : Faulty Timer :=
  match timer.started with
  | none => return timer
  | some start => timer.record (clamp (now - start))

def text (timer : Timer) : String :=
  if timer.events = 0 then "no events"
  else
    "H: " ++ Text.padLeft 8 (toString timer.high)
      ++ " A: " ++ Text.padLeft 4 (toString timer.average.toUInt32)
      ++ " L: " ++ Text.padLeft 8 (toString timer.low)
      ++ " over " ++ toString timer.events ++ " events"

end Timer

/-! ## §2 Statistics -/

/-- What a run has done so far. -/
structure Statistics where
  /-- Frames copied out of the core and handed on for presentation. -/
  frames : UInt64 := 0
  /-- Steps that ended with a status other than zero. -/
  faults : UInt64 := 0
  stepTime : Timer := {}

def Statistics.text (statistics : Statistics) : String :=
  "Frames: " ++ toString statistics.frames ++ "\nFaults: " ++ toString statistics.faults
    ++ "\nStep:   " ++ statistics.stepTime.text ++ "\n"

end Handheld
