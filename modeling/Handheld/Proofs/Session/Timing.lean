import Mathlib.Data.List.DropRight
import Handheld.Proofs.Session.Tick

/-!
# What a Timer Measures

A timer is started and stopped in any order.  A stop measures the time since the latest start, if
there has been one since the stop before.  `Timer.extremes_of_spans` says that a timer counts
exactly these times and keeps the longest and the shortest of them, for every sequence of starts
and stops.

The times are read off the sequence alone (`Timer.spans`).  What a timer has after the sequence is
`Timer.Measured`, which every call keeps.
-/

namespace Handheld.Timer

/-! ## §1 Starts and stops

The times that a timer measures are determined by the calls and the readings at these calls, without
the timer.  A stop measures from the latest start, if there has been one since the stop before. -/

/-- What is done with a timer, and the reading of the clock at that time. -/
inductive Call
  | start (now : Nat)
  | stop (now : Nat)

def Call.start? : Call → Option Nat
  | .start now => some now
  | .stop _ => none

def call (timer : Timer) : Call → Faulty Timer
  | .start now => return timer.start now
  | .stop now => timer.stop now

/-- What becomes of a new timer. -/
def run (calls : List Call) : Faulty Timer := calls.foldlM call {}

/-- The starts since the last stop, the latest of them last. -/
def startsSinceStop (calls : List Call) : List Nat :=
  (calls.rtakeWhile (·.start?.isSome)).filterMap Call.start?

/-- The time that the call measures after the others, if it does. -/
def span? (before : List Call) : Call → Option Nat
  | .start _ => none
  | .stop now => (startsSinceStop before).getLast?.map (now - ·)

/-- The times that are measured, in nanoseconds. -/
def spans (calls : List Call) : List Nat :=
  (List.range calls.length).filterMap fun place => calls[place]?.bind (span? (calls.take place))

/-- The times that are measured, cut off at the largest word. -/
def clampedSpans (calls : List Call) : List Nat := (spans calls).map (min · (2 ^ 32 - 1))

theorem run_append (calls later : List Call) :
    run (calls ++ later) = run calls >>= fun timer => later.foldlM call timer := List.foldlM_append

theorem startsSinceStop_start (calls : List Call) (now : Nat) :
    startsSinceStop (calls ++ [.start now]) = startsSinceStop calls ++ [now] := by
  unfold startsSinceStop
  rw [List.rtakeWhile_concat_pos _ _ _ rfl, List.filterMap_append]
  rfl

theorem startsSinceStop_stop (calls : List Call) (now : Nat) :
    startsSinceStop (calls ++ [.stop now]) = [] := by
  unfold startsSinceStop
  rw [List.rtakeWhile_concat_neg _ _ _ (by simp [Call.start?])]
  rfl

theorem spans_concat (calls : List Call) (last : Call) :
    spans (calls ++ [last]) = spans calls ++ (span? calls last).toList := by
  unfold spans
  rw [List.length_append, List.length_singleton, List.range_succ, List.filterMap_append]
  refine congrArg₂ (· ++ ·) (List.filterMap_congr fun place member => ?_) ?_
  -- What a call measures hangs on the calls before it, and these are the same.
  · have inside := List.mem_range.1 member
    rw [List.getElem?_append_left inside, List.take_append_of_le_length (Nat.le_of_lt inside)]
  · rw [List.filterMap_cons, List.getElem?_concat_length, List.take_left, Option.bind_some]
    cases span? calls last <;> rfl

theorem span?_stop_of_started {calls : List Call} {begin : Nat}
    (started : (startsSinceStop calls).getLast? = some begin) (now : Nat) :
    span? calls (.stop now) = some (now - begin) := by
  rw [span?, started]
  rfl

theorem span?_stop_of_not_started {calls : List Call}
    (idle : (startsSinceStop calls).getLast? = none) (now : Nat) :
    span? calls (.stop now) = none := by
  rw [span?, idle]
  rfl

/-! ## §2 One call

`Measured` is the invariant, with the two extremes as running ones.  Each kind of call keeps it,
unless the counter is full. -/

/-- What a timer has after the calls. -/
structure Measured (calls : List Call) (timer : Timer) : Prop where
  started : timer.started = (startsSinceStop calls).getLast?
  events : timer.events.toNat = (spans calls).length
  high : timer.high.toNat = (clampedSpans calls).foldl max 0
  low : timer.low.toNat = (clampedSpans calls).foldl min (2 ^ 32 - 1)

theorem measured_new : Measured [] {} where
  started := rfl
  events := rfl
  high := rfl
  low := rfl

variable {calls : List Call} {timer : Timer}

/-- A call that measures nothing leaves all but the start as it was. -/
theorem Measured.idle (measured : Measured calls timer) {last : Call}
    (unmeasured : span? calls last = none) :
    Measured (calls ++ [last])
      { timer with started := (startsSinceStop (calls ++ [last])).getLast? } := by
  have same : spans (calls ++ [last]) = spans calls := by
    rw [spans_concat, unmeasured, Option.toList_none, List.append_nil]
  refine ⟨rfl, ?_, ?_, ?_⟩
  · rw [same]
    exact measured.events
  · rw [clampedSpans, same]
    exact measured.high
  · rw [clampedSpans, same]
    exact measured.low

theorem Measured.start (measured : Measured calls timer) (now : Nat) :
    Measured (calls ++ [.start now]) (timer.start now) := by
  have started := measured.idle (show span? calls (.start now) = none from rfl)
  rwa [startsSinceStop_start, List.getLast?_concat] at started

theorem toNat_clamp (nanoseconds : Nat) :
    (clamp nanoseconds).toNat = min nanoseconds (2 ^ 32 - 1) := by
  refine UInt32.toNat_ofNat_of_lt' ?_
  show min _ (2 ^ 32 - 1) < 2 ^ 32
  omega

/-- A time that is measured is counted if the counter has room for it. -/
theorem Measured.record (measured : Measured calls timer) {last : Call} {span : Nat}
    (measures : span? calls last = some span) (nothing : startsSinceStop (calls ++ [last]) = [])
    (countable : (spans (calls ++ [last])).length < 2 ^ 32) :
    ∃ next, timer.record (clamp span) = .ok next ∧ Measured (calls ++ [last]) next := by
  -- The new time comes behind the others, and it is cut off like them.
  have longer : spans (calls ++ [last]) = spans calls ++ [span] := by
    rw [spans_concat, measures, Option.toList_some]
  have clamped : clampedSpans (calls ++ [last]) =
      clampedSpans calls ++ [min span (2 ^ 32 - 1)] := by
    rw [clampedSpans, longer, List.map_append]
    rfl
  rw [longer, List.length_append, List.length_singleton, ← measured.events] at countable
  obtain ⟨events, counted, events_eq⟩ := Checked.next32_ok countable
  unfold Timer.record
  rw [counted]
  -- The longest and the shortest time are running extremes, so each takes the new one into account.
  refine ⟨_, rfl, ?_, ?_, ?_, ?_⟩
  · rw [nothing]
    rfl
  · rw [longer, List.length_append, List.length_singleton, ← measured.events]
    exact events_eq
  · rw [clamped, List.foldl_append, ← measured.high, UInt32.toNat_max, toNat_clamp]
    rfl
  · rw [clamped, List.foldl_append, ← measured.low, UInt32.toNat_min, toNat_clamp]
    rfl

/-- A stop without a start changes nothing. -/
theorem Measured.stop_idle (measured : Measured calls timer)
    (idle : (startsSinceStop calls).getLast? = none) (now : Nat) :
    timer.stop now = .ok timer ∧ Measured (calls ++ [.stop now]) timer := by
  have stopped := measured.started.trans idle
  constructor
  · unfold Timer.stop
    rw [stopped]
    rfl
  · have unchanged := measured.idle (span?_stop_of_not_started idle now)
    rw [startsSinceStop_stop, List.getLast?_nil, ← stopped] at unchanged
    exact unchanged

theorem Measured.call (measured : Measured calls timer) (last : Call)
    (countable : (spans (calls ++ [last])).length < 2 ^ 32) :
    ∃ next, timer.call last = .ok next ∧ Measured (calls ++ [last]) next := by
  cases last with
  | start now => exact ⟨_, rfl, measured.start now⟩
  | stop now =>
    -- A stop counts if there has been a start since the stop before.
    cases latest : (startsSinceStop calls).getLast? with
    | none => exact ⟨timer, measured.stop_idle latest now⟩
    | some begin =>
      show ∃ next, timer.stop now = .ok next ∧ _
      unfold Timer.stop
      rw [measured.started, latest]
      exact measured.record (span?_stop_of_started latest now) (startsSinceStop_stop calls now)
        countable

/-- Only a stop that has a start can find the counter full. -/
theorem Measured.call_overflow (measured : Measured calls timer) (last : Call)
    (exhausted : 2 ^ 32 ≤ (spans (calls ++ [last])).length) :
    timer.call last = .error .overflow := by
  -- The counter has room for all times so far, because it holds their number.
  have room : (spans calls).length < 2 ^ 32 := by
    rw [← measured.events]
    exact timer.events.toNat_lt
  rw [spans_concat, List.length_append] at exhausted
  cases last with
  | start now => exact absurd exhausted (Nat.not_le.2 room)
  | stop now =>
    cases latest : (startsSinceStop calls).getLast? with
    | none =>
      rw [span?_stop_of_not_started latest] at exhausted
      exact absurd exhausted (Nat.not_le.2 room)
    | some begin =>
      rw [span?_stop_of_started latest, ← measured.events] at exhausted
      exact Timer.stop_exhausted (measured.started.trans latest) exhausted now

/-! ## §3 A sequence of calls

Calls are added at the end; the counter overflows at the first time that it cannot count, and
nothing is measured then. -/

theorem run_concat (calls : List Call) (last : Call) :
    run (calls ++ [last]) = run calls >>= fun timer => timer.call last := by
  rw [run_append]
  exact congrArg _ (funext fun timer => bind_pure _)

/-- The times are counted if the counter has room for them, and else it overflows. -/
theorem run_outcome (calls : List Call) :
    ((spans calls).length < 2 ^ 32 ∧ ∃ timer, run calls = .ok timer ∧ Measured calls timer) ∨
      2 ^ 32 ≤ (spans calls).length ∧ run calls = .error .overflow := by
  -- Calls are added at the end, because the state of the timer is that after all of them.
  induction calls using List.reverseRecOn with
  | nil => exact .inl ⟨by decide, {}, rfl, measured_new⟩
  | append_singleton calls last ih =>
    rw [run_concat]
    rcases ih with ⟨-, timer, gives, measured⟩ | ⟨exhausted, overflows⟩
    · rw [gives]
      rcases Nat.lt_or_ge (spans (calls ++ [last])).length (2 ^ 32) with countable | exhausted
      · exact .inl ⟨countable, measured.call last countable⟩
      · exact .inr ⟨exhausted, measured.call_overflow last exhausted⟩
    -- Nothing is done after the overflow, but the times only get more.
    · refine .inr ⟨Nat.le_trans exhausted ?_, by rw [overflows]; rfl⟩
      rw [spans_concat, List.length_append]
      exact Nat.le_add_right _ _

/-! ## §4 The extremes

From running extremes to the largest and the smallest of all times. -/

theorem clampedSpans_ne_nil (measures : spans calls ≠ []) : clampedSpans calls ≠ [] :=
  fun none => measures (List.map_eq_nil_iff.1 none)

theorem Measured.longest (measured : Measured calls timer) (measures : spans calls ≠ []) :
    (clampedSpans calls).max? = some timer.high.toNat := by
  obtain ⟨longest, found⟩ := Option.ne_none_iff_exists'.1 <|
    mt List.max?_eq_none_iff.1 (clampedSpans_ne_nil measures)
  rw [measured.high, List.foldl_max, found]
  exact congrArg some (Nat.zero_max _).symm

/-- The mark starts at the largest word, which no time that is cut off exceeds. -/
theorem Measured.shortest (measured : Measured calls timer) (measures : spans calls ≠ []) :
    (clampedSpans calls).min? = some timer.low.toNat := by
  obtain ⟨shortest, found⟩ := Option.ne_none_iff_exists'.1 <|
    mt List.min?_eq_none_iff.1 (clampedSpans_ne_nil measures)
  obtain ⟨span, -, cut⟩ := List.mem_map.1 (List.min?_mem found)
  rw [measured.low, List.foldl_min, found, ← cut]
  exact congrArg some (Nat.min_eq_right (Nat.min_le_right _ _)).symm

theorem Measured.low_le_high (measured : Measured calls timer) (measures : spans calls ≠ []) :
    timer.low ≤ timer.high := by
  have shortest := List.min?_mem (measured.shortest measures)
  have greatest := (List.max?_eq_some_iff.1 (measured.longest measures)).2
  exact UInt32.le_iff_toNat_le.2 (greatest _ shortest)

/-- Whatever is done with a new timer: it counts the stops that have a start since the stop before,
unless they are more than it can count.  If it has counted any, it keeps the longest and the
shortest of the times since the latest such start, each cut off at the largest word.  A stop
without a start changes nothing, now or later, and of two starts in a row the first changes
nothing. -/
theorem extremes_of_spans (calls : List Call) :
    (2 ^ 32 ≤ (spans calls).length → run calls = .error .overflow) ∧
      ((spans calls).length < 2 ^ 32 → ∃ timer, run calls = .ok timer ∧
        timer.events.toNat = (spans calls).length ∧
        (0 < timer.events →
          (clampedSpans calls).max? = some timer.high.toNat ∧
          (clampedSpans calls).min? = some timer.low.toNat ∧ timer.low ≤ timer.high)) ∧
      (startsSinceStop calls = [] → ∀ now later,
        run (calls ++ .stop now :: later) = run (calls ++ later)) ∧
      ∀ first second later,
        run (calls ++ .start first :: .start second :: later) =
          run (calls ++ .start second :: later) := by
  -- Either the times can be counted and the timer has measured them, or it has overflowed.
  have outcome := run_outcome calls
  refine ⟨fun exhausted => ?_, fun countable => ?_, fun idle now later => ?_,
    fun first second later => ?_⟩
  · rcases outcome with ⟨countable, -⟩ | ⟨-, overflows⟩
    · omega
    · exact overflows
  · rcases outcome with ⟨-, timer, gives, measured⟩ | ⟨exhausted, -⟩
    · refine ⟨timer, gives, measured.events, fun counted => ?_⟩
      -- A counter above zero has counted a time, so there is a longest and a shortest one.
      have measures : spans calls ≠ [] := List.ne_nil_of_length_pos <| by
        rw [← measured.events]
        exact UInt32.lt_iff_toNat_lt.1 counted
      exact ⟨measured.longest measures, measured.shortest measures, measured.low_le_high measures⟩
    · omega
  -- The two sequences only differ behind the calls that they share.
  · rw [run_append, run_append]
    rcases outcome with ⟨-, timer, gives, measured⟩ | ⟨-, overflows⟩
    · have unchanged := (measured.stop_idle (by rw [idle]; rfl) now).1
      rw [gives]
      show timer.stop now >>= _ = _
      rw [unchanged]
    · rw [overflows]
      rfl
  · rw [run_append, run_append]
    rfl

/-- The first stop has no start, the first start is forgotten, and the last one has not ended. -/
example : spans [.stop 3, .start 5, .start 7, .stop 17, .stop 20, .start 21] = [10] := by decide

end Handheld.Timer
