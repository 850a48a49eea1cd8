import Mathlib.Data.List.Chain
import Handheld.Bench.Core
import Handheld.Proofs.Loop.Handling
import Handheld.Rehearsal.Platform
import Handheld.Rehearsal.Stage

/-!
# The Course of a Run

A run of the frame loop is a row of rounds.  A round begins with a refresh of the display; the
events that wait are handled in the order of sending, and unless a quit request is met, there is
one tick and the host is told once how many frames there are.  `Course` describes this without the
loop, its fuel and its counters; a run is one by `run_course`, and every course that comes to an
end is a run by `Course.run`.  That a run does come to an end is up to the host; `Lifetime` takes
that up.
-/

namespace Handheld.FrameLoop

open Act

/-! ## §1 Rounds

A course has no fuel and no counters, only what the host, the core and the surface answer.  It
can be left unfinished at any point; otherwise its cases are what comes of one refresh: the
display is gone, the wait fails, a quit request is met, or there is a round and the course goes
on. -/

/-- One refresh of the display and what was done after it. -/
structure Round where
  /-- The events that the user sent before the refresh. -/
  sent : List HostEvent
  handled : List Handled
  /-- The number of frames that the host was told, if there was a tick. -/
  told : Option UInt64
deriving DecidableEq

/-- The round was not stopped by a quit request. -/
def Round.hasTick (round : Round) : Bool := round.told.isSome

/-- What came after the last round. -/
inductive Close
  /-- The last round met a quit request. -/
  | quit
  /-- The display went away. -/
  | gone
  | failed (cause : HostError)
  /-- Another refresh, which was not waited for. -/
  | unfinished
deriving DecidableEq

def Close.ending : Close → Ending
  | .quit | .gone => .stopped
  | .failed cause => .failed (.surface cause)
  | .unfinished => .unfinished

/-- The calls to the host after the last round. -/
def Close.hostCalls : Close → List HostCall
  | .quit | .unfinished => []
  | .gone => [.refresh (.ok false)]
  | .failed cause => [.refresh (.error cause)]

/-- The calls to the host in one round. -/
def Round.hostCalls (round : Round) : List HostCall :=
  .refresh (.ok true) :: (round.handled.filterMap Handled.refusal).map .reportError
    ++ round.told.toList.map .frameComplete

section Runs

variable [Clockwork] {σ τ : Type} [NativeCore σ] [Host τ]

/-- How a run goes on from a point where it waits for a refresh.  The first argument is what the
user has sent already. -/
inductive Course : List HostEvent → Emulator → Rig σ τ → List Round → Close → List Entry →
    Emulator → Rig σ τ → Prop
  | unfinished (waiting : List HostEvent) (emulator : Emulator) (rig : Rig σ τ) :
      Course waiting emulator rig [] .unfinished [] emulator rig
  | gone {waiting sent : List HostEvent} {emulator : Emulator} {rig : Rig σ τ} {display : τ}
      (answers : Host.waitForRefresh rig.display = .ok ((.ok false, display), sent)) :
      Course waiting emulator rig [] .gone [.host (.refresh (.ok false))]
        emulator { rig with display }
  | failed {waiting sent : List HostEvent} {emulator : Emulator} {rig : Rig σ τ} {display : τ}
      {cause : HostError}
      (answers : Host.waitForRefresh rig.display = .ok ((.error cause, display), sent)) :
      Course waiting emulator rig [] (.failed cause) [.host (.refresh (.error cause))]
        emulator { rig with display }
  | quit {waiting sent : List HostEvent} {emulator last : Emulator} {rig after : Rig σ τ}
      {display : τ} {handled : List Handled} {made : List Entry}
      (answers : Host.waitForRefresh rig.display = .ok ((.ok true, display), sent))
      (quits : .quit ∈ waiting ++ sent)
      (handles : Handles emulator { rig with display } handled made last after)
      (all : handled.map Handled.event = beforeQuit (waiting ++ sent)) :
      Course waiting emulator rig [⟨sent, handled, none⟩] .quit
        (.host (.refresh (.ok true)) :: made) last after
  | round {waiting sent : List HostEvent} {emulator middle ticked last : Emulator}
      {rig between drawn after : Rig σ τ} {display : τ} {handled : List Handled}
      {made shown more : List Entry} {answer : Except Error Bool} {rounds : List Round}
      {close : Close}
      (answers : Host.waitForRefresh rig.display = .ok ((.ok true, display), sent))
      (clear : .quit ∉ waiting ++ sent)
      (handles : Handles emulator { rig with display } handled made middle between)
      (all : handled.map Handled.event = waiting ++ sent)
      (ticks : middle.tick.Gives between (answer, ticked) drawn shown)
      (rest : Course [] ticked
        { drawn with display := Host.frameComplete ticked.statistics.frames drawn.display }
        rounds close more last after) :
      Course waiting emulator rig (⟨sent, handled, some ticked.statistics.frames⟩ :: rounds) close
        (.host (.refresh (.ok true)) :: (made ++
          (shown ++ [.host (.frameComplete ticked.statistics.frames)]) ++ more)) last after

/-! ## §2 What one wake does

A wake is taken apart into the events that it handles and the advance.  Whether there is an advance
is decided by the events that wait. -/

variable {loop next : FrameLoop} {emulator last : Emulator} {rig after : Rig σ τ}
  {calls : List Entry}

/-- The loop after its waiting events have been handled. -/
def drained (loop : FrameLoop) : FrameLoop :=
  { loop with
    events := ⟨behindQuit loop.events.pending⟩
    running := loop.running && !decide (.quit ∈ loop.events.pending) }

theorem advance_gives_iff :
    (loop.advance emulator).Gives rig (next, last) after calls ↔
      ∃ wakes clock answer middle made, Checked.next64 loop.wakes = .ok wakes ∧
        loop.clock.advance loop.period = .ok clock ∧ next = { loop with wakes, clock } ∧
        emulator.tick.Gives rig (answer, last) middle made ∧
        after = { middle with
          display := Host.frameComplete last.statistics.frames middle.display } ∧
        calls = made ++ [.host (.frameComplete last.statistics.frames)] := by
  constructor
  -- Each part of the advance gives what it gives; the rest of the proof only puts this together
  -- again.
  · intro gives
    obtain ⟨wakes, _, _, _, counted, moves, rfl⟩ := gives_bind_iff.1 gives
    obtain ⟨counts, rfl, rfl⟩ := gives_ofFaulty_iff.1 counted
    obtain ⟨clock, _, _, _, moved, rest, rfl⟩ := gives_bind_iff.1 moves
    obtain ⟨advances, rfl, rfl⟩ := gives_ofFaulty_iff.1 moved
    obtain ⟨⟨answer, ticked⟩, middle, made, _, ticks, notes, rfl⟩ := gives_bind_iff.1 rest
    obtain ⟨_, _, _, _, noted, tells, rfl⟩ := gives_bind_iff.1 notes
    obtain ⟨same, rfl⟩ := gives_noteError_iff.1 noted
    obtain ⟨_, _, _, _, told, returned, rfl⟩ := gives_bind_iff.1 tells
    obtain ⟨rfl, rfl⟩ := gives_frameComplete_iff.1 told
    obtain ⟨value, rfl, rfl⟩ := gives_pure_iff.1 returned
    cases value
    subst same
    exact ⟨wakes, clock, answer, _, made, counts, advances, rfl, ticks, rfl, rfl⟩
  · rintro ⟨wakes, clock, answer, middle, made, counts, advances, rfl, ticks, rfl, rfl⟩
    refine (gives_ofFaulty counts _).quietly ((gives_ofFaulty advances _).quietly ?_)
    have noted : (noteError answer Diagnostic.tickFailed : Act σ τ Unit).Gives middle () middle
        [] := gives_noteError_iff.2 ⟨rfl, rfl⟩
    have told : (frameComplete last.statistics.frames : Act σ τ Unit).Gives middle () _ _ :=
      gives_frameComplete_iff.2 ⟨rfl, rfl⟩
    exact ticks.bind (noted.quietly (told.first (gives_pure _ _)))

/-- A wake handles events, and then it advances if the loop still runs. -/
theorem wake_gives_iff {awake : Bool} :
    (loop.wake emulator).Gives rig (awake, next, last) after calls ↔
      ∃ handled middle between made more, Handles emulator rig handled made middle between ∧
        handled.map Handled.event = beforeQuit loop.events.pending ∧
        (if loop.drained.running then do
          let (loop, emulator) ← loop.drained.advance middle
          return (true, loop, emulator)
        else return (false, loop.drained, middle) :
          Act σ τ (Bool × FrameLoop × Emulator)).Gives between (awake, next, last) after more ∧
        calls = made ++ more := by
  unfold wake
  rw [gives_bind_iff]
  constructor
  -- The events are drained first, and the rest of the wake decides by what the drain has left.
  · rintro ⟨⟨middle, rest, quit⟩, between, made, more, drains, goes_on, rfl⟩
    obtain ⟨handled, handles, all, rfl, rfl⟩ := drain_gives_iff.1 drains
    exact ⟨handled, middle, between, made, more, handles, all, goes_on, rfl⟩
  · rintro ⟨handled, middle, between, made, more, handles, all, goes_on, rfl⟩
    have drains := drain_gives_iff.2 ⟨handled, handles, all, rfl, rfl⟩
    exact ⟨_, between, made, more, drains, goes_on, rfl⟩

/-- A wake that ends the loop, or finds it at its end, handles events and does nothing else. -/
theorem wake_gives_of_stopping {awake : Bool} (stops : loop.drained.running = false) :
    (loop.wake emulator).Gives rig (awake, next, last) after calls ↔
      awake = false ∧ next = loop.drained ∧ ∃ handled,
        Handles emulator rig handled calls last after ∧
        handled.map Handled.event = beforeQuit loop.events.pending := by
  rw [wake_gives_iff]
  simp only [stops, Bool.false_eq_true, if_false, gives_pure_iff]
  constructor
  · rintro ⟨handled, middle, between, made, more, handles, all, ⟨value, rfl, rfl⟩, rfl⟩
    cases value
    rw [List.append_nil]
    exact ⟨rfl, rfl, handled, handles, all⟩
  · rintro ⟨rfl, rfl, handled, handles, all⟩
    exact ⟨handled, last, after, calls, [], handles, all, ⟨rfl, rfl, rfl⟩,
      (List.append_nil calls).symm⟩

/-- A wake without a quit request handles all events, ticks once and tells the host. -/
theorem wake_gives_of_clear {awake : Bool} (running : loop.running = true)
    (clear : .quit ∉ loop.events.pending) :
    (loop.wake emulator).Gives rig (awake, next, last) after calls ↔
      awake = true ∧ ∃ wakes clock, Checked.next64 loop.wakes = .ok wakes ∧
        loop.clock.advance loop.period = .ok clock ∧
        next = { loop with events := {}, wakes, clock } ∧
        ∃ handled middle between made answer drawn shown,
          Handles emulator rig handled made middle between ∧
          handled.map Handled.event = loop.events.pending ∧
          middle.tick.Gives between (answer, last) drawn shown ∧
          after = { drawn with
            display := Host.frameComplete last.statistics.frames drawn.display } ∧
          calls = made ++ (shown ++ [.host (.frameComplete last.statistics.frames)]) := by
  -- Nothing is behind a quit request that is not there, so the queue is empty after the wake.
  have goes_on : loop.drained = { loop with events := {} } := by
    simp [drained, clear, behindQuit_of_clear clear]
  rw [wake_gives_iff, beforeQuit_of_clear clear, goes_on]
  simp only [if_pos running]
  constructor
  · rintro ⟨handled, middle, between, made, _, handles, all, gives, rfl⟩
    obtain ⟨⟨advanced, final⟩, advances, value⟩ := gives_map_iff.1 gives
    cases value
    obtain ⟨wakes, clock, answer, drawn, shown, counts, moves, rfl, ticks, rfl, rfl⟩ :=
      advance_gives_iff.1 advances
    exact ⟨rfl, wakes, clock, counts, moves, rfl, handled, middle, between, made, answer, drawn,
      shown, handles, all, ticks, rfl, rfl⟩
  · rintro ⟨rfl, wakes, clock, counts, moves, rfl, handled, middle, between, made, answer, drawn,
      shown, handles, all, ticks, rfl, rfl⟩
    have advances : (advance { loop with events := {} } middle).Gives between
        ({ loop with events := {}, wakes, clock }, last) _ _ := advance_gives_iff.2
      ⟨wakes, clock, answer, drawn, shown, counts, moves, rfl, ticks, rfl, rfl⟩
    exact ⟨handled, middle, between, made, _, handles, all, gives_map_iff.2 ⟨_, advances, rfl⟩,
      rfl⟩

omit [Clockwork] [NativeCore σ] [Host τ] in
theorem finish_gives_iff {ending : Ending} :
    (loop.finish emulator).Gives rig (ending, next, last) after calls ↔
      ending = .stopped ∧ next = loop ∧ last = emulator ∧ after = rig ∧ calls = [] := by
  constructor
  · intro gives
    obtain ⟨_, _, _, _, noted, rest, rfl⟩ := gives_bind_iff.1 gives
    obtain ⟨rfl, rfl⟩ := gives_note_iff.1 noted
    obtain ⟨_, _, _, _, listed, returned, rfl⟩ := gives_bind_iff.1 rest
    obtain ⟨rfl, rfl⟩ := gives_note_iff.1 listed
    obtain ⟨value, rfl, rfl⟩ := gives_pure_iff.1 returned
    cases value
    exact ⟨rfl, rfl, rfl, rfl, rfl⟩
  · rintro ⟨rfl, rfl, rfl, rfl, rfl⟩
    exact (gives_note _ _).quietly ((gives_note _ _).quietly (gives_pure _ _))

/-! ## §3 Every run is a course

By induction on the fuel.  `Counted` says what the counters of the loop tell in terms of the
rounds. -/

/-- A loop that does not run is at its end. -/
theorem run_of_stopped (stopped : loop.running = false) (fuel : Nat) (emulator : Emulator) :
    (loop.run fuel emulator : Act σ τ _) = loop.finish emulator := by
  unfold run
  rw [if_neg (Bool.eq_false_iff.1 stopped)]

theorem run_zero (running : loop.running = true) (emulator : Emulator) :
    (loop.run 0 emulator : Act σ τ _) = return (.unfinished, loop, emulator) := by
  unfold run
  rw [if_pos running]

theorem run_succ (running : loop.running = true) (fuel : Nat) (emulator : Emulator) :
    (loop.run (fuel + 1) emulator : Act σ τ _) = (do
      let (answer, sent) ← Act.waitForRefresh
      let loop := { loop with events := loop.events.sendAll sent }
      match answer with
      | .error cause => return (.failed (.surface cause), loop, emulator)
      | .ok false => loop.finish emulator
      | .ok true =>
        let (_, loop, emulator) ← loop.wake emulator
        run fuel loop emulator) := by
  rw [run]
  exact if_pos running

/-- What the counters of a loop tell after some rounds. -/
structure Counted (before : FrameLoop) (rounds : List Round) (after : FrameLoop) : Prop where
  wakes : after.wakes.toNat = before.wakes.toNat + rounds.countP Round.hasTick
  clock : after.clock.femtos =
    before.clock.femtos + rounds.countP Round.hasTick * before.period.femtos

omit [Clockwork] in
theorem counted_of_no_ticks {rounds : List Round} (ticks : rounds.countP Round.hasTick = 0)
    (wakes : next.wakes = loop.wakes) (clock : next.clock = loop.clock) :
    Counted loop rounds next := by
  constructor
  · rw [wakes, ticks, Nat.add_zero]
  · rw [clock, ticks, Nat.zero_mul, Nat.add_zero]

/-- A round with a tick counts, and the clock moves on by a period. -/
theorem Counted.round {wakes : UInt64} {clock : Instant} {events : EventQueue} {round : Round}
    {rounds : List Round} (ticked : round.hasTick = true)
    (counts : Checked.next64 loop.wakes = .ok wakes)
    (moves : loop.clock.advance loop.period = .ok clock)
    (counted : Counted { loop with events, wakes, clock } rounds next) :
    Counted loop (round :: rounds) next := by
  -- The counter and the clock have been moved by one round before the others are counted.
  obtain ⟨-, wakes_eq⟩ := Checked.next64_eq_ok_iff.1 counts
  obtain ⟨-, rfl⟩ := Instant.advance_eq_ok_iff.1 moves
  obtain ⟨last_wakes, last_clock⟩ := counted
  dsimp only at last_wakes last_clock
  constructor
  · rw [List.countP_cons_of_pos ticked, last_wakes, wakes_eq]
    omega
  · rw [List.countP_cons_of_pos ticked, last_clock, Nat.succ_mul]
    omega

/-- A run of a loop is a course.  Fuel is used up by its rounds, all of it if the course has no
end. -/
theorem run_course {fuel : Nat} {ending : Ending} (running : loop.running = true)
    (gives : (loop.run fuel emulator).Gives rig (ending, next, last) after calls) :
    ∃ rounds close, Course loop.events.pending emulator rig rounds close calls last after ∧
      ending = close.ending ∧ Counted loop rounds next ∧ rounds.length ≤ fuel ∧
      (close = .unfinished → rounds.length = fuel) := by
  -- The induction is on the fuel. A loop that has some left waits once, and what the host answers
  -- decides the case of the course.
  induction fuel generalizing loop emulator rig calls with
  | zero =>
    rw [run_zero running] at gives
    obtain ⟨value, rfl, rfl⟩ := gives_pure_iff.1 gives
    cases value
    exact ⟨[], .unfinished, .unfinished _ _ _, rfl, counted_of_no_ticks rfl rfl rfl, Nat.le_refl _,
      fun _ => rfl⟩
  | succ fuel ih =>
    rw [run_succ running] at gives
    obtain ⟨⟨answer, sent⟩, _, _, _, waits, rest, rfl⟩ := gives_bind_iff.1 gives
    obtain ⟨display, answers, rfl, rfl⟩ := gives_waitForRefresh_iff.1 waits
    rcases answer with cause | goes_on
    · obtain ⟨value, rfl, rfl⟩ := gives_pure_iff.1 rest
      cases value
      exact ⟨[], .failed cause, .failed answers, rfl, counted_of_no_ticks rfl rfl rfl, by simp,
        nofun⟩
    cases goes_on with
    | false =>
      obtain ⟨rfl, rfl, rfl, rfl, rfl⟩ := finish_gives_iff.1 rest
      exact ⟨[], .gone, .gone answers, rfl, counted_of_no_ticks rfl rfl rfl, by simp, nofun⟩
    | true =>
      obtain ⟨⟨awake, woken, middle⟩, between, made, more, wakes, runs_on, rfl⟩ :=
        gives_bind_iff.1 rest
      let filled : FrameLoop := { loop with events := loop.events.sendAll sent }
      have running : filled.running = true := running
      by_cases quits : .quit ∈ filled.events.pending
      -- A quit request is met, and the loop stops.
      · have stops : filled.drained.running = false := by simp [drained, quits]
        obtain ⟨rfl, rfl, handled, handles, all⟩ := (wake_gives_of_stopping stops).1 wakes
        dsimp only at runs_on
        rw [run_of_stopped stops] at runs_on
        obtain ⟨rfl, rfl, rfl, rfl, rfl⟩ := finish_gives_iff.1 runs_on
        rw [List.append_nil]
        exact ⟨[⟨sent, handled, none⟩], .quit, .quit answers quits handles all, rfl,
          counted_of_no_ticks rfl rfl rfl, by simp, nofun⟩
      -- The loop advances, and the rest is a course by induction.
      · obtain ⟨rfl, count, clock, counts, moves, rfl, handled, loaded, ready, first, result, drawn,
          shown, handles, all, ticks, rfl, rfl⟩ := (wake_gives_of_clear running quits).1 wakes
        let advanced : FrameLoop := { filled with events := {}, wakes := count, clock }
        have still : advanced.running = true := running
        obtain ⟨rounds, close, course, ends, counted, length, unfinished⟩ := ih still runs_on
        exact ⟨⟨sent, handled, some middle.statistics.frames⟩ :: rounds, close,
          .round answers quits handles all ticks course, ends, counted.round rfl counts moves,
          Nat.succ_le_succ length, fun h => congrArg (· + 1) (unfinished h)⟩

/-! ## §4 Every course that ends is a run

By induction on the course, with the loop and the fuel generalized: a round needs room in both
counters and one of the fuel. -/

/-- A course that ends is a run of every loop whose counters have room, given any fuel above the
number of rounds. -/
theorem Course.run {waiting : List HostEvent} {rounds : List Round} {close : Close}
    (course : Course waiting emulator rig rounds close calls last after)
    (ends : close ≠ .unfinished) {loop : FrameLoop} (running : loop.running = true)
    (pending : loop.events.pending = waiting)
    (wakes : loop.wakes.toNat + rounds.length < UInt64.size)
    (clock : loop.clock.femtos + rounds.length * loop.period.femtos < Clockwork.bound) {fuel : Nat}
    (enough : rounds.length < fuel) :
    ∃ next, (loop.run fuel emulator).Gives rig (close.ending, next, last) after calls := by
  -- There is fuel for one more round than the course has, which finds the loop at its end.
  obtain ⟨fuel, rfl⟩ : ∃ more, fuel = more + 1 := ⟨fuel - 1, by omega⟩
  -- The induction is on the course; each round of it takes one of the fuel and moves the counters.
  induction course generalizing loop fuel with
  | unfinished => exact absurd rfl ends
  | gone answers =>
    rw [run_succ running]
    have waits := gives_waitForRefresh_iff.2 ⟨_, answers, rfl, rfl⟩
    exact ⟨_, waits.first (finish_gives_iff.2 ⟨rfl, rfl, rfl, rfl, rfl⟩)⟩
  | failed answers =>
    rw [run_succ running]
    have waits := gives_waitForRefresh_iff.2 ⟨_, answers, rfl, rfl⟩
    exact ⟨_, waits.first (gives_pure _ _)⟩
  | @quit _ sent emulator last rig after display handled made answers quits handles all =>
    subst pending
    rw [run_succ running]
    have waits := gives_waitForRefresh_iff.2 ⟨display, answers, rfl, rfl⟩
    let filled : FrameLoop := { loop with events := loop.events.sendAll sent }
    have stops : filled.drained.running = false := by
      simp [filled, drained, EventQueue.sendAll, quits]
    have woken : (filled.wake emulator).Gives _ (false, filled.drained, last) after made :=
      (wake_gives_of_stopping stops).2 ⟨rfl, rfl, handled, handles, all⟩
    refine ⟨filled.drained, waits.first (woken.then_quietly ?_)⟩
    dsimp only
    rw [run_of_stopped stops]
    exact finish_gives_iff.2 ⟨rfl, rfl, rfl, rfl, rfl⟩
  | @round _ sent emulator middle ticked last rig between drawn after display handled made shown
      more answer rounds close answers clear handles all ticks rest ih =>
    subst pending
    rw [List.length_cons] at wakes clock enough
    rw [Nat.succ_mul] at clock
    rw [run_succ running]
    have waits := gives_waitForRefresh_iff.2 ⟨display, answers, rfl, rfl⟩
    obtain ⟨count, counts, count_eq⟩ := Checked.next64_ok (n := loop.wakes)
      (show loop.wakes.toNat + 1 < UInt64.size by omega)
    have moves : loop.clock.advance loop.period =
        .ok ⟨loop.clock.femtos + loop.period.femtos⟩ :=
      Instant.advance_eq_ok_iff.2 ⟨by omega, rfl⟩
    let filled : FrameLoop := { loop with events := loop.events.sendAll sent }
    let advanced : FrameLoop := { filled with
      events := {}, wakes := count, clock := ⟨loop.clock.femtos + loop.period.femtos⟩ }
    have running : filled.running = true := running
    have woken : (filled.wake emulator).Gives _ (true, advanced, ticked) _ _ :=
      (wake_gives_of_clear running clear).2 ⟨rfl, count, _, counts, moves, rfl, handled, middle,
        between, made, answer, drawn, shown, handles, all, ticks, rfl, rfl⟩
    have still : advanced.running = true := running
    -- The round before has used up one of the fuel, and there are fewer rounds to come.
    obtain ⟨fuel, rfl⟩ : ∃ more, fuel = more + 1 := ⟨fuel - 1, by omega⟩
    have room : advanced.wakes.toNat + rounds.length < UInt64.size := by
      show count.toNat + rounds.length < UInt64.size
      omega
    have time : advanced.clock.femtos + rounds.length * advanced.period.femtos <
        Clockwork.bound := by
      show loop.clock.femtos + loop.period.femtos + rounds.length * loop.period.femtos < _
      omega
    obtain ⟨next, runs⟩ := ih ends still rfl room time fuel (by omega)
    exact ⟨next, waits.first (woken.bind runs)⟩

/-! ## §5 What a course tells

What the host is told, in which order the events are handled, and how the number of frames grows:
all of it is read off a course by one more induction. -/

/-- The events that were sent in time for the last round. -/
def inTime (queued : List HostEvent) : List Round → List HostEvent
  | [] => []
  | round :: rounds => queued ++ (round :: rounds).flatMap Round.sent

omit [Clockwork] in
theorem inTime_nil (rounds : List Round) : inTime [] rounds = rounds.flatMap Round.sent := by
  cases rounds with
  | nil => rfl
  | cons => rfl

/-- One number of frames after another: it has grown by at most one. -/
def Follows (first second : UInt64) : Prop :=
  first.toNat ≤ second.toNat ∧ second.toNat ≤ first.toNat + 1

/-- What has come of a run that started with some events in the queue and some frames counted. -/
structure Report (queued : List HostEvent) (frames : UInt64) (rounds : List Round) (close : Close)
    (calls : List Entry) : Prop where
  /-- The host was called for nothing else. -/
  hostCalls : Journal.hostCalls calls = rounds.flatMap Round.hostCalls ++ close.hostCalls
  /-- What was handled are the events up to the first quit request, in the order of sending. -/
  handled : rounds.flatMap (fun round => round.handled.map Handled.event) =
    beforeQuit (inTime queued rounds)
  quits : close = .quit ↔ .quit ∈ inTime queued rounds
  /-- Only a quit request stops a round before its tick. -/
  ticks : rounds.length = rounds.countP Round.hasTick + if close = .quit then 1 else 0
  told : (frames :: rounds.filterMap Round.told).IsChain Follows

theorem follows_of_tick {answer : Except Error Bool}
    (ticks : emulator.tick.Gives rig (answer, last) after calls) :
    Follows emulator.statistics.frames last.statistics.frames := by
  have counted : last.statistics.frames = emulator.statistics.frames ∨
      last.statistics.frames.toNat = emulator.statistics.frames.toNat + 1 :=
    emulator.tick_frames ticks
  rcases counted with same | grown
  · rw [same]
    exact ⟨Nat.le_refl _, Nat.le_succ _⟩
  · exact ⟨by omega, by omega⟩

theorem Course.report {waiting : List HostEvent} {rounds : List Round} {close : Close}
    (course : Course waiting emulator rig rounds close calls last after) :
    Report waiting emulator.statistics.frames rounds close calls := by
  -- The induction is on the course: the facts of the first round are put before those of the
  -- others.
  induction course with
  | unfinished => exact ⟨rfl, rfl, by simp [inTime], rfl, .singleton _⟩
  | gone => exact ⟨rfl, rfl, by simp [inTime], rfl, .singleton _⟩
  | failed => exact ⟨rfl, rfl, by simp [inTime], rfl, .singleton _⟩
  | quit answers quits handles all =>
    refine ⟨?_, ?_, ?_, rfl, .singleton _⟩
    · simpa [Round.hostCalls, Close.hostCalls] using handles.hostCalls
    · simpa [inTime] using all
    · simpa [inTime] using quits
  | @round waiting sent emulator middle ticked last rig between drawn after display handled made
      shown more answer rounds close answers clear handles all ticks rest ih =>
    obtain ⟨hostCalls, in_order, quits, length, told⟩ := ih
    rw [inTime_nil] at in_order quits
    have events : inTime waiting (⟨sent, handled, some ticked.statistics.frames⟩ :: rounds) =
        waiting ++ sent ++ rounds.flatMap Round.sent := by
      simp [inTime]
    refine ⟨?_, ?_, ?_, ?_, ?_⟩
    · have quiet := (middle.tick_moves.of_gives ticks).hostCalls
      simp [handles.hostCalls, quiet, hostCalls, Round.hostCalls]
    -- Without a quit request in the first round, the events behind it go on where it stops.
    · rw [events, beforeQuit_append clear, List.flatMap_cons, in_order, all]
    · rw [events, List.mem_append, or_iff_right clear]
      exact quits
    · rw [List.length_cons, List.countP_cons_of_pos rfl, length]
      omega
    -- Handling events counts no frame, so it is the tick that the numbers follow.
    · refine .cons_cons ?_ told
      rw [← handles.statistics]
      exact follows_of_tick ticks

/-! ## §6 Whole runs -/

/-- A run of a new loop is a course, and every course that ends is a run of it.  The host is
called for the rounds and the end of the course only; events are handled in the order of sending
up to the first quit request; the loop's counters tell how many rounds had a tick. -/
theorem run_semantics (queued : List HostEvent) (period : Period) (emulator : Emulator)
    (rig : Rig σ τ) :
    (∀ fuel ending next last after calls,
      (run fuel { events := ⟨queued⟩, period } emulator).Gives rig (ending, next, last) after
        calls →
      ∃ rounds close, Course queued emulator rig rounds close calls last after ∧
        Report queued emulator.statistics.frames rounds close calls ∧ ending = close.ending ∧
        next.wakes.toNat = rounds.countP Round.hasTick ∧
        next.clock.femtos = Instant.start.femtos + next.wakes.toNat * period.femtos ∧
        rounds.length ≤ fuel ∧ (close = .unfinished → rounds.length = fuel)) ∧
    ∀ rounds close last after calls, Course queued emulator rig rounds close calls last after →
      close ≠ .unfinished → rounds.length < UInt64.size →
      rounds.length * period.femtos < Clockwork.bound → ∀ fuel, rounds.length < fuel →
      ∃ next, (run fuel { events := ⟨queued⟩, period } emulator).Gives rig
        (close.ending, next, last) after calls := by
  constructor
  -- A run is a course by its own recursion; the numbers are counted from zero.
  · intro fuel ending next last after calls gives
    obtain ⟨rounds, close, course, ends, counted, length, unfinished⟩ := run_course rfl gives
    have wakes : next.wakes.toNat = rounds.countP Round.hasTick :=
      counted.wakes.trans (Nat.zero_add _)
    refine ⟨rounds, close, course, course.report, ends, wakes, ?_, length, unfinished⟩
    rw [wakes]
    exact counted.clock
  -- A course that ends is a run, if neither counter comes to its end in it.
  · intro rounds close last after calls course ends wakes clock fuel enough
    refine course.run ends rfl rfl ?_ ?_ enough
    · exact lt_of_eq_of_lt (Nat.zero_add _) wakes
    · exact lt_of_eq_of_lt (Nat.zero_add _) clock

end Runs

/-- The user picks an empty rom before a good one, a draw fails, and behind the quit request
another rom waits. -/
def busyRig : Rig Bench Stage where
  machine := Bench.machine { heapSize := 64, screen := ⟨1, 1⟩ }
  display :=
    { canvas := .new .rgba
      draws := [.pass, .fail (.specific "lost")]
      lifetime := 5
      timetable := [(1, .loadRom #[]), (1, .loadRom #[7]), (3, .loadRom #[8]), (4, .unload),
        (4, .quit), (4, .loadRom #[9])] }

/-- A loop that has to unload first. -/
def busyLoop : FrameLoop := { events := ⟨[.unload]⟩ }

theorem run_semantics_of_quit :
    ∃ next last after calls rounds close,
      (busyLoop.run 9 (.new { scale := 1 })).Gives busyRig (.stopped, next, last) after calls ∧
      next.wakes = 3 ∧ last.statistics.frames = 3 ∧
      Course [.unload] (.new { scale := 1 }) busyRig rounds close calls last after ∧
      Report [.unload] 0 rounds close calls ∧
      next.clock.femtos = Instant.start.femtos + 3 * Clockwork.refresh.femtos ∧
      ∀ fuel, 9 < fuel → ∃ next,
        (busyLoop.run fuel (.new { scale := 1 })).Gives busyRig (.stopped, next, last) after
          calls := by
  obtain ⟨⟨⟨ending, next, last⟩, after, journal⟩, runs, rfl, wakes, frames⟩ :
      ∃ outcome : Outcome Bench Stage (Ending × FrameLoop × Emulator),
        (busyLoop.run 9 (.new { scale := 1 })).run busyRig = .ok outcome ∧
          outcome.value.1 = .stopped ∧ outcome.value.2.1.wakes = 3 ∧
            outcome.value.2.2.statistics.frames = 3 :=
    Checked.exists_of_any (by decide +kernel)
  have gives := Gives.of_run runs
  obtain ⟨sound, complete⟩ := run_semantics (σ := Bench) (τ := Stage) [.unload] Clockwork.refresh
    (.new { scale := 1 }) busyRig
  -- The run that has been evaluated is a course, and as a course it is a run for any more fuel too.
  obtain ⟨rounds, close, course, report, ends, -, clock, length, -⟩ := sound _ _ _ _ _ _ gives
  have finished : close ≠ .unfinished := by
    rintro rfl
    cases ends
  rw [wakes] at clock
  refine ⟨next, last, after, _, rounds, close, gives, wakes, frames, course, report, clock,
    fun fuel enough => ?_⟩
  rw [ends]
  have few : rounds.length * Clockwork.refresh.femtos < Clockwork.bound :=
    lt_of_le_of_lt (Nat.mul_le_mul_right _ length) (by decide)
  exact complete _ _ _ _ _ course finished (lt_of_le_of_lt length (by decide)) few fuel (by omega)

end Handheld.FrameLoop
