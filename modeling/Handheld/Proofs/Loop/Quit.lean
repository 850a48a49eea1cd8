import Handheld.Proofs.Loop.Course
import Handheld.Rehearsal.Platform

/-!
# After a Quit Request

A loop that has met a quit request never ticks again and answers every call at once.  But it is
not inert: `wake` looks at the queue before it looks at the loop's state, so each wake still
handles the events up to the next quit request, also those that waited behind the first one.
`visitAll_gives_iff` says exactly what any calls of such a loop do.
-/

namespace Handheld.FrameLoop

open Act

/-! ## §1 Visits

The loop can be called in two ways, for one wake and for a whole run, and the user may send events
before each of the calls. -/

/-- A call of the loop, before which the user sends some events. -/
inductive Visit
  | wake (sent : List HostEvent)
  | run (sent : List HostEvent) (fuel : Nat)
deriving DecidableEq

/-- What a visit answers. -/
inductive Reaction
  | woken (goes_on : Bool)
  | ended (ending : Ending)
deriving DecidableEq

variable {σ τ : Type} [NativeCore σ] [Host τ]

def visit [Clockwork] (loop : FrameLoop) (emulator : Emulator) :
    Visit → Act σ τ (Reaction × FrameLoop × Emulator)
  | .wake sent => do
    let (goes_on, loop, emulator) ←
      wake { loop with events := loop.events.sendAll sent } emulator
    return (.woken goes_on, loop, emulator)
  | .run sent fuel => do
    let (ending, loop, emulator) ←
      run fuel { loop with events := loop.events.sendAll sent } emulator
    return (.ended ending, loop, emulator)

/-- Visits one after another, with the answer of each. -/
def visitAll [Clockwork] (loop : FrameLoop) (emulator : Emulator) :
    List Visit → Act σ τ (List Reaction × FrameLoop × Emulator)
  | [] => return ([], loop, emulator)
  | first :: visits => do
    let (reaction, loop, emulator) ← visit loop emulator first
    let (reactions, loop, emulator) ← visitAll loop emulator visits
    return (reaction :: reactions, loop, emulator)

/-! ## §2 Visits to a stopped loop

A loop that does not run never starts again by itself.  So what is handled at a visit depends only
on the events that wait, and the law for many visits is that for one, with the events handed on. -/

/-- The answer of a loop that does not run. -/
def Visit.refused : Visit → Reaction
  | .wake _ => .woken false
  | .run _ _ => .ended .stopped

/-- The events that a stopped loop handles at a visit. -/
def Visit.handles (waiting : List HostEvent) : Visit → List HostEvent
  | .wake sent => beforeQuit (waiting ++ sent)
  | .run _ _ => []

/-- The events that wait after a visit to a stopped loop. -/
def Visit.leaves (waiting : List HostEvent) : Visit → List HostEvent
  | .wake sent => behindQuit (waiting ++ sent)
  | .run sent _ => waiting ++ sent

/-- The events that a stopped loop handles at some visits. -/
def handledBy (waiting : List HostEvent) : List Visit → List HostEvent
  | [] => []
  | first :: visits => first.handles waiting ++ handledBy (first.leaves waiting) visits

variable {loop next : FrameLoop} {emulator last : Emulator} {rig after : Rig σ τ}
  {calls : List Entry}

/-- A loop that does not run handles the events of one visit and is otherwise as before. -/
theorem visit_gives_iff [Clockwork] (stopped : loop.running = false) {first : Visit}
    {reaction : Reaction} :
    (visit loop emulator first).Gives rig (reaction, next, last) after calls ↔
      reaction = first.refused ∧
        next = { loop with events := ⟨first.leaves loop.events.pending⟩ } ∧
        ∃ handled, Handles emulator rig handled calls last after ∧
          handled.map Handled.event = first.handles loop.events.pending := by
  cases first with
  | wake sent =>
    let filled : FrameLoop := { loop with events := loop.events.sendAll sent }
    have stops : filled.drained.running = false := by simp [filled, drained, stopped]
    have rest : filled.drained =
        { loop with events := ⟨behindQuit (loop.events.pending ++ sent)⟩ } := by
      simp [filled, drained, stopped, EventQueue.sendAll]
    constructor
    · intro gives
      -- The wake finds the loop at its end, so it handles what it finds and does not advance.
      obtain ⟨⟨goes_on, woken, final⟩, wakes, value⟩ := gives_map_iff.1 gives
      cases value
      obtain ⟨rfl, rfl, handled⟩ := (wake_gives_of_stopping stops).1 wakes
      exact ⟨rfl, rest, handled⟩
    · rintro ⟨rfl, rfl, handled⟩
      have wakes : (filled.wake emulator).Gives rig (false, filled.drained, last) after calls :=
        (wake_gives_of_stopping stops).2 ⟨rfl, rfl, handled⟩
      rw [rest] at wakes
      exact gives_map_iff.2 ⟨_, wakes, rfl⟩
  | run sent fuel =>
    let filled : FrameLoop := { loop with events := loop.events.sendAll sent }
    -- A run looks at the state before it looks at the queue, so the events stay where they are.
    have still : filled.running = false := stopped
    constructor
    · intro gives
      obtain ⟨⟨ending, ended, final⟩, runs, value⟩ := gives_map_iff.1 gives
      cases value
      rw [run_of_stopped still] at runs
      obtain ⟨rfl, rfl, rfl, rfl, rfl⟩ := finish_gives_iff.1 runs
      exact ⟨rfl, rfl, [], .nil _ _, rfl⟩
    · rintro ⟨rfl, rfl, nothing⟩
      obtain ⟨rfl, rfl, rfl⟩ := handles_none_iff.1 nothing
      have runs : (filled.run fuel last).Gives after (.stopped, filled, last) after [] := by
        rw [run_of_stopped still]
        exact finish_gives_iff.2 ⟨rfl, rfl, rfl, rfl, rfl⟩
      exact gives_map_iff.2 ⟨_, runs, rfl⟩

/-- Whatever is sent to a loop that does not run, and however often it is called, every wake
answers that there was no tick, every run ends at once, and the counters stay.  The core, the
surface, the host and the emulator see the handling of the events up to the next quit request at
each wake, and nothing else. -/
theorem visitAll_gives_iff [Clockwork] (stopped : loop.running = false) {visits : List Visit}
    {reactions : List Reaction} :
    (visitAll loop emulator visits).Gives rig (reactions, next, last) after calls ↔
      reactions = visits.map Visit.refused ∧
        next = { loop with events := ⟨visits.foldl Visit.leaves loop.events.pending⟩ } ∧
        ∃ handled, Handles emulator rig handled calls last after ∧
          handled.map Handled.event = handledBy loop.events.pending visits := by
  -- The induction is on the visits. What one of them leaves in the queue is what the next one
  -- finds.
  induction visits generalizing loop emulator rig calls reactions with
  | nil =>
    simp only [visitAll, gives_pure_iff, Prod.mk.injEq, List.map_nil, List.foldl_nil, handledBy,
      handles_none_iff]
    constructor
    · rintro ⟨⟨rfl, rfl, rfl⟩, rfl, rfl⟩
      exact ⟨rfl, rfl, rfl, rfl, rfl⟩
    · rintro ⟨rfl, rfl, rfl, rfl, rfl⟩
      exact ⟨⟨rfl, rfl, rfl⟩, rfl, rfl⟩
  | cons first visits ih =>
    -- No visit lets a stopped loop run again.
    have still : ({ loop with events := ⟨first.leaves loop.events.pending⟩ } : FrameLoop).running =
      false := stopped
    constructor
    · intro gives
      obtain ⟨⟨reaction, visited, middle⟩, between, made, _, visits_first, rest, rfl⟩ :=
        gives_bind_iff.1 gives
      obtain ⟨⟨others, final, ends⟩, visits_others, value⟩ := gives_map_iff.1 rest
      cases value
      obtain ⟨rfl, rfl, at_first⟩ := (visit_gives_iff stopped).1 visits_first
      obtain ⟨rfl, rfl, later⟩ := (ih still).1 visits_others
      exact ⟨rfl, rfl, handles_both_iff.2 ⟨_, _, _, _, at_first, later, rfl⟩⟩
    · rintro ⟨rfl, rfl, handled⟩
      obtain ⟨middle, between, made, more, at_first, later, rfl⟩ := handles_both_iff.1 handled
      have visits_first := (visit_gives_iff stopped).2 ⟨rfl, rfl, at_first⟩
      have visits_others := (ih still).2 ⟨rfl, rfl, later⟩
      exact visits_first.bind (gives_map_iff.2 ⟨_, visits_others, rfl⟩)

/-- A bench core of 64 bytes, and a canvas. -/
def idleRig : Rig Bench Stage where
  machine := Bench.machine { heapSize := 64, screen := ⟨1, 1⟩ }
  display := { canvas := .new .rgba }

/-- Behind the quit request that has stopped the loop a rom waits, and the user sends more. -/
theorem visitAll_gives_iff_of_waiting_rom :
    ∃ reactions next last after calls,
      (visitAll { events := ⟨[.loadRom #[7]]⟩, running := false } (.new { scale := 1 })
        [.wake [], .run [.unload, .quit] 5, .wake []]).Gives idleRig (reactions, next, last) after
          calls ∧
      reactions = [.woken false, .ended .stopped, .woken false] ∧ next.wakes = 0 ∧
      ∃ handled, Handles (.new { scale := 1 }) idleRig handled calls last after ∧
        handled.map Handled.event = [.loadRom #[7], .unload] := by
  -- The visits are evaluated; what has been handled in them is read off the law.
  obtain ⟨⟨⟨reactions, next, last⟩, after, journal⟩, run, wakes⟩ :
      ∃ outcome : Outcome Bench Stage (List Reaction × FrameLoop × Emulator),
        (visitAll { events := ⟨[.loadRom #[7]]⟩, running := false } (.new { scale := 1 })
          [.wake [], .run [.unload, .quit] 5, .wake []]).run idleRig = .ok outcome ∧
        outcome.value.2.1.wakes = 0 := by
    apply Checked.exists_of_any
    decide +kernel
  have gives := Gives.of_run run
  obtain ⟨answers, -, handled⟩ := (visitAll_gives_iff rfl).1 gives
  exact ⟨reactions, next, last, after, _, gives, answers, wakes, handled⟩

/-- A rom that waits behind a quit request is loaded by the wake after the one that has met the
request, although the loop does not run any more. -/
theorem wake_loads_behind_quit :
    ∃ first second : Outcome Bench Stage (Bool × FrameLoop × Emulator),
      (wake { events := ⟨[.quit, .loadRom #[7]]⟩ } (.new { scale := 1 })).run idleRig = .ok first ∧
      (first.value.1 = false ∧ first.value.2.1.running = false ∧
        first.value.2.2.isLoaded = false) ∧
      (wake first.value.2.1 first.value.2.2).run first.rig = .ok second ∧
      second.value.1 = false ∧ second.journal.requests.length = 4 ∧
      second.value.2.2.isLoaded = true := by
  -- The second wake goes on from what the first one gives, so one evaluation is about both.
  obtain ⟨first, meets, quiet, goes_on⟩ :
      ∃ first : Outcome Bench Stage (Bool × FrameLoop × Emulator),
        (wake { events := ⟨[.quit, .loadRom #[7]]⟩ } (.new { scale := 1 })).run idleRig =
          .ok first ∧
        (first.value.1 = false ∧ first.value.2.1.running = false ∧
          first.value.2.2.isLoaded = false) ∧
        ((wake first.value.2.1 first.value.2.2).run first.rig).toOption.any fun second =>
          second.value.1 = false ∧ second.journal.requests.length = 4 ∧
            second.value.2.2.isLoaded = true := by
    apply Checked.exists_of_any
    decide +kernel
  obtain ⟨second, wakes, loads⟩ := Checked.exists_of_any goes_on
  exact ⟨first, second, meets, quiet, wakes, loads⟩

end Handheld.FrameLoop
