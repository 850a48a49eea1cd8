import Handheld.Proofs.Session.Production
import Handheld.Session.FrameLoop

/-!
# Handling Events

What the handling of the user's events does, one event after another: `Handles` describes it
without the loop's own recursion.  An event changes nothing that counts frames, and the host hears
of it only if it is a load that fails.
-/

namespace Handheld

/-! ## §1 Calls to the host -/

/-- The calls to the host, each with its answer. -/
def Journal.hostCalls (journal : Journal) : List HostCall :=
  journal.filterMap fun
    | .host call => some call
    | .native _ _ | .surface _ _ | .diagnostic _ => none

@[simp] theorem Journal.hostCalls_nil : Journal.hostCalls [] = [] := rfl

@[simp] theorem Journal.hostCalls_append (first second : Journal) :
    Journal.hostCalls (first ++ second) = Journal.hostCalls first ++ Journal.hostCalls second :=
  List.filterMap_append

@[simp] theorem Journal.hostCalls_cons (call : HostCall) (journal : Journal) :
    Journal.hostCalls (.host call :: journal) = call :: Journal.hostCalls journal := rfl

/-- Calls of the core and the surface are no calls of the host. -/
theorem Rig.Moves.hostCalls {σ τ : Type} [NativeCore σ] [Surface τ] {requests : Request → Prop}
    {shows : SurfaceRequest → Prop} {rig after : Rig σ τ} {made : List Entry}
    (moves : rig.Moves requests shows made after) : Journal.hostCalls made = [] := by
  apply List.filterMap_eq_nil_iff.2
  intro entry hentry
  -- An entry of such a call is of the core, of the surface or a diagnostic.
  have kind := moves.kinds entry hentry
  cases entry with
  | host call => exact kind.elim
  | native | surface | diagnostic => rfl

/-! ## §2 Operations of the emulator

Of all operations only a tick counts a frame. -/

namespace Pipeline

/-- A reset counts nothing. -/
theorem reset_statistics {pipeline fresh : Pipeline} {width height : UInt32}
    (resets : pipeline.reset width height = .ok fresh) :
    fresh.statistics = pipeline.statistics := by
  unfold reset at resets
  obtain ⟨staging, -, made⟩ := Checked.bind_eq_ok_iff.1 resets
  obtain rfl := Except.ok.inj made
  rfl

end Pipeline

namespace Emulator

open Act

variable {σ τ : Type} [NativeCore σ]

/-- An unload counts no frames. -/
theorem unload_statistics (emulator : Emulator) :
    (emulator.unload : Act σ τ _).Ensures fun given =>
      given.2.statistics = emulator.statistics :=
  bind_ensures fun _ => ensures_pure rfl

variable [Surface τ]

/-- A load counts no frames, whether or not it succeeds. -/
theorem loadRom_statistics (emulator : Emulator) (image : Bytes) :
    (emulator.loadRom image : Act σ τ _).Ensures fun given =>
      given.2.statistics = emulator.statistics := by
  unfold loadRom
  -- The pipeline is reset only if the load succeeds.
  refine bind_ensures fun loaded => ?_
  obtain ⟨result, lifecycle⟩ := loaded
  cases result with
  | error cause => exact ensures_pure rfl
  | ok screen =>
    refine (ensures_ofFaulty _).bind fun pipeline resets => ensures_pure ?_
    exact Pipeline.reset_statistics resets

/-- A tick counts at most one frame. -/
theorem tick_frames [Clockwork] (emulator : Emulator) :
    (emulator.tick : Act σ τ _).Ensures fun given =>
      given.2.statistics.frames = emulator.statistics.frames ∨
        given.2.statistics.frames.toNat = emulator.statistics.frames.toNat + 1 :=
  (emulator.pipeline.tick_frames emulator.lifecycle).bind fun _ counted => ensures_pure counted

end Emulator

/-! ## §3 One event -/

namespace FrameLoop

open Act

variable {σ τ : Type} [NativeCore σ] [Host τ] {emulator last : Emulator} {rig after : Rig σ τ}
  {calls : List Entry}

/-- The error of an event that the host hears of: that of a load that fails. -/
def refusal (emulator : Emulator) (rig : Rig σ τ) : HostEvent → Option Error
  | .loadRom image =>
    match (emulator.loadRom image).run rig with
    | .ok ⟨(.error cause, _), _, _⟩ => some cause
    | .ok ⟨(.ok _, _), _, _⟩ | .error _ => none
  | .key _ | .unload | .quit => none

theorem loadRom_gives {image : Bytes}
    (gives : (loadRom emulator image).Gives rig last after calls) :
    Journal.hostCalls calls =
        (refusal emulator rig (.loadRom image)).toList.map .reportError ∧
      last.statistics = emulator.statistics := by
  unfold loadRom at gives
  obtain ⟨⟨result, loaded⟩, middle, made, more, loads, rest, rfl⟩ := gives_bind_iff.1 gives
  -- The load makes no calls to the host, so what the host hears of comes after it.
  have quiet := ((emulator.loadRom_tends image).of_gives loads).hostCalls
  have same := emulator.loadRom_statistics image loads
  rw [Journal.hostCalls_append, quiet, List.nil_append]
  obtain ⟨journal, run, rfl⟩ := loads
  simp only [refusal, run]
  -- The report follows a failed load, and it is the only call.
  cases result with
  | ok screen =>
    obtain ⟨rfl, -, rfl⟩ := gives_pure_iff.1 rest
    exact ⟨rfl, same⟩
  | error cause =>
    obtain ⟨_, _, _, _, notes, reports, rfl⟩ := gives_bind_iff.1 rest
    obtain ⟨rfl, rfl⟩ := gives_note_iff.1 notes
    obtain ⟨_, _, _, _, reported, returned, rfl⟩ := gives_bind_iff.1 reports
    obtain ⟨rfl, rfl⟩ := gives_reportError_iff.1 reported
    obtain ⟨rfl, -, rfl⟩ := gives_pure_iff.1 returned
    exact ⟨rfl, same⟩

/-- The host hears of an event only if it is a load that fails, and no event counts frames. -/
theorem handle_gives {event : HostEvent}
    (gives : (handle emulator event).Gives rig last after calls) :
    Journal.hostCalls calls = (refusal emulator rig event).toList.map .reportError ∧
      last.statistics = emulator.statistics := by
  cases event with
  | loadRom image => exact loadRom_gives gives
  | quit =>
    obtain ⟨rfl, -, rfl⟩ := gives_pure_iff.1 gives
    exact ⟨rfl, rfl⟩
  | key event =>
    obtain ⟨answer, _, _, _, sends, rest, rfl⟩ := gives_bind_iff.1 gives
    -- The setting of a button is no call to the host, and the answer is noted only.
    have quiet := ((emulator.sendKey_moves event).of_gives sends).hostCalls
    obtain ⟨_, _, _, _, notes, returned, rfl⟩ := gives_bind_iff.1 rest
    obtain ⟨-, rfl⟩ := gives_noteError_iff.1 notes
    obtain ⟨rfl, -, rfl⟩ := gives_pure_iff.1 returned
    simpa [refusal] using quiet
  | unload =>
    obtain ⟨⟨answer, unloaded⟩, _, _, _, unloads, rest, rfl⟩ := gives_bind_iff.1 gives
    have quiet := (emulator.unload_tends.of_gives unloads).hostCalls
    obtain ⟨_, _, _, _, notes, returned, rfl⟩ := gives_bind_iff.1 rest
    obtain ⟨-, rfl⟩ := gives_noteError_iff.1 notes
    obtain ⟨rfl, -, rfl⟩ := gives_pure_iff.1 returned
    refine ⟨?_, emulator.unload_statistics unloads⟩
    simpa [refusal] using quiet

/-! ## §4 Up to a quit request

The events that are handled are those before the first quit request.  How this goes on over an
append is what a queue needs that is filled in several rounds. -/

/-- The events before the first quit request. -/
def beforeQuit (events : List HostEvent) : List HostEvent := events.takeWhile (· ≠ .quit)

/-- The events behind the first quit request. -/
def behindQuit (events : List HostEvent) : List HostEvent := (events.dropWhile (· ≠ .quit)).tail

@[simp] theorem beforeQuit_nil : beforeQuit [] = [] := rfl

@[simp] theorem behindQuit_nil : behindQuit [] = [] := rfl

@[simp] theorem beforeQuit_quit (events : List HostEvent) : beforeQuit (.quit :: events) = [] := rfl

@[simp] theorem behindQuit_quit (events : List HostEvent) :
    behindQuit (.quit :: events) = events := rfl

theorem beforeQuit_cons {event : HostEvent} (other : event ≠ .quit) (events : List HostEvent) :
    beforeQuit (event :: events) = event :: beforeQuit events :=
  List.takeWhile_cons_of_pos (decide_eq_true other)

theorem behindQuit_cons {event : HostEvent} (other : event ≠ .quit) (events : List HostEvent) :
    behindQuit (event :: events) = behindQuit events :=
  congrArg List.tail (List.dropWhile_cons_of_pos (decide_eq_true other))

/-- Without a quit request among the first events, those before it are all of them and some of
the others. -/
theorem beforeQuit_append {events : List HostEvent} (clear : .quit ∉ events)
    (others : List HostEvent) : beforeQuit (events ++ others) = events ++ beforeQuit others := by
  -- The induction is on the events that come first, of which none is a quit request.
  induction events with
  | nil => rfl
  | cons event events ih =>
    obtain ⟨other, rest⟩ := not_or.1 (mt List.mem_cons.2 clear)
    rw [List.cons_append, beforeQuit_cons (Ne.symm other), ih rest]
    rfl

theorem beforeQuit_of_clear {events : List HostEvent} (clear : .quit ∉ events) :
    beforeQuit events = events := by
  simpa using beforeQuit_append clear []

theorem behindQuit_of_clear {events : List HostEvent} (clear : .quit ∉ events) :
    behindQuit events = [] := by
  induction events with
  | nil => rfl
  | cons event events ih =>
    obtain ⟨other, rest⟩ := not_or.1 (mt List.mem_cons.2 clear)
    rw [behindQuit_cons (Ne.symm other), ih rest]

/-! ## §5 All that waits

`Handles` relates what has been handled to what has been done for it, one event after another; it
can be cut wherever the list of events can. -/

/-- An event that has been handled. -/
structure Handled where
  event : HostEvent
  /-- The error that the host has heard of. -/
  refusal : Option Error
deriving DecidableEq

/-- Events are handled one after another. -/
inductive Handles : Emulator → Rig σ τ → List Handled → List Entry → Emulator → Rig σ τ → Prop
  | nil (emulator : Emulator) (rig : Rig σ τ) : Handles emulator rig [] [] emulator rig
  | cons {emulator middle last : Emulator} {rig between after : Rig σ τ} {event : HostEvent}
      {others : List Handled} {made more : List Entry}
      (handles : (handle emulator event).Gives rig middle between made)
      (rest : Handles middle between others more last after) :
      Handles emulator rig (⟨event, refusal emulator rig event⟩ :: others) (made ++ more) last after

theorem Handles.statistics {handled : List Handled}
    (handles : Handles emulator rig handled calls last after) :
    last.statistics = emulator.statistics := by
  -- The induction is on the events that have been handled.
  induction handles with
  | nil => rfl
  | cons gives _ ih => exact ih.trans (handle_gives gives).2

/-- The host hears of each load that fails, in the order of the loads. -/
theorem Handles.hostCalls {handled : List Handled}
    (handles : Handles emulator rig handled calls last after) :
    Journal.hostCalls calls = (handled.filterMap Handled.refusal).map .reportError := by
  induction handles with
  | nil => rfl
  | cons gives _ ih =>
    rw [Journal.hostCalls_append, (handle_gives gives).1, ih, ← List.map_append]
    simp only [List.filterMap_cons]
    split
    · next quiet => rw [quiet]; rfl
    · next cause refused => rw [refused]; rfl

theorem handles_nil_iff :
    Handles emulator rig [] calls last after ↔ last = emulator ∧ after = rig ∧ calls = [] := by
  constructor
  · intro handles
    cases handles
    exact ⟨rfl, rfl, rfl⟩
  · rintro ⟨rfl, rfl, rfl⟩
    exact .nil _ _

/-- Handling goes on where it has stopped. -/
theorem handles_append_iff {first second : List Handled} :
    Handles emulator rig (first ++ second) calls last after ↔
      ∃ middle between made more, Handles emulator rig first made middle between ∧
        Handles middle between second more last after ∧ calls = made ++ more := by
  constructor
  · intro handles
    -- The induction is on the first events, and the calls are split where they end.
    induction first generalizing emulator rig calls with
    | nil => exact ⟨emulator, rig, [], calls, .nil _ _, handles, rfl⟩
    | cons handled first ih =>
      cases handles with
      | cons gives rest =>
        obtain ⟨middle, between, made, more, handles, then_handles, rfl⟩ := ih rest
        exact ⟨middle, between, _, more, .cons gives handles, then_handles,
          (List.append_assoc _ _ _).symm⟩
  · rintro ⟨middle, between, made, more, handles, then_handles, rfl⟩
    induction handles with
    | nil => exact then_handles
    | cons gives _ ih =>
      rw [List.append_assoc]
      exact .cons gives (ih then_handles)

theorem handles_none_iff :
    (∃ handled, Handles emulator rig handled calls last after ∧
        handled.map Handled.event = []) ↔ last = emulator ∧ after = rig ∧ calls = [] := by
  constructor
  · rintro ⟨handled, handles, none⟩
    obtain rfl := List.map_eq_nil_iff.1 none
    exact handles_nil_iff.1 handles
  · intro nothing
    exact ⟨[], handles_nil_iff.2 nothing, rfl⟩

/-- Events are handled if the first ones are and then the others. -/
theorem handles_both_iff {first second : List HostEvent} :
    (∃ handled, Handles emulator rig handled calls last after ∧
        handled.map Handled.event = first ++ second) ↔
      ∃ middle between made more,
        (∃ handled, Handles emulator rig handled made middle between ∧
          handled.map Handled.event = first) ∧
        (∃ handled, Handles middle between handled more last after ∧
          handled.map Handled.event = second) ∧ calls = made ++ more := by
  constructor
  · rintro ⟨handled, handles, all⟩
    obtain ⟨of_first, of_second, rfl, all_first, all_second⟩ := List.map_eq_append_iff.1 all
    obtain ⟨middle, between, made, more, handles_first, handles_second, rfl⟩ :=
      handles_append_iff.1 handles
    exact ⟨middle, between, made, more, ⟨of_first, handles_first, all_first⟩,
      ⟨of_second, handles_second, all_second⟩, rfl⟩
  · rintro ⟨middle, between, made, more, ⟨of_first, handles_first, rfl⟩,
      ⟨of_second, handles_second, rfl⟩, rfl⟩
    refine ⟨of_first ++ of_second, handles_append_iff.2 ?_, List.map_append⟩
    exact ⟨middle, between, made, more, handles_first, handles_second, rfl⟩

theorem drain_cons {event : HostEvent} (other : event ≠ .quit) (emulator : Emulator)
    (events : List HostEvent) :
    (drain emulator (event :: events) : Act σ τ _) =
      handle emulator event >>= fun emulator => drain emulator events := by
  cases event with
  | quit => exact absurd rfl other
  | key | loadRom | unload => rfl

/-- A drain handles the events before the first quit request and leaves those behind it. -/
theorem drain_gives_iff {events rest : List HostEvent} {quit : Bool} :
    (drain emulator events : Act σ τ _).Gives rig ⟨last, rest, quit⟩ after calls ↔
      ∃ handled, Handles emulator rig handled calls last after ∧
        handled.map Handled.event = beforeQuit events ∧ rest = behindQuit events ∧
        quit = decide (.quit ∈ events) := by
  -- The induction is on the queue, as the drain goes through it.
  induction events generalizing emulator rig calls with
  | nil =>
    simp only [drain, gives_pure_iff, Drained.mk.injEq, beforeQuit_nil, behindQuit_nil,
      List.not_mem_nil, decide_false]
    constructor
    · rintro ⟨⟨rfl, rfl, rfl⟩, rfl, rfl⟩
      exact ⟨[], .nil _ _, rfl, rfl, rfl⟩
    · rintro ⟨handled, handles, none, rfl, rfl⟩
      obtain ⟨rfl, rfl, rfl⟩ := handles_none_iff.1 ⟨handled, handles, none⟩
      exact ⟨⟨rfl, rfl, rfl⟩, rfl, rfl⟩
  | cons event events ih =>
    by_cases quits : event = .quit
    · subst quits
      simp only [drain, gives_pure_iff, Drained.mk.injEq, beforeQuit_quit, behindQuit_quit,
        List.mem_cons, true_or, decide_true]
      constructor
      · rintro ⟨⟨rfl, rfl, rfl⟩, rfl, rfl⟩
        exact ⟨[], .nil _ _, rfl, rfl, rfl⟩
      · rintro ⟨handled, handles, none, rfl, rfl⟩
        obtain ⟨rfl, rfl, rfl⟩ := handles_none_iff.1 ⟨handled, handles, none⟩
        exact ⟨⟨rfl, rfl, rfl⟩, rfl, rfl⟩
    · have same : (.quit ∈ event :: events) ↔ .quit ∈ events := by
        simp [Ne.symm quits]
      rw [drain_cons quits, gives_bind_iff, beforeQuit_cons quits, behindQuit_cons quits]
      simp only [ih, same]
      constructor
      · rintro ⟨middle, between, made, more, handles, ⟨others, rest_handles, all, rfl, rfl⟩, rfl⟩
        exact ⟨_, .cons handles rest_handles, congrArg _ all, rfl, rfl⟩
      · rintro ⟨handled, handles, all, rfl, rfl⟩
        -- What has been handled first is the event at the head of the queue.
        cases handles with
        | nil => cases all
        | cons first others =>
          obtain ⟨rfl, handled⟩ := List.cons.inj all
          exact ⟨_, _, _, _, first, ⟨_, others, handled, rfl, rfl⟩, rfl⟩

end FrameLoop

end Handheld
