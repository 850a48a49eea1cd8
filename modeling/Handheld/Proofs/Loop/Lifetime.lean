import Handheld.Main
import Handheld.Proofs.Loop.Course

/-!
# Runs End With the Display

The frame loop has no end of its own: it goes on as long as the display refreshes.  So a run comes
to an end if the display does.  `Host.Fades` says that a number bounds how often the display will
still refresh, whatever the controller asks of it in the meantime; then a run of more refreshes
than that has ended, by itself or by a fault.

- §1 shows that nothing between two refreshes gives the display more time;
- §2 bounds the rounds of a course, and with them those of a run;
- §3 applies this to the stage, and to the program that runs on it.
-/

namespace Handheld

/-- Every refresh that is answered with true lowers a number, and nothing else that is asked of the
host raises it. -/
structure Host.Fades {τ : Type} [Host τ] (left : τ → Nat) : Prop where
  refresh : ∀ {display later : τ} {sent : List HostEvent},
    Host.waitForRefresh display = .ok ((.ok true, later), sent) → left later < left display
  perform : ∀ {request : SurfaceRequest} {answer : Except HostError Unit} {display later : τ},
    request.perform display = .ok (answer, later) → left later ≤ left display
  frameComplete : ∀ frames display, left (Host.frameComplete frames display) ≤ left display
  reportError : ∀ cause display, left (Host.reportError cause display).value ≤ left display

/-! ## §1 Between two refreshes

A refresh is the only thing that uses up the display's time.  Everything else that happens in a
round leaves no more of it than there was. -/

theorem Rig.Moves.left_le {σ τ : Type} [NativeCore σ] [Host τ] {left : τ → Nat}
    {calls : Request → Prop} {shows : SurfaceRequest → Prop} {rig after : Rig σ τ}
    {made : List Entry} (moves : rig.Moves calls shows made after) (fades : Host.Fades left) :
    left after.display ≤ left rig.display := by
  -- Each of them only lowers what is left, so it does over the whole of the moves.
  -- Of the ways to move a rig only a request to the surface touches the display.
  induction moves with
  | refl => exact Nat.le_refl _
  | present _ performed _ ih => exact Nat.le_trans ih (fades.perform performed)
  | call _ _ _ ih => exact ih
  | write _ _ _ ih => exact ih
  | glance _ _ ih => exact ih

namespace FrameLoop

open Act

variable {σ τ : Type} [NativeCore σ] [Host τ] {left : τ → Nat} {emulator last : Emulator}
  {rig after : Rig σ τ} {calls : List Entry}

/-- An event gives the display no more time, also if the host hears that it has failed. -/
theorem left_le_of_handle (fades : Host.Fades left) {event : HostEvent}
    (gives : (handle emulator event).Gives rig last after calls) :
    left after.display ≤ left rig.display := by
  cases event with
  | quit =>
    -- The event is only seen; the loop itself stops later.
    obtain ⟨-, rfl, -⟩ := gives_pure_iff.1 gives
    exact Nat.le_refl _
  | key event =>
    obtain ⟨answer, _, _, _, sends, rest, -⟩ := gives_bind_iff.1 gives
    obtain ⟨_, _, _, _, notes, returned, -⟩ := gives_bind_iff.1 rest
    obtain ⟨rfl, -⟩ := gives_noteError_iff.1 notes
    obtain ⟨-, rfl, -⟩ := gives_pure_iff.1 returned
    -- What is noted does not reach the display.
    exact ((emulator.sendKey_moves event).of_gives sends).left_le fades
  | unload =>
    obtain ⟨⟨answer, unloaded⟩, _, _, _, unloads, rest, -⟩ := gives_bind_iff.1 gives
    obtain ⟨_, _, _, _, notes, returned, -⟩ := gives_bind_iff.1 rest
    obtain ⟨rfl, -⟩ := gives_noteError_iff.1 notes
    obtain ⟨-, rfl, -⟩ := gives_pure_iff.1 returned
    exact (emulator.unload_tends.of_gives unloads).left_le fades
  | loadRom image =>
    obtain ⟨⟨result, loaded⟩, _, _, _, loads, rest, -⟩ := gives_bind_iff.1 gives
    -- The load asks the display for a new size at most; the report comes on top if it fails.
    have kept := ((emulator.loadRom_tends image).of_gives loads).left_le fades
    cases result with
    | ok screen =>
      obtain ⟨-, rfl, -⟩ := gives_pure_iff.1 rest
      exact kept
    | error cause =>
      obtain ⟨_, _, _, _, notes, reports, -⟩ := gives_bind_iff.1 rest
      obtain ⟨rfl, -⟩ := gives_note_iff.1 notes
      obtain ⟨_, _, _, _, reported, returned, -⟩ := gives_bind_iff.1 reports
      obtain ⟨rfl, -⟩ := gives_reportError_iff.1 reported
      obtain ⟨-, rfl, -⟩ := gives_pure_iff.1 returned
      exact Nat.le_trans (fades.reportError cause _) kept

theorem Handles.left_le {handled : List Handled}
    (handles : Handles emulator rig handled calls last after) (fades : Host.Fades left) :
    left after.display ≤ left rig.display := by
  induction handles with
  | nil => exact Nat.le_refl _
  | cons gives _ ih => exact Nat.le_trans ih (left_le_of_handle fades gives)

/-! ## §2 Runs

A round needs a refresh, so there are no more rounds than refreshes; and fuel that is left over
means that the run has come to an end. -/

variable [Clockwork]

/-- A course has no more rounds than the display has refreshes left. -/
theorem Course.length_le {waiting : List HostEvent} {rounds : List Round} {close : Close}
    (course : Course waiting emulator rig rounds close calls last after)
    (fades : Host.Fades left) : rounds.length ≤ left rig.display := by
  induction course with
  -- A course that ends before its first refresh, or by one that is not answered with true.
  | unfinished | gone | failed => exact Nat.zero_le _
  | quit answers => exact Nat.lt_of_le_of_lt (Nat.zero_le _) (fades.refresh answers)
  | @round waiting sent emulator middle ticked last rig between drawn after display handled made
      shown more answer rounds close answers clear handles all ticks rest ih =>
    -- The round has used up one refresh, and what it has done has brought none back.
    have refreshed : left display < left rig.display := fades.refresh answers
    have handled_le : left between.display ≤ left display := handles.left_le fades
    have drawn_le := (middle.tick_moves.of_gives ticks).left_le fades
    have told := fades.frameComplete ticked.statistics.frames drawn.display
    have others : rounds.length ≤ left (Host.frameComplete _ drawn.display) := ih
    rw [List.length_cons]
    omega

/-- A run of more refreshes than the display has left comes to an end, or a fault cuts it short. -/
theorem run_ends {loop : FrameLoop} {fuel : Nat} (fades : Host.Fades left)
    (enough : left rig.display < fuel) :
    (∃ ending next last after calls,
      (loop.run fuel emulator).Gives rig (ending, next, last) after calls ∧
        ending ≠ .unfinished) ∨
      ∃ fault, (loop.run fuel emulator : Act σ τ _).Faults rig fault := by
  cases run : (loop.run fuel emulator).run rig with
  | error cut => exact .inr ⟨cut.fault, cut.journal, run⟩
  | ok outcome =>
    obtain ⟨⟨ending, next, last⟩, after, journal⟩ := outcome
    have gives := Gives.of_run run
    refine .inl ⟨ending, next, last, after, _, gives, ?_⟩
    cases running : loop.running with
    | false =>
      rw [run_of_stopped running] at gives
      obtain ⟨rfl, -⟩ := finish_gives_iff.1 gives
      nofun
    | true =>
      -- An unfinished course has used up all of the fuel.
      obtain ⟨rounds, close, course, rfl, -, -, unfinished⟩ := run_course running gives
      intro goes_on
      have endless : close = .unfinished := by
        cases close <;> first | rfl | cases goes_on
      have bounded := course.length_le fades
      have used := unfinished endless
      omega

end FrameLoop

/-! ## §3 The stage

The stage answers by its script as long as there is one, and by its lifetime then.  The sum of the
two is what goes down. -/

namespace Stage

/-- How often the stage can still refresh: by its script, and then by its lifetime. -/
def left (stage : Stage) : Nat := stage.refreshes.length + (stage.lifetime - stage.refreshed)

theorem left_of_resize {width height : UInt32} {stage later : Stage}
    {answer : Except HostError Unit} (resizes : stage.resize width height = .ok (answer, later)) :
    later.left = stage.left := by
  unfold resize at resizes
  rcases taken : stage.resizes.take with ⟨override, rest⟩
  rw [taken] at resizes
  cases override with
  -- The answer comes from the script, and the display is not touched.
  | fail | answer =>
    obtain ⟨-, rfl⟩ := Prod.mk.inj (Except.ok.inj resizes)
    rfl
  -- The display answers itself, by its canvas alone.
  | pass =>
    obtain ⟨_, -, made⟩ := Checked.bind_eq_ok_iff.1 resizes
    obtain ⟨-, rfl⟩ := Prod.mk.inj (Except.ok.inj made)
    rfl

theorem left_of_draw {frame : Frame} {scale : UInt32} {stage later : Stage}
    {answer : Except HostError Unit} (draws : stage.draw frame scale = .ok (answer, later)) :
    later.left = stage.left := by
  unfold draw at draws
  rcases taken : stage.draws.take with ⟨override, rest⟩
  rw [taken] at draws
  cases override with
  | fail | answer =>
    obtain ⟨-, rfl⟩ := Prod.mk.inj (Except.ok.inj draws)
    rfl
  | pass =>
    obtain ⟨_, -, made⟩ := Checked.bind_eq_ok_iff.1 draws
    obtain ⟨-, rfl⟩ := Prod.mk.inj (Except.ok.inj made)
    rfl

/-- A refresh uses up an entry of the script or a refresh of the lifetime. -/
theorem left_of_waitForRefresh {stage later : Stage} {sent : List HostEvent}
    (answers : stage.waitForRefresh = ((.ok true, later), sent)) : later.left < stage.left := by
  -- Without a script the lifetime decides, and with one its first entry, unless that lets pass.
  have passes : ∀ refreshes : Script HostError Bool, refreshes.length ≤ stage.refreshes.length →
      (if stage.refreshed < stage.lifetime then
          ((.ok true, { stage with refreshes, refreshed := stage.refreshed + 1 }),
            eventsAt { stage with refreshes } (stage.refreshed + 1))
        else ((.ok false, { stage with refreshes }), []) :
        Reply HostError Bool Stage × List HostEvent) = ((.ok true, later), sent) →
      later.left < stage.left := by
    intro refreshes fewer passed
    split at passed
    -- The lifetime has a refresh less left, and the script has not grown.
    · obtain ⟨⟨-, rfl⟩, -⟩ := And.imp_left Prod.mk.inj (Prod.mk.inj passed)
      show refreshes.length + (stage.lifetime - (stage.refreshed + 1)) <
        stage.refreshes.length + (stage.lifetime - stage.refreshed)
      omega
    · cases passed
  unfold waitForRefresh at answers
  cases script : stage.refreshes with
  | nil =>
    rw [script] at answers
    exact passes [] (Nat.zero_le _) answers
  | cons override rest =>
    rw [script] at answers
    have shorter : rest.length < stage.refreshes.length := by
      rw [script]
      exact Nat.lt_succ_self _
    cases override with
    | pass => exact passes rest (Nat.le_of_lt shorter) answers
    | fail => cases answers
    | answer value =>
      -- The script has answered, and it has an entry less now.
      obtain ⟨⟨-, rfl⟩, -⟩ := And.imp_left Prod.mk.inj (Prod.mk.inj answers)
      exact Nat.add_lt_add_right shorter _

theorem fades : Host.Fades left where
  refresh answers := left_of_waitForRefresh (Except.ok.inj answers)
  perform {request answer display later} performed := by
    cases request with
    | resize width height => exact Nat.le_of_eq (left_of_resize performed)
    | draw frame scale => exact Nat.le_of_eq (left_of_draw performed)
  frameComplete _ _ := Nat.le_refl _
  reportError _ _ := Nat.le_refl _

end Stage

/-- The program runs its loop for one refresh more than its display has.  So unless a fault cuts the
program short, its loop has come to an end: it is not left behind unfinished. -/
theorem CommandLine.session_ends (options : Options) (rom : Option Bytes)
    {machine : Machine (Linked Sample)} {outcome : Outcome (Linked Sample) Stage _}
    (run : (session options rom).run { machine, display } = .ok outcome) :
    outcome.value.1 ≠ .unfinished := by
  obtain ⟨registered, rest, registers, goes_on, rfl⟩ := Act.run_bind_eq_ok_iff.1 run
  -- The display takes the registration, and loses no refresh by it.
  obtain rfl := Except.ok.inj registers
  obtain ⟨⟨⟨ending, next, last⟩, after, journal⟩, stopped, runs, shuts, rfl⟩ :=
    Act.run_bind_eq_ok_iff.1 goes_on
  obtain ⟨_, _, -, returns, rfl⟩ := Act.run_bind_eq_ok_iff.1 shuts
  obtain rfl := Except.ok.inj returns
  -- The loop starts with all sixty refreshes of the lifetime, and no script.
  let started : Rig (Linked Sample) Stage :=
    { machine, display := { display with registered := true } }
  have enough : started.display.left < lifetime + 1 := Nat.lt_succ_self 60
  rcases FrameLoop.run_ends Stage.fades enough with ⟨_, _, _, _, _, gives, ends⟩ | ⟨_, _, cut⟩
  · obtain ⟨same, -, -⟩ := gives.outcome_eq runs
    obtain ⟨rfl, -⟩ := Prod.mk.inj same
    exact ends
  · cases cut.symm.trans runs

end Handheld
