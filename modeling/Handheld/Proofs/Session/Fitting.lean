import Handheld.Proofs.Session.Capture
import Handheld.Proofs.Session.Operation
import Handheld.Proofs.Session.Sizing
import Handheld.Rehearsal.Platform

/-!
# The Canvas Fits the Running Rom

The size of the canvas is set by a load and relied on by every tick after it.  The two compute it
in different ways, and between them there may be loads that fail, even after the old rom is gone.
`Emulator.surface_fits_rom` says that the size is right whenever a rom is running, whatever has
been done before.

The proof rests on two facts.  A canvas that refuses a request is left as it was (§1), and a load
that fails has had no request accepted (§2).  `Emulator.Fitted` is the invariant of a session.
-/

namespace Handheld

/-! ## §1 What calls do to a canvas

A canvas that grants nothing is the same canvas, since a refusal leaves it alone; and draws change
its pixels only. -/

section Moves

variable {σ : Type} [NativeCore σ] {calls : Request → Prop} {shows : SurfaceRequest → Prop}
  {rig after : Rig σ Canvas} {made : List Entry}

/-- The surface has granted none of the requests. -/
def GrantsNothing (made : List Entry) : Prop := ∀ request, .surface request (.ok ()) ∉ made

theorem GrantsNothing.append {first second : List Entry} (nothing : GrantsNothing first)
    (then_nothing : GrantsNothing second) : GrantsNothing (first ++ second) := by
  intro request granted
  rcases List.mem_append.1 granted with early | late
  · exact nothing request early
  · exact then_nothing request late

/-- Where nothing is shown nothing is granted. -/
theorem Rig.Moves.grantsNothing (moves : rig.Moves calls (fun _ => False) made after) :
    GrantsNothing made := fun _ granted => moves.kinds _ granted

/-- A canvas that grants nothing is left as it was, its pixels included. -/
theorem Rig.Moves.display_of_grantsNothing (moves : rig.Moves calls shows made after)
    (nothing : GrantsNothing made) : after.display = rig.display := by
  induction moves with
  | refl => rfl
  | call _ _ _ ih => exact ih fun request later => nothing request (.tail _ later)
  | @present rig after made request answer display _ performed _ ih =>
    rw [ih fun request later => nothing request (.tail _ later)]
    cases answer with
    | error cause => exact Canvas.of_refusal performed
    | ok => exact absurd (.head _) (nothing request)
  | write _ _ _ ih => exact ih nothing
  | glance _ _ ih => exact ih nothing

/-- Draws change nothing but pixels. -/
theorem Rig.Moves.sameShape (moves : rig.Moves calls SurfaceRequest.IsDraw made after) :
    Canvas.SameShape rig.display after.display := by
  refine moves.display_invariant (fun {request} _ _ _ allowed performed same => ?_) (.refl _)
  cases request with
  | resize => exact allowed.elim
  | draw frame scale => exact same.trans (Canvas.sameShape_of_draw performed)

/-- Nothing moves the limit. -/
theorem Rig.Moves.limit (moves : rig.Moves calls shows made after) :
    after.display.limit = rig.display.limit :=
  moves.display_invariant (fun _ performed same => (Canvas.limit_of_perform performed).trans same)
    rfl

end Moves

/-! ## §2 Loads that fail

The last step is the only one that asks the surface for anything.  So a load that fails was refused
there, or it has not come so far. -/

section Loads

variable {σ τ : Type} [NativeCore σ] [Surface τ] {image : Bytes} {scale : UInt32}
  {rig after : Rig σ τ} {milestone last : Milestone} {made : List Entry}

/-- The request of the last step is the only one, and with it the load is finished. -/
theorem Milestone.finished_of_granted {request : SurfaceRequest}
    {outcome : Outcome σ τ (Except Error Milestone)}
    (run : (milestone.advance image scale).run rig = .ok outcome)
    (granted : .surface request (.ok ()) ∈ outcome.journal.exchanges) :
    ∃ current, outcome.value = .ok (.finished current) := by
  -- Every request of a step to the surface is made at stage 10.
  have reaches : (milestone.advance image scale : Act σ τ _).MovesBy Request.IsUpkeep
      fun _ => milestone.stage = 10 := milestone.advance_moves image scale fun last _ _ => last
  have moves := reaches.of_run run
  have last : milestone.stage = 10 := moves.kinds _ granted
  cases milestone with
  | fitting rom handle screen size =>
    obtain ⟨inner, hpresent, rfl⟩ := Act.run_map_eq_ok_iff.1 run
    obtain ⟨answer, display, -, hvalue, -, hjournal⟩ := Act.run_present_eq_ok_iff.1 hpresent
    -- The answer that was granted is that of the resize.
    dsimp only at granted ⊢
    rw [hjournal] at granted
    cases List.mem_singleton.1 granted
    rw [hvalue]
    exact ⟨_, rfl⟩
  | occupied | halted | vacant | admitted | measured | given | filled | created | wide | sized
  | finished => simp [stage] at last

/-- A load that has not come to its end has been granted nothing. -/
theorem Progress.grantsNothing
    (progress : Progress image scale milestone rig made last after)
    (unfinished : ∀ current, last ≠ .finished current) : GrantsNothing made := by
  induction progress with
  | refl => exact fun _ granted => nomatch granted
  | step run succeeds rest ih =>
    refine GrantsNothing.append (fun request granted => ?_) (ih unfinished)
    -- A request that is granted finishes the load, and no step comes after it.
    obtain ⟨current, finished⟩ := Milestone.finished_of_granted run granted
    obtain rfl := Except.ok.inj (succeeds.symm.trans finished)
    exact unfinished current rest.last_of_finished.1

/-- What a load gives back it gives back to the core. -/
theorem Holdings.CleanedUp.grantsNothing {holdings : Holdings}
    (cleaned : holdings.CleanedUp made) : GrantsNothing made := by
  intro request granted
  cases holdings with
  | nothing =>
    obtain rfl : made = [] := cleaned
    cases granted
  | block rom =>
    obtain ⟨answer, rfl⟩ := cleaned
    simp at granted
  | «instance» rom handle =>
    rcases cleaned with ⟨cause, rfl⟩ | ⟨answer, rfl⟩
    · simp at granted
    · simp at granted

theorem BrokenOff.grantsNothing {cause : Error}
    (broken : BrokenOff image scale milestone rig cause Holdings.CleanedUp made) :
    GrantsNothing made := by
  obtain ⟨last, reached, failed, before, behind, progress, run, fails, cleaned, rfl⟩ := broken
  refine .append (.append (progress.grantsNothing ?_) fun request granted => ?_)
    cleaned.grantsNothing
  · -- A load that is finished does not fail any more.
    rintro current rfl
    obtain rfl := Except.ok.inj run
    cases fails
  · obtain ⟨current, finished⟩ := Milestone.finished_of_granted run granted
    rw [fails] at finished
    cases finished

end Loads

/-- A load that fails leaves the canvas as it was, its pixels and its count of draws included. -/
theorem Lifecycle.display_of_failure {σ : Type} [NativeCore σ] {lifecycle rest : Lifecycle}
    {image : Bytes} {scale : UInt32} {rig : Rig σ Canvas} {cause : Error}
    {outcome : Outcome σ Canvas (Except Error Screen × Lifecycle)}
    (completes : (lifecycle.load image scale).run rig = .ok outcome)
    (fails : outcome.value = (.error cause, rest)) : outcome.rig.display = rig.display := by
  have follows := load_follows image scale lifecycle _ _ completes
  rw [fails] at follows
  exact ((lifecycle.load_tends image scale).of_run completes).display_of_grantsNothing
    (BrokenOff.grantsNothing follows)

/-! ## §3 The invariant

Nothing is claimed of the canvas while no rom is running.  This is what lets loads fail in
between. -/

namespace Emulator

variable [Clockwork] {σ : Type} {emulator : Emulator} {operation : Operation}
  {rig after : Rig σ Canvas} {scale : UInt32} {limit : UInt32 × UInt32}

/-- A controller and a canvas between two operations: while a rom is running the canvas has the
size for its screen. -/
structure Fitted (scale : UInt32) (limit : UInt32 × UInt32) (emulator : Emulator)
    (rig : Rig σ Canvas) : Prop where
  factor : emulator.pipeline.scale = scale
  steady : emulator.pipeline.Steady
  limit : rig.display.limit = limit
  suits : ∀ current, emulator.lifecycle = .loaded current →
    rig.display.Suits current.screen scale

theorem fitted_new (options : EmulatorOptions) (rig : Rig σ Canvas) :
    Fitted options.scale rig.display.limit (new options) rig :=
  ⟨rfl, Pipeline.steady_new _ _, rfl, fun _ impossible => nomatch impossible⟩

/-- While the canvas keeps its shape and no other rom is running, the invariant is kept. -/
theorem Fitted.moved {next : Emulator} (fitted : Fitted scale limit emulator rig)
    (same : Canvas.SameShape rig.display after.display)
    (pipeline : next.pipeline.Steady ∧ next.pipeline.scale = emulator.pipeline.scale)
    (running : ∀ current, next.lifecycle = .loaded current →
      emulator.lifecycle = .loaded current) : Fitted scale limit next after where
  factor := pipeline.2.trans fitted.factor
  steady := pipeline.1
  limit := same.limit.trans fitted.limit
  suits current loaded := (fitted.suits current (running current loaded)).of_sameShape same

end Emulator

/-! ## §4 One operation -/

namespace Emulator

section Histories

variable [Clockwork] {σ : Type} [NativeCore σ] {emulator : Emulator} {operation : Operation}
  {rig : Rig σ Canvas} {scale : UInt32} {limit : UInt32 × UInt32}

/-- Only a load that succeeds and a tick change the canvas. -/
theorem display_of_perform
    {outcome : Outcome σ Canvas (Except Error operation.Answer × Emulator)}
    (run : (emulator.perform operation).run rig = .ok outcome) (other : operation ≠ .tick)
    (unsized : Deed.isLoad ⟨operation, outcome.value.1⟩ = false) :
    outcome.rig.display = rig.display := by
  cases operation with
  -- A load that fails has had no request granted, and one that succeeds is a load.
  | loadRom image =>
    obtain ⟨loading, hload, hrig, ended⟩ := of_loadRom run
    rw [hrig]
    rcases ended with ⟨cause, fails, -⟩ | ⟨current, fresh, -, -, hvalue⟩
    · exact Lifecycle.display_of_failure hload fails
    · rw [hvalue] at unsized
      cases unsized
  | unload =>
    obtain ⟨unloading, hunload, rfl⟩ := Act.run_map_eq_ok_iff.1 run
    -- An unload makes no request to the surface, whether or not it fails.
    have moves : rig.Moves Request.IsUpkeep (fun _ => False) _ unloading.rig :=
      emulator.lifecycle.unload_tends.of_run hunload
    exact moves.display_of_grantsNothing moves.grantsNothing
  | tick => exact absurd rfl other
  | press event | release event =>
    obtain ⟨forwarding, hforward, rfl⟩ := Act.run_map_eq_ok_iff.1 run
    have moves := (UnmappedKeys.forward_moves _ _ _ _).of_run hforward
    exact moves.display_of_grantsNothing moves.grantsNothing
  | key event =>
    obtain ⟨sending, hsend, rfl⟩ := Act.run_map_eq_ok_iff.1 run
    have moves := (emulator.sendKey_moves event).of_run hsend
    exact moves.display_of_grantsNothing moves.grantsNothing

/-- Only a load that succeeds changes the size of the canvas. -/
theorem sameShape_of_perform
    {outcome : Outcome σ Canvas (Except Error operation.Answer × Emulator)}
    (run : (emulator.perform operation).run rig = .ok outcome)
    (unsized : Deed.isLoad ⟨operation, outcome.value.1⟩ = false) :
    Canvas.SameShape rig.display outcome.rig.display := by
  by_cases ticks : operation = .tick
  · subst ticks
    exact (emulator.tick_moves.of_run run).sameShape
  · rw [display_of_perform run ticks unsized]
    exact .refl _

theorem Fitted.loadRom {image : Bytes}
    {outcome : Outcome σ Canvas (Except Error Screen × Emulator)}
    (fitted : Fitted scale limit emulator rig)
    (run : (emulator.loadRom image).run rig = .ok outcome) :
    Fitted scale limit outcome.value.2 outcome.rig := by
  obtain ⟨loading, hload, hrig, ended⟩ := of_loadRom run
  rw [hrig]
  rcases ended with ⟨cause, fails, hvalue⟩ | ⟨current, fresh, loads, resets, hvalue⟩
  -- The old rom may be gone, but then no rom is running and nothing is claimed of the canvas.
  · rw [hvalue]
    refine fitted.moved ?_ ⟨fitted.steady, rfl⟩ fun _ impossible => ?_
    · rw [Lifecycle.display_of_failure hload fails]
      exact .refl _
    · cases impossible
  · -- The load has sized the canvas with the scale that the pipeline draws with.
    obtain ⟨steady, factor, -⟩ := fitted.steady.reset resets
    obtain ⟨-, sized⟩ := Lifecycle.sized_of_load hload loads
    have moves := (emulator.lifecycle.load_tends image emulator.pipeline.scale).of_run hload
    rw [hvalue]
    refine ⟨factor.trans fitted.factor, steady, moves.limit.trans fitted.limit, ?_⟩
    rintro _ ⟨⟩
    exact fitted.factor ▸ sized.toSuits

/-- Every operation keeps the invariant. -/
theorem Fitted.perform
    {outcome : Outcome σ Canvas (Except Error operation.Answer × Emulator)}
    (fitted : Fitted scale limit emulator rig)
    (run : (emulator.perform operation).run rig = .ok outcome) :
    Fitted scale limit outcome.value.2 outcome.rig := by
  cases operation with
  | loadRom image => exact fitted.loadRom run
  | unload =>
    have same := sameShape_of_perform run rfl
    obtain ⟨unloading, hunload, rfl⟩ := Act.run_map_eq_ok_iff.1 run
    refine fitted.moved same ⟨fitted.steady, rfl⟩ fun current loaded => ?_
    -- No rom is running any more, whether or not the unload has succeeded.
    have empty := Lifecycle.unload_value hunload
    rw [show unloading.value.2 = .loaded current from loaded] at empty
    cases empty
  | tick =>
    have same := sameShape_of_perform run rfl
    obtain ⟨ticking, htick, rfl⟩ := Act.run_map_eq_ok_iff.1 run
    -- A tick draws at most, so the shape and the limit are those from before.
    exact fitted.moved same (fitted.steady.tick htick) fun _ loaded => loaded
  | press | release | key =>
    have same := sameShape_of_perform run rfl
    obtain ⟨inner, -, rfl⟩ := Act.run_map_eq_ok_iff.1 run
    exact fitted.moved same ⟨fitted.steady, rfl⟩ fun _ loaded => loaded

/-! ## §5 Any history -/

/-- Any number of operations keeps the invariant. -/
theorem Fitted.performAll {operations : List Operation}
    {outcome : Outcome σ Canvas (List Deed × Emulator)}
    (fitted : Fitted scale limit emulator rig)
    (run : (emulator.performAll operations).run rig = .ok outcome) :
    Fitted scale limit outcome.value.2 outcome.rig := by
  induction operations generalizing emulator rig outcome with
  | nil =>
    obtain rfl := Except.ok.inj run
    exact fitted
  | cons operation operations ih =>
    -- The first operation keeps the invariant, and the others start from what it leaves.
    obtain ⟨first, rest, hfirst, hrest, rfl⟩ := Act.run_bind_eq_ok_iff.1 run
    obtain ⟨others, hothers, rfl⟩ := Act.run_map_eq_ok_iff.1 hrest
    have final := ih (fitted.perform hfirst) hothers
    exact final

/-- The canvas refuses nothing that a tick asks of it. -/
theorem Fitted.draws {request : SurfaceRequest} {answer : Except HostError Unit}
    (fitted : Fitted scale limit emulator rig)
    (shown : .surface request answer ∈ (emulator.tick).journal rig) : answer = .ok () := by
  -- What the surface is shown is shown by the tick itself; the controller adds nothing to it.
  rcases Act.mem_journal_bind shown with ticked | ⟨_, -, later⟩
  swap
  · exact absurd later (Act.movesBy_pure _).shows_nothing
  cases hlifecycle : emulator.lifecycle with
  | empty =>
    rw [hlifecycle] at ticked
    exact absurd ticked (Act.movesBy_pure _).shows_nothing
  | loaded current =>
    rw [hlifecycle] at ticked
    obtain ⟨frame, -, comes, display, drawn⟩ := fitted.steady.drawn ticked
    obtain ⟨produced, _, _, _, _, _, produces, -, rfl⟩ := comes
    obtain ⟨⟨_, _, _, _, -, -, portrays⟩, -⟩ := Pipeline.captures_of_produce produces
    have fits := (fitted.suits current hlifecycle).fits
    rw [← portrays.width, ← portrays.height, ← fitted.factor] at fits
    exact fits.accepts drawn

/-- Whatever has been done, while a rom is running the canvas has exactly the size of its enlarged
screen, which is not zero and within the limit that the canvas has had from the start.  From there
only a load that succeeds changes the size, only such a load and a tick change anything of the
canvas, and no draw of a tick is refused. -/
theorem surface_fits_rom (options : EmulatorOptions) (operations : List Operation)
    (rig : Rig σ Canvas) {outcome : Outcome σ Canvas (List Deed × Emulator)}
    (run : ((new options).performAll operations).run rig = .ok outcome) :
    (∀ current, outcome.value.2.lifecycle = .loaded current →
      outcome.rig.display.size.1.toNat = current.screen.width.toNat * options.scale.toNat ∧
        outcome.rig.display.size.2.toNat = current.screen.height.toNat * options.scale.toNat ∧
        outcome.rig.display.size.1 ≠ 0 ∧ outcome.rig.display.size.2 ≠ 0 ∧
        outcome.rig.display.size.1 ≤ rig.display.limit.1 ∧
        outcome.rig.display.size.2 ≤ rig.display.limit.2) ∧
    (∀ (operation : Operation)
        (next : Outcome σ Canvas (Except Error operation.Answer × Emulator)),
      (outcome.value.2.perform operation).run outcome.rig = .ok next →
      Deed.isLoad ⟨operation, next.value.1⟩ = false →
      next.rig.display.size = outcome.rig.display.size ∧
        (operation ≠ .tick → next.rig.display = outcome.rig.display)) ∧
    ∀ request answer, .surface request answer ∈ (outcome.value.2.tick).journal outcome.rig →
      answer = .ok () := by
  have fitted := (fitted_new options rig).performAll run
  refine ⟨fun current loaded => ?_, fun operation next performs unsized => ?_,
    fun _ _ => fitted.draws⟩
  · obtain ⟨⟨width, height⟩, wide, high, narrow, low⟩ := fitted.suits current loaded
    rw [fitted.limit] at narrow low
    exact ⟨width, height, wide, high, narrow, low⟩
  · refine ⟨(sameShape_of_perform performs unsized).size, fun other => ?_⟩
    exact display_of_perform performs other unsized

end Histories

/-- Two loads fail, one of them when the first rom is gone already, before another rom is there. -/
def uphill : List Operation :=
  [.loadRom #[], .loadRom #[7], .tick, .loadRom #[], .unload, .loadRom #[8, 9], .tick]

/-- A bench core with a screen of two points, and a canvas with a limit. -/
def uphillRig : Rig Bench Canvas where
  machine := Bench.machine { heapSize := 64, screen := ⟨2, 1⟩ }
  display := (Canvas.new .argb).withLimit 10 2

theorem surface_fits_rom_of_failed_reload :
    ∃ outcome current, ((new { scale := 2 }).performAll uphill).run uphillRig = .ok outcome ∧
      outcome.value.2.lifecycle = .loaded current ∧ current.screen = ⟨2, 1⟩ ∧
      outcome.rig.display.size.1.toNat = current.screen.width.toNat * 2 ∧
      outcome.rig.display.size.2.toNat = current.screen.height.toNat * 2 := by
  obtain ⟨outcome, run, running⟩ : ∃ outcome,
      ((new { scale := 2 }).performAll uphill).run uphillRig = .ok outcome ∧
        outcome.value.2.lifecycle.screen? = some ⟨2, 1⟩ := Checked.exists_of_any (by decide +kernel)
  obtain ⟨current, loaded, screen⟩ := Option.map_eq_some_iff.1 running
  have loaded : outcome.value.2.lifecycle = .loaded current := by
    cases hlifecycle : outcome.value.2.lifecycle with
    | empty =>
      rw [hlifecycle] at loaded
      cases loaded
    | loaded other =>
      rw [hlifecycle] at loaded
      cases loaded
      rfl
  obtain ⟨sized, -, -⟩ := surface_fits_rom { scale := 2 } uphill uphillRig run
  obtain ⟨width, height, -⟩ := sized current loaded
  exact ⟨outcome, current, run, loaded, screen, width, height⟩

end Emulator

end Handheld
