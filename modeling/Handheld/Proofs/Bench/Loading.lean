import Handheld.Proofs.Bench.Answers
import Handheld.Proofs.Session.Moves
import Handheld.Proofs.Session.Sizing

/-!
# Loads on the Bench

What a tick needs of a running rom when the core is the bench core and the display a canvas: a
live instance, a known screen and a canvas of the right size.  A load finds this out milestone
by milestone (`Milestone.Tells`), so one that succeeds leaves a rom `Running`.
-/

namespace Handheld

/-! ## §1 What stays -/

/-- Calls that do not run an instance change neither the set-up nor the number of steps. -/
theorem Rig.Moves.sameSetup {τ : Type} [Surface τ] {calls : Request → Prop}
    {shows : SurfaceRequest → Prop} {rig after : Rig Bench τ} {made : List Entry}
    (moves : rig.Moves calls shows made after)
    (upkeep : ∀ request, calls request → request.function ≠ .step) :
    Bench.SameSetup rig.machine.state after.machine.state := by
  induction moves with
  | refl rig => exact .refl _
  | call allowed answered _ ih =>
    exact (Bench.sameSetup_of_answer (upkeep _ allowed) answered).trans ih
  | present _ _ _ ih => exact ih
  | write _ _ _ ih => exact ih
  | glance _ _ ih => exact ih

/-- What resizing leaves alone on a canvas. -/
structure Canvas.Tended (before after : Canvas) : Prop where
  encoding : after.backing.encoding = before.backing.encoding
  draws : after.draws = before.draws
  wellFormed : before.backing.WellFormed → after.backing.WellFormed

theorem Rig.Moves.tended {σ : Type} [NativeCore σ] {calls : Request → Prop}
    {rig after : Rig σ Canvas} {made : List Entry}
    (moves : rig.Moves calls SurfaceRequest.IsResize made after) :
    Canvas.Tended rig.display after.display := by
  refine moves.display_invariant (fun {request} _ _ _ allowed performed tended => ?_)
    ⟨rfl, rfl, id⟩
  cases request with
  | draw => cases allowed
  | resize width height =>
    rcases Canvas.of_resize performed with ⟨-, rfl⟩ | ⟨-, -, wellFormed, -, -, encoding, -, draws⟩
    · exact tended
    · exact ⟨encoding.trans tended.encoding, draws.trans tended.draws, fun _ => wellFormed⟩

/-! ## §2 What a load finds out -/

/-- A rom runs on the bench with the given screen, and the canvas has the size for it. -/
structure Running (screen : Screen) (scale : UInt32) (current : LoadedRom)
    (rig : Rig Bench Canvas) : Prop where
  live : current.handle ∈ rig.machine.state.instances
  resolution : current.screen = screen
  enlarged : scale ≠ 0
  fits : rig.display.Fits screen.width screen.height scale

/-- What is known of the new instance when a load has come so far. -/
def Milestone.Tells (screen : Screen) (scale : UInt32) (rig : Rig Bench Canvas) :
    Milestone → Prop
  | .created _ handle => handle ∈ rig.machine.state.instances
  | .wide _ handle width => handle ∈ rig.machine.state.instances ∧ width = screen.width
  | .sized _ handle found => handle ∈ rig.machine.state.instances ∧ found = screen
  | .fitting _ handle found size =>
    handle ∈ rig.machine.state.instances ∧ found = screen ∧
      screen.surfaceSize? scale = some size
  | .finished current => Running screen scale current rig
  | .occupied _ | .halted _ | .vacant | .admitted | .measured _ | .given _ | .filled _ => True

variable {screen : Screen} {scale : UInt32} {image : Bytes} {rig after : Rig Bench Canvas}

/-- Before an instance has been created there is nothing to tell. -/
theorem Milestone.tells_of_early {milestone : Milestone} (early : milestone.stage < 7) :
    milestone.Tells screen scale rig := by
  cases milestone with
  | created | wide | sized | fitting | finished => simp [stage] at early
  | occupied | halted | vacant | admitted | measured | given | filled => trivial

/-- An answer of the bench core to a question about the screen of an instance. -/
theorem Bench.of_screen_answer {machine next : Machine Bench} {handle : Handle} {given : UInt32} :
    (NativeCore.answer (.screenWidth handle) machine = .ok (.ok given, next) →
      given = machine.state.screen.width ∧ next.state.instances = machine.state.instances) ∧
    (NativeCore.answer (.screenHeight handle) machine = .ok (.ok given, next) →
      given = machine.state.screen.height ∧ next.state.instances = machine.state.instances) := by
  constructor
  · intro h
    obtain ⟨rfl, answered⟩ := of_look (.ok _) h
    exact ⟨(Except.ok.inj (answered given rfl)).symm, rfl⟩
  · intro h
    obtain ⟨rfl, answered⟩ := of_look (.ok _) h
    exact ⟨(Except.ok.inj (answered given rfl)).symm, rfl⟩

/-- What a step of a load finds out is what the next milestone tells. -/
theorem Milestone.Tells.advance {milestone next : Milestone}
    {outcome : Outcome Bench Canvas (Except Error Milestone)}
    (tells : milestone.Tells screen scale rig) (resolution : rig.machine.state.screen = screen)
    (run : (milestone.advance image scale).run rig = .ok outcome)
    (succeeds : outcome.value = .ok next) : next.Tells screen scale outcome.rig := by
  cases milestone with
  -- Up to here no instance has been created, and this step creates none.
  | occupied | halted | vacant | admitted | measured | given =>
    apply tells_of_early
    rw [stage_of_advance run succeeds]
    simp [stage]
  | filled rom =>
    obtain ⟨answer, machine, answered, value, same⟩ := Act.of_run_map_ask run
    rw [value] at succeeds
    rw [same]
    -- Of the three answers only a new instance leads on.
    rcases answer with _ | _ | handle
    · cases succeeds
    · cases succeeds
    · cases succeeds
      obtain ⟨⟨made, machine'⟩, hcreate, h⟩ := Checked.bind_eq_ok_iff.1 answered
      obtain ⟨hmade, rfl⟩ := Prod.mk.inj (Except.ok.inj h)
      exact (Bench.of_create hcreate).2 handle (Except.ok.inj hmade)
  -- Both questions are answered with the resolution, and neither takes the instance away.
  | created rom handle =>
    obtain ⟨answer, machine, answered, value, same⟩ := Act.of_run_map_ask run
    rw [value] at succeeds
    rw [same]
    cases answer with
    | error cause => cases succeeds
    | ok width =>
      cases succeeds
      obtain ⟨hwidth, instances⟩ := Bench.of_screen_answer.1 answered
      exact ⟨instances ▸ tells, hwidth.trans (resolution ▸ rfl)⟩
  | wide rom handle width =>
    obtain ⟨answer, machine, answered, value, same⟩ := Act.of_run_map_ask run
    rw [value] at succeeds
    rw [same]
    cases answer with
    | error cause => cases succeeds
    | ok height =>
      cases succeeds
      obtain ⟨hheight, instances⟩ := Bench.of_screen_answer.2 answered
      obtain ⟨live, rfl⟩ := tells
      refine ⟨instances ▸ live, ?_⟩
      rw [hheight, resolution]
  | sized rom handle found =>
    -- The check of the screen tells the size of the surface.
    obtain ⟨inner, hmemory, rfl⟩ := Act.run_map_eq_ok_iff.1 run
    obtain rfl := Except.ok.inj hmemory
    obtain ⟨live, rfl⟩ := tells
    dsimp only at succeeds
    cases hchecked : found.checked scale rig.machine.memory with
    | error cause =>
      rw [hchecked] at succeeds
      cases succeeds
    | ok size =>
      rw [hchecked] at succeeds
      cases succeeds
      exact ⟨live, rfl, Screen.of_checked hchecked⟩
  | fitting rom handle found size =>
    obtain ⟨inner, hpresent, rfl⟩ := Act.run_map_eq_ok_iff.1 run
    obtain ⟨answer, display, performed, hvalue, hrig, -⟩ :=
      Act.run_present_eq_ok_iff.1 hpresent
    obtain ⟨live, rfl, found⟩ := tells
    -- A canvas that accepts a size has it from then on.
    dsimp only at succeeds ⊢
    rw [hvalue] at succeeds
    cases answer with
    | error cause => cases succeeds
    | ok =>
      cases succeeds
      have sized := Canvas.sized_of_resize found performed
      rw [hrig]
      exact ⟨live, rfl, sized.enlarged, sized.fits⟩
  | finished =>
    obtain rfl := Except.ok.inj run
    cases succeeds
    exact tells

/-- What holds where a row of steps begins holds where it ends. -/
theorem Progress.tells {milestone last : Milestone} {calls : List Entry}
    (progress : Progress image scale milestone rig calls last after)
    (resolution : rig.machine.state.screen = screen) (tells : milestone.Tells screen scale rig) :
    last.Tells screen scale after := by
  induction progress with
  | refl => exact tells
  | @step milestone next last rig final calls outcome run succeeds rest ih =>
    have moves := (milestone.advance_tends image scale).of_run run
    have setup := moves.sameSetup fun _ upkeep => upkeep
    exact ih (setup.screen.trans resolution) (tells.advance resolution run succeeds)

/-- A load that succeeds leaves a running rom behind. -/
theorem Lifecycle.running_of_load {lifecycle rest : Lifecycle} {given : Screen}
    {outcome : Outcome Bench Canvas (Except Error Screen × Lifecycle)}
    (resolution : rig.machine.state.screen = screen)
    (completes : (lifecycle.load image scale).run rig = .ok outcome)
    (succeeds : outcome.value = (.ok given, rest)) :
    ∃ current, rest = .loaded current ∧ Running screen scale current outcome.rig := by
  obtain ⟨current, -, hrest, progress⟩ := load_success completes succeeds
  have start_early := Milestone.stage_start_le lifecycle
  have start : (Milestone.start lifecycle).Tells screen scale rig :=
    Milestone.tells_of_early (by omega)
  exact ⟨current, hrest, progress.tells resolution start⟩

/-! ## §3 What keeps a rom running -/

/-- Setting a button leaves the running rom alone. -/
theorem Running.of_button {current : LoadedRom} {made : List Entry}
    (running : Running screen scale current rig)
    (moves : rig.Moves Request.IsButton (fun _ => False) made after) :
    Running screen scale current after := by
  induction moves with
  | refl => exact running
  | @call rig after made request answer machine allowed answered _ ih =>
    cases request <;> cases allowed
    apply ih
    obtain ⟨rfl, -⟩ := Bench.of_look (.ok _) answered
    exact ⟨running.live, running.resolution, running.enlarged, running.fits⟩
  | present allowed => exact absurd allowed id
  | write _ _ _ ih => exact ih ⟨running.live, running.resolution, running.enlarged, running.fits⟩
  | glance _ _ ih => exact ih ⟨running.live, running.resolution, running.enlarged, running.fits⟩

end Handheld
