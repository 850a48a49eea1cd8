import Handheld.Proofs.Bench.Session
import Handheld.Proofs.Session.Production
import Handheld.Rehearsal.Platform

/-!
# Screens Beyond the Words

A load checks that each axis of the enlarged screen is a word.  The scaled copy also computes the
place where a row begins in words, and that place is a product of a row and the width: it may be
too large although both axes are words.  `Lifecycle.tick_after_load` says exactly when: a tick
after an accepted load draws its picture if every row begins at a word, and else a fault ends it.
-/

namespace Handheld

/-! ## §1 A tick on a sized canvas -/

namespace Pipeline

variable {σ : Type} [NativeCore σ] {pipeline : Pipeline} {count : Nat} {current : LoadedRom}
  {rig : Rig σ Canvas} {status : Int32} {addr : UInt32} {machine : Machine σ}

/-- A picture of the screen that the canvas has been sized for fits the canvas. -/
theorem Pictures.fits {picture : Frame} {screen : Screen} {wanted : PixelEncoding} {memory : Bytes}
    {canvas : Canvas} {scale : UInt32} (pictures : Pictures picture screen wanted memory addr)
    (sized : canvas.SizedFor screen scale) : canvas.Fits picture.width picture.height scale := by
  rw [pictures.width, pictures.height]
  exact sized.fits

theorem tick_draws [Clockwork] (standard : Clockwork.Standard)
    (sized : rig.display.SizedFor current.screen pipeline.scale)
    (addressable : rig.display.backing.Addressable)
    (drawable : rig.display.draws.toNat + 1 < 2 ^ 64) (steady : pipeline.Steady)
    (within : pipeline.Within count) (small : count + 1 < 2 ^ 32)
    (answers : pipeline.Answers current rig status addr machine) :
    ∃ ticked after calls,
      (pipeline.tick (.loaded current)).Gives rig (.ok true, ticked) after calls := by
  -- The counters have room, and so the clock has time for one more frame.
  have countable := within.countable small
  obtain ⟨picture, pictures, ticks⟩ :=
    tick_gives (steady.timely standard countable.frames) steady countable answers
  obtain ⟨display, draws, -⟩ := Canvas.draw_ok sized.wellFormed pictures.wellFormed addressable
    (pictures.fits sized) drawable
  obtain ⟨ticked, stopwatch, gives, -⟩ := ticks (.ok ()) display draws
  exact ⟨ticked, _, _, gives⟩

theorem tick_overflows [Clockwork] (standard : Clockwork.Standard)
    (sized : rig.display.SizedFor current.screen pipeline.scale)
    (beyond : ¬ rig.display.backing.Addressable) (steady : pipeline.Steady)
    (within : pipeline.Within count) (small : count + 1 < 2 ^ 32)
    (answers : pipeline.Answers current rig status addr machine) :
    (pipeline.tick (.loaded current)).Faults rig .overflow := by
  have countable := within.countable small
  have timely := steady.timely standard countable.frames
  refine tick_faults timely steady countable answers fun _ pictures => ?_
  exact Canvas.draw_overflow sized.wellFormed pictures.wellFormed beyond (pictures.fits sized)

end Pipeline

/-! ## §2 A tick after a load -/

namespace Lifecycle

/-- A bench core whose screen lies in memory answers a tick that follows an accepted load. -/
theorem answers_of_load {lifecycle : Lifecycle} {image : Bytes} {scale : UInt32}
    {rig : Rig Bench Canvas} {given : Screen} {current : LoadedRom} {pipeline : Pipeline}
    {outcome : Outcome Bench Canvas (Except Error Screen × Lifecycle)}
    (completes : (lifecycle.load image scale).run rig = .ok outcome)
    (accepted : outcome.value = (.ok given, .loaded current))
    (area : pixelCount rig.machine.state.screen.width rig.machine.state.screen.height ≤ 2 ^ 32)
    (countable : rig.machine.state.frames.toNat + 1 < 2 ^ 64)
    (inside : rig.machine.state.screenPastEnd = false) :
    ∃ asked, pipeline.Answers current outcome.rig rig.machine.state.stepStatus
      rig.machine.state.heapSize asked := by
  -- A load changes nothing of the setup, so the picture is where it was before.
  have setup := ((lifecycle.load_tends image scale).of_run completes).sameSetup
    fun _ upkeep => upkeep
  obtain ⟨found, same, running⟩ := running_of_load setup.screen.symm completes accepted
  cases same
  rw [← setup.screen] at area
  rw [← setup.frames] at countable
  rw [← setup.stepStatus, ← setup.heapSize]
  obtain ⟨asked, answers, -⟩ := Emulator.answers_of_running running rfl area countable
    (setup.screenPastEnd.trans inside)
  exact ⟨asked, answers⟩

/-- A load that is accepted leaves both axes of the enlarged screen in the words.  The tick that
follows it draws its picture if every row of the enlarged screen begins at a word as well, and if
one does not then a fault ends it. -/
theorem tick_after_load [Clockwork] (standard : Clockwork.Standard) {σ : Type} [NativeCore σ]
    {lifecycle : Lifecycle} {image : Bytes} (pipeline : Pipeline) {count : Nat} {rig : Rig σ Canvas}
    {given : Screen} {current : LoadedRom}
    {outcome : Outcome σ Canvas (Except Error Screen × Lifecycle)} {status : Int32} {addr : UInt32}
    {machine : Machine σ} (completes : (lifecycle.load image pipeline.scale).run rig = .ok outcome)
    (accepted : outcome.value = (.ok given, .loaded current))
    (drawable : outcome.rig.display.draws.toNat + 1 < 2 ^ 64) (steady : pipeline.Steady)
    (within : pipeline.Within count) (small : count + 1 < 2 ^ 32)
    (answers : pipeline.Answers current outcome.rig status addr machine) :
    given.width.toNat * pipeline.scale.toNat < 2 ^ 32 ∧
      given.height.toNat * pipeline.scale.toNat < 2 ^ 32 ∧
      ((∀ row < given.height.toNat * pipeline.scale.toNat,
          row * (given.width.toNat * pipeline.scale.toNat) < 2 ^ 32) →
        ∃ ticked after calls,
          (pipeline.tick (.loaded current)).Gives outcome.rig (.ok true, ticked) after calls) ∧
      ((∃ row < given.height.toNat * pipeline.scale.toNat,
          2 ^ 32 ≤ row * (given.width.toNat * pipeline.scale.toNat)) →
        (pipeline.tick (.loaded current)).Faults outcome.rig .overflow) := by
  obtain ⟨rfl, sized⟩ := sized_of_load completes accepted
  rw [← sized.fits.width, ← sized.fits.height]
  refine ⟨UInt32.toNat_lt _, UInt32.toNat_lt _, fun addressable => ?_, fun beyond => ?_⟩
  · exact Pipeline.tick_draws standard sized addressable drawable steady within small answers
  · apply Pipeline.tick_overflows standard sized _ steady within small answers
    simpa [Frame.Addressable] using beyond

/-- A screen of one point and a canvas without a limit. -/
def pointRig : Rig Bench Canvas :=
  Emulator.freshRig { heapSize := 64, screen := ⟨1, 1⟩ } .rgba (0xFFFFFFFF, 0xFFFFFFFF) {}

/-- What an accepted load of the screen of one point leaves behind. -/
theorem point_of_accepted (pipeline : Pipeline)
    (accepted : ((empty.load #[7] pipeline.scale).run pointRig).toOption.any
      fun outcome => outcome.value.1 = .ok ⟨1, 1⟩) :
    ∃ (outcome : Outcome Bench Canvas (Except Error Screen × Lifecycle)) (current : LoadedRom),
      (empty.load #[7] pipeline.scale).run pointRig = .ok outcome ∧
      outcome.value = (.ok ⟨1, 1⟩, .loaded current) ∧ outcome.rig.display.draws = 0 ∧
      ∃ asked, pipeline.Answers current outcome.rig 0 64 asked := by
  obtain ⟨outcome, completes, accepted⟩ := Checked.exists_of_any accepted
  rcases load_value completes with ⟨cause, value⟩ | ⟨current, value⟩
  · rw [value] at accepted
    cases accepted
  · have screen : current.screen = ⟨1, 1⟩ := by
      rw [value] at accepted
      exact Except.ok.inj accepted
    rw [screen] at value
    -- A load does not draw.
    have tended := ((empty.load_tends #[7] pipeline.scale).of_run completes).tended
    refine ⟨outcome, current, completes, value, tended.draws, ?_⟩
    exact answers_of_load completes value (by decide) (by decide) rfl

/-- A screen of one point is drawn, enlarged to four points. -/
theorem tick_after_load_of_point :
    ∃ (outcome : Outcome Bench Canvas (Except Error Screen × Lifecycle)) (current : LoadedRom),
      (empty.load #[7] 2).run pointRig = .ok outcome ∧
      outcome.value = (.ok ⟨1, 1⟩, .loaded current) ∧
      ∃ ticked after calls, (Pipeline.tick { scale := 2, stepMode := .vsync }
        (.loaded current)).Gives outcome.rig (.ok true, ticked) after calls := by
  obtain ⟨outcome, current, completes, accepted, draws, asked, answers⟩ :=
    point_of_accepted { scale := 2, stepMode := .vsync } (by decide +kernel)
  have drawable : outcome.rig.display.draws.toNat + 1 < 2 ^ 64 := by
    rw [draws]
    decide
  obtain ⟨-, -, draws_picture, -⟩ := tick_after_load Platform.clockwork_standard
    { scale := 2, stepMode := .vsync } completes accepted drawable (Pipeline.steady_new 2 .vsync)
    (Pipeline.within_new 2 .vsync) (by decide) answers
  dsimp only at completes
  exact ⟨outcome, current, completes, accepted, draws_picture (by decide)⟩

/-- A screen of one point that is enlarged by 65537 is accepted, and its axes are words.  The last
row of the canvas begins behind the words, and the tick ends there. -/
theorem tick_overflows_at_point :
    ∃ (outcome : Outcome Bench Canvas (Except Error Screen × Lifecycle)) (current : LoadedRom),
      (empty.load #[7] 65537).run pointRig = .ok outcome ∧
      outcome.value = (.ok ⟨1, 1⟩, .loaded current) ∧
      (∃ asked, Pipeline.Answers { scale := 65537, stepMode := .vsync } current outcome.rig 0 64
        asked) ∧
      (Pipeline.tick { scale := 65537, stepMode := .vsync } (.loaded current)).Faults
        outcome.rig .overflow := by
  obtain ⟨outcome, current, completes, accepted, -, asked, answers⟩ :=
    point_of_accepted { scale := 65537, stepMode := .vsync } (by decide +kernel)
  obtain ⟨same, sized⟩ := sized_of_load completes accepted
  -- The last of the 65537 rows begins at 65536 times 65537, which is beyond the words.
  have beyond : ¬ outcome.rig.display.backing.Addressable := by
    intro addressable
    have last := addressable 65536
    rw [sized.fits.width, sized.fits.height] at last
    exact absurd (last (by decide)) (by decide)
  rw [← same] at sized
  dsimp only at completes
  exact ⟨outcome, current, completes, accepted, ⟨asked, answers⟩,
    Pipeline.tick_overflows Platform.clockwork_standard sized beyond
      (Pipeline.steady_new 65537 .vsync) (Pipeline.within_new 65537 .vsync) (by decide) answers⟩

end Lifecycle

end Handheld
