import Handheld.Proofs.Display.Canvas
import Handheld.Proofs.Session.Loading

/-!
# The Size of the Canvas

A load that succeeds has sized the canvas for the screen of the new rom, whatever the core is.
The last two steps of the load see to that: the check of the screen computes the size
(`Screen.of_checked`), and the canvas takes it (`Canvas.sized_of_resize`).
-/

namespace Handheld

/-! ## §1 The canvas

The canvas suits a screen if it has its enlarged size.  A draw keeps this, and a resize that is
granted brings it about. -/

namespace Canvas

/-- The canvas has exactly the size of the enlarged screen, and this is a size that it takes. -/
structure Suits (canvas : Canvas) (screen : Screen) (scale : UInt32) : Prop where
  fits : canvas.Fits screen.width screen.height scale
  accepted : canvas.Accepts canvas.backing.width canvas.backing.height

theorem Suits.of_sameShape {before after : Canvas} {screen : Screen} {scale : UInt32}
    (suits : before.Suits screen scale) (same : SameShape before after) :
    after.Suits screen scale := by
  refine ⟨suits.fits.of_sameShape same, ?_⟩
  have accepted := suits.accepted
  unfold Accepts at accepted ⊢
  rwa [same.width, same.height, same.limit]

/-- A screen that a canvas has been sized for has pixels. -/
theorem Suits.pixelCount_pos {canvas : Canvas} {screen : Screen} {scale : UInt32}
    (suits : canvas.Suits screen scale) : 0 < pixelCount screen.width screen.height := by
  have positive {axis enlarged : UInt32} (size : enlarged.toNat = axis.toNat * scale.toNat)
      (nonzero : enlarged ≠ 0) : 0 < axis.toNat := by
    apply Nat.pos_of_ne_zero
    intro zero
    rw [zero, Nat.zero_mul] at size
    exact nonzero (UInt32.toNat_inj.1 size)
  obtain ⟨fits, width_ne, height_ne, -, -⟩ := suits
  exact Nat.mul_pos (positive fits.width width_ne) (positive fits.height height_ne)

/-- The canvas has been sized for a screen. -/
structure SizedFor (canvas : Canvas) (screen : Screen) (scale : UInt32) : Prop
    extends Suits canvas screen scale where
  wellFormed : canvas.backing.WellFormed
  enlarged : scale ≠ 0

/-- A canvas that accepts the size for a screen has it from then on. -/
theorem sized_of_resize {canvas next : Canvas} {screen : Screen} {scale : UInt32}
    {size : UInt32 × UInt32} (found : screen.surfaceSize? scale = some size)
    (accepts : canvas.resize size.1 size.2 = .ok (.ok (), next)) : next.SizedFor screen scale := by
  obtain ⟨width_eq, height_eq, nonzero, -⟩ := Screen.of_surfaceSize? found
  rcases of_resize accepts with
    ⟨impossible, -⟩ | ⟨-, accepted, wellFormed, width, height, -, limit, -⟩
  · cases impossible
  -- The canvas now has the size that the check has computed, which is the exact one.
  · refine ⟨⟨⟨?_, ?_⟩, ?_⟩, wellFormed, ?_⟩
    · rw [width, width_eq]
    · rw [height, height_eq]
    · unfold Accepts at accepted ⊢
      rwa [width, height, limit]
    · -- A screen enlarged by zero would have no size.
      rintro rfl
      exact nonzero (UInt32.toNat_inj.1 width_eq)

end Canvas

/-! ## §2 Loads

From one step of a load to the next.  Before the last two steps nothing is known of the canvas, and
nothing needs to be. -/

section Loads

variable {σ : Type} [NativeCore σ] {image : Bytes} {scale : UInt32} {rig after : Rig σ Canvas}

/-- What is known of the canvas when a load has come so far. -/
def Milestone.Sizes (scale : UInt32) (canvas : Canvas) : Milestone → Prop
  | .fitting _ _ screen size => screen.surfaceSize? scale = some size
  | .finished current => canvas.SizedFor current.screen scale
  | .occupied _ | .halted _ | .vacant | .admitted | .measured _ | .given _ | .filled _
  | .created _ _ | .wide _ _ _ | .sized _ _ _ => True

/-- Before the check of the screen nothing is known. -/
theorem Milestone.sizes_of_early {milestone : Milestone} (early : milestone.stage < 10)
    (canvas : Canvas) : milestone.Sizes scale canvas := by
  cases milestone with
  | fitting | finished => simp [stage] at early
  | occupied | halted | vacant | admitted | measured | given | filled | created | wide | sized =>
    trivial

/-- The last two steps size the canvas. -/
theorem Milestone.Sizes.advance {milestone next : Milestone}
    {outcome : Outcome σ Canvas (Except Error Milestone)}
    (sizes : milestone.Sizes scale rig.display)
    (run : (milestone.advance image scale).run rig = .ok outcome)
    (succeeds : outcome.value = .ok next) : next.Sizes scale outcome.rig.display := by
  have later := stage_of_advance run succeeds
  cases milestone with
  -- Before the screen is known there is nothing to be said about sizes.
  | occupied | halted | vacant | admitted | measured | given | filled | created | wide =>
    apply sizes_of_early
    rw [later]
    simp [stage]
  | sized rom handle screen =>
    obtain ⟨inner, -, rfl⟩ := Act.run_map_eq_ok_iff.1 run
    cases hchecked : screen.checked scale inner.value with
    | error cause =>
      rw [hchecked] at succeeds
      cases succeeds
    | ok size =>
      rw [hchecked] at succeeds
      cases succeeds
      exact Screen.of_checked hchecked
  | fitting rom handle screen size =>
    obtain ⟨⟨given, reached, journal⟩, hpresent, rfl⟩ := Act.run_map_eq_ok_iff.1 run
    -- Only a surface that has granted the size lets the load go on.
    obtain ⟨answer, display, performed, rfl, rfl, -⟩ := Act.run_present_eq_ok_iff.1 hpresent
    cases answer with
    | error cause => cases succeeds
    | ok =>
      cases succeeds
      exact Canvas.sized_of_resize sizes performed
  | finished current =>
    obtain rfl := Except.ok.inj run
    cases succeeds
    exact sizes

theorem Progress.sizes {milestone last : Milestone} {calls : List Entry}
    (progress : Progress image scale milestone rig calls last after)
    (sizes : milestone.Sizes scale rig.display) : last.Sizes scale after.display := by
  induction progress with
  | refl => exact sizes
  | step run succeeds _ ih => exact ih (sizes.advance run succeeds)

/-- A load that succeeds has sized the canvas for the screen of the new rom. -/
theorem Lifecycle.sized_of_load {lifecycle : Lifecycle} {current : LoadedRom} {given : Screen}
    {outcome : Outcome σ Canvas (Except Error Screen × Lifecycle)}
    (completes : (lifecycle.load image scale).run rig = .ok outcome)
    (accepted : outcome.value = (.ok given, .loaded current)) :
    current.screen = given ∧ outcome.rig.display.SizedFor given scale := by
  obtain ⟨found, hscreen, hrest, progress⟩ := load_success completes accepted
  obtain rfl := Lifecycle.loaded.inj hrest
  have start : (Milestone.start lifecycle).Sizes scale rig.display := by
    cases lifecycle <;> trivial
  exact ⟨hscreen, hscreen ▸ progress.sizes start⟩

end Loads

end Handheld
