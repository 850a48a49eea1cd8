import Handheld.Proofs.Session.Loading
import Handheld.Proofs.Session.Moves
import Handheld.Proofs.Session.Operation
import Handheld.Proofs.Session.Tick

/-!
# Operations That Run No Frame

Of all that can be done with a controller only a tick of a running rom makes a step.
`Emulator.upkept_of_perform` says once, for every core and every surface, what the other operations
leave as it was.  A rom that runs after one of them has been loaded by it, or has been running
before and at most a button has been set.
-/

namespace Handheld.Emulator

open Act

variable [Clockwork] {σ τ : Type} [NativeCore σ] [Surface τ] {emulator next : Emulator}
  {rig after : Rig σ τ} {image : Bytes}

/-- What an operation does that makes no step. -/
structure Upkept (emulator next : Emulator) (rig after : Rig σ τ) : Prop where
  moves : ∃ made, rig.Moves Request.IsUpkeep SurfaceRequest.IsResize made after
  scale : next.pipeline.scale = emulator.pipeline.scale
  steady : next.pipeline.Steady
  statistics : next.pipeline.statistics = emulator.pipeline.statistics
  running : ∀ current, next.lifecycle = .loaded current →
    (∃ image loading,
        (emulator.lifecycle.load image emulator.pipeline.scale).run rig = .ok loading ∧
        loading.value = (.ok current.screen, .loaded current) ∧ loading.rig = after) ∨
      (emulator.lifecycle = .loaded current ∧
        ∃ made, rig.Moves Request.IsButton (fun _ => False) made after)

/-- A load replaces the running rom or leaves none. -/
theorem upkept_of_loadRom (steady : emulator.pipeline.Steady)
    {outcome : Outcome σ τ (Except Error Screen × Emulator)}
    (run : (emulator.loadRom image).run rig = .ok outcome) :
    Upkept emulator outcome.value.2 rig outcome.rig := by
  obtain ⟨loading, hload, hrig, ended⟩ := of_loadRom run
  have moves := (emulator.lifecycle.load_tends image emulator.pipeline.scale).of_run hload
  rw [hrig]
  rcases ended with ⟨cause, -, hvalue⟩ | ⟨current, fresh, loaded, resets, hvalue⟩
  · -- No rom is running, and the pipeline is as before.
    rw [hvalue]
    exact ⟨⟨_, moves⟩, rfl, steady, rfl, by simp⟩
  · -- The reset throws frames away, but it keeps the statistics and the clock.
    obtain ⟨fresh_steady, factor, statistics⟩ := steady.reset resets
    rw [hvalue]
    refine ⟨⟨_, moves⟩, factor, fresh_steady, statistics, ?_⟩
    rintro _ ⟨⟩
    exact .inl ⟨image, loading, hload, loaded, rfl⟩

/-- A key event sets a button at most. -/
theorem upkept_of_buttons (steady : emulator.pipeline.Steady) {made : List Entry}
    (moves : rig.Moves Request.IsButton (fun _ => False) made after) :
    Upkept emulator emulator rig after where
  moves := ⟨made, moves.mono (fun _ button => button.isUpkeep) fun _ none => none.elim⟩
  scale := rfl
  steady := steady
  statistics := rfl
  running _ loaded := .inr ⟨loaded, made, moves⟩

/-- Every operation but a tick of a running rom makes no step and counts no frame. -/
theorem upkept_of_perform (steady : emulator.pipeline.Steady) {operation : Operation}
    (idle : operation = .tick → emulator.lifecycle = .empty)
    {outcome : Outcome σ τ (Except Error operation.Answer × Emulator)}
    (run : (emulator.perform operation).run rig = .ok outcome) :
    Upkept emulator outcome.value.2 rig outcome.rig ∧
      Deed.isFrame ⟨operation, outcome.value.1⟩ = false := by
  cases operation with
  | loadRom image => exact ⟨upkept_of_loadRom steady run, rfl⟩
  | unload =>
    obtain ⟨unloading, hunload, rfl⟩ := run_map_eq_ok_iff.1 run
    have moves : rig.Moves Request.IsUpkeep SurfaceRequest.IsResize _ unloading.rig :=
      emulator.lifecycle.unload_tends.of_run hunload
    refine ⟨⟨⟨_, moves⟩, rfl, steady, rfl, ?_⟩, rfl⟩
    intro current loaded
    -- An unload leaves no rom behind, even if it has failed.
    have empty := Lifecycle.unload_value hunload
    rw [show unloading.value.2 = .loaded current from loaded] at empty
    cases empty
  | tick =>
    obtain ⟨lifecycle, pipeline, unmappedKeys⟩ := emulator
    obtain rfl : lifecycle = .empty := idle rfl
    obtain rfl := Except.ok.inj run
    exact ⟨upkept_of_buttons steady (.refl rig), rfl⟩
  | press event | release event =>
    obtain ⟨forwarding, hforward, rfl⟩ := run_map_eq_ok_iff.1 run
    have moves := (UnmappedKeys.forward_moves _ _ _ _).of_run hforward
    exact ⟨upkept_of_buttons steady moves, rfl⟩
  | key event =>
    obtain ⟨sending, hsend, rfl⟩ := run_map_eq_ok_iff.1 run
    exact ⟨upkept_of_buttons steady ((emulator.sendKey_moves event).of_run hsend), rfl⟩

end Handheld.Emulator
