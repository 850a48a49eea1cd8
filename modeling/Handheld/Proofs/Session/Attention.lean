import Handheld.Proofs.Session.Allocation

/-!
# The Image Is There When an Instance Is Created

A core reads the rom from native memory when it is asked to create an instance.  The journal of a
load does not show what is in memory at that moment.  What shows it is a core that looks:
`NativeCore.attentive` creates an instance only from a block that holds the image, and does
something else, whatever that may be, if it finds other bytes there.  A load cannot tell such a core
from one that does not look (`Lifecycle.load_attentive`).
-/

namespace Handheld

variable {σ τ : Type}

/-- The core looks for the image before it creates an instance.  Where it does not find it, it does
something else; all else it does as before. -/
@[reducible] def NativeCore.attentive (core : NativeCore σ) (image : Bytes)
    (stray : (rom len : UInt32) → Machine σ → Faulty (Reply Error (Option Handle) (Machine σ))) :
    NativeCore σ where
  answer
    | .create rom len, machine =>
      if Memory.view machine.memory rom len.toNat = .ok image then
        core.answer (.create rom len) machine
      else stray rom len machine
    | .malloc len, machine => core.answer (.malloc len) machine
    | .free addr, machine => core.answer (.free addr) machine
    | .destroy handle, machine => core.answer (.destroy handle) machine
    | .step handle mode, machine => core.answer (.step handle mode) machine
    | .screenPointer handle, machine => core.answer (.screenPointer handle) machine
    | .screenWidth handle, machine => core.answer (.screenWidth handle) machine
    | .screenHeight handle, machine => core.answer (.screenHeight handle) machine
    | .setButtonState handle button state, machine =>
      core.answer (.setButtonState handle button state) machine

namespace Lifecycle

open Act

variable (core : NativeCore σ) (image : Bytes)
  (stray : (rom len : UInt32) → Machine σ → Faulty (Reply Error (Option Handle) (Machine σ)))

theorem ask_create_attentive {rig : Rig σ τ} {rom len : UInt32}
    (there : Memory.view rig.machine.memory rom len.toNat = .ok image) :
    (@ask σ τ (core.attentive image stray) (.create rom len)).run rig =
      (@ask σ τ core (.create rom len)).run rig := by
  have same : (core.attentive image stray).answer (.create rom len) rig.machine =
      core.answer (.create rom len) rig.machine := if_pos there
  simp only [ask, same]

theorem unload_attentive (lifecycle : Lifecycle) :
    @unload σ τ (core.attentive image stray) lifecycle = @unload σ τ core lifecycle := by
  cases lifecycle <;> rfl

variable [Surface τ]

theorem boot_attentive {rig : Rig σ τ} {rom : Region} (scale : UInt32) (bytes : Nat)
    (there : Memory.view rig.machine.memory rom.addr rom.len.toNat = .ok image) :
    (@boot σ τ (core.attentive image stray) _ rom scale bytes).run rig =
      (@boot σ τ core _ rom scale bytes).run rig := by
  show (@ask σ τ (core.attentive image stray) (.create rom.addr rom.len) >>= _).run rig =
    (@ask σ τ core (.create rom.addr rom.len) >>= _).run rig
  rw [run_bind, run_bind, ask_create_attentive core image stray there]
  rfl

theorem launch_attentive (scale : UInt32) :
    @launch σ τ (core.attentive image stray) _ image scale = @launch σ τ core _ image scale := by
  ext rig
  unfold launch
  split
  · rfl
  · -- An allocation creates nothing.
    show (@Region.allocate σ τ core image >>= _).run rig =
      (@Region.allocate σ τ core image >>= _).run rig
    refine run_bind_congr fun value after calls gives => ?_
    cases value with
    | error cause => rfl
    | ok rom => exact boot_attentive core image stray scale image.size (Region.view_of_gives gives)

theorem load_attentive (lifecycle : Lifecycle) (scale : UInt32) :
    @load σ τ (core.attentive image stray) _ lifecycle image scale =
      @load σ τ core _ lifecycle image scale := by
  unfold load
  rw [unload_attentive, launch_attentive]

end Lifecycle

end Handheld
