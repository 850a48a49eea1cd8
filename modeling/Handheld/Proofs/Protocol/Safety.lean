import Handheld.Proofs.Protocol.Abiding

/-!
# Protocol Safety

No session, whatever its operations and whatever the core and the surface answer, makes a native
call that the protocol does not allow.
-/

namespace Handheld

namespace Act

variable {σ τ α : Type}

/-- An act that starts with nothing in the controller's hands makes only calls that the
protocol allows. -/
theorem Abides.disciplined {act : Act σ τ α} {after : α → Phase} (abides : act.Abides .idle after)
    (rig : Rig σ τ) : Disciplined (act.journal rig).calls := by
  obtain ⟨phase, steps⟩ := abides.steps rig
  exact Phase.disciplined_of_steps steps

end Act

namespace Emulator

variable {σ τ : Type} [NativeCore σ] [Surface τ]

theorem session_abides [Clockwork] (options : EmulatorOptions) (operations : List Operation) :
    (session options operations : Act σ τ _).Abides .idle fun _ => .idle := by
  refine ((new options).performAll_abides operations).bind fun performed => ?_
  exact performed.2.shutDown_abides.bind fun _ => Act.abides_pure rfl

/-- The native calls of a session keep to the protocol, whether or not the controller comes to
its end, and up to the fault if one cuts the session short. -/
theorem session_disciplined [Clockwork] (options : EmulatorOptions) (operations : List Operation)
    (rig : Rig σ τ) :
    Disciplined (((new options).performAll operations).journal rig).calls ∧
      Disciplined ((session options operations).journal rig).calls :=
  ⟨((new options).performAll_abides operations).disciplined rig,
    (session_abides options operations).disciplined rig⟩

end Emulator

end Handheld
