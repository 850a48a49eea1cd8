import Handheld.Guest.Export
import Handheld.Instant

/-!
# The Platform

The libraries under rehearsals and under the program: clocks that are words of 128 bits, and a
sandbox with its accounts of what has gone wrong.  Nothing but runs on fixed inputs uses them;
a result about all runs is one about every platform.
-/

namespace Handheld.Platform

instance clockwork : Clockwork where
  bound := UInt64.size * UInt64.size
  ofHertz rate := (Checked.divSize Period.second rate).map Period.mk
  refresh := ⟨Period.second / 60⟩
  text clock := "Instant(Duration \x7b femtos: " ++ toString clock.femtos ++ " \x7d)"
  ofHertz_sixty := rfl
  refresh_pos := by decide

theorem clockwork_standard : Clockwork.Standard where
  bound := Nat.le_refl _
  ofHertz rate nonzero := by
    show (Checked.divSize Period.second rate).map Period.mk = _
    rw [Checked.divSize, if_neg nonzero]
    rfl

/-- What a trap says after the place where it has come up. -/
def trapCause : Trap → String
  | .outOfBounds => "out of bounds memory access"
  | .unknownImport name => "unknown import: " ++ name ++ " has not been defined"

instance sandbox : Sandbox where
  compileText path := "no core can be compiled from " ++ path
  trapText trap := "error while executing at wasm backtrace: " ++ trapCause trap
  lookupText name found _ :=
    match found with
    | some (.function _) => "failed to convert function " ++ name ++ " to given type"
    | _ => "failed to find function export " ++ name

end Handheld.Platform
