import Handheld.Input.Event
import Handheld.Input.Layout
import Handheld.Session.Act

/-!
# Input

Key events become button calls of the native core.  An event is passed on if it went to the
surface, an instance is running and its key plays a button; otherwise nothing happens.
-/

namespace Handheld

namespace UnmappedKeys

variable {σ τ : Type} [NativeCore σ]

/-- Sets the button that a key event plays to the given state.  The state is an argument of its
own and is not taken from the event, so that a caller decides what an event means. -/
def forward (policy : UnmappedKeys) (handle : Option Handle) (event : KeyEvent)
    (state : ButtonState) : Act σ τ (Except Error Unit) := do
  if event.target = .surface then
    match handle, policy.resolve event.key with
    | some handle, some button =>
      Act.note (.forwarded event.key state button)
      Act.ask (.setButtonState handle button state)
    | _, _ => return .ok ()
  else return .ok ()

end UnmappedKeys

end Handheld
