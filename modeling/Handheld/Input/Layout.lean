import Handheld.Input.Button
import Handheld.Input.Key

/-!
# The Keyboard Layout

Eight keys play the eight buttons of the handheld, one each.  What any other key does is a
matter of policy: nothing, or the A button.
-/

namespace Handheld

/-- What a key without a button does. -/
inductive UnmappedKeys
  | ignore
  | primaryButton
deriving DecidableEq, Repr

def UnmappedKeys.name : UnmappedKeys → String
  | .ignore => "Ignore"
  | .primaryButton => "PrimaryButton"

/-- The button that the layout gives to a key. -/
def Key.button? : Key → Option Button
  | .arrowUp => some .dpadUp
  | .arrowDown => some .dpadDown
  | .arrowLeft => some .dpadLeft
  | .arrowRight => some .dpadRight
  | .enter => some .start
  | .backspace => some .select
  | .space => some .a
  | .letter 'B' => some .b
  | _ => none

/-- The button that a key without one plays. -/
def UnmappedKeys.button? : UnmappedKeys → Option Button
  | .ignore => none
  | .primaryButton => some .a

/-- The button that a key plays under a policy. -/
def UnmappedKeys.resolve (policy : UnmappedKeys) (key : Key) : Option Button :=
  key.button? <|> policy.button?

end Handheld
