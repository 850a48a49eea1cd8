import Handheld.Input.Layout
import Handheld.Proofs.Input.Code

/-!
# The Layout Read Backwards

The layout takes a key to a button.  Here it is read in the other direction: `Button.key` is the
key that plays a button, and `Button.keyCode` is the text that names this key.

Both directions are exact.  A button has one key (`Key.button?_eq_some_iff`), and that key has one
text (`Button.ofCode_eq_key_iff`), although other keys have several.  So `resolve_ofCode` can say
of every text what it plays.
-/

namespace Handheld

/-! ## §1 Buttons and their keys

The layout backwards: a button has one key, and the key plays this button only. -/

/-- The key that plays a button. -/
def Button.key : Button → Key
  | .dpadUp => .arrowUp
  | .dpadDown => .arrowDown
  | .dpadLeft => .arrowLeft
  | .dpadRight => .arrowRight
  | .start => .enter
  | .select => .backspace
  | .a => .space
  | .b => .letter 'B'

/-- The code that a keyboard reports for the key of a button. -/
def Button.keyCode : Button → String
  | .dpadUp => "ArrowUp"
  | .dpadDown => "ArrowDown"
  | .dpadLeft => "ArrowLeft"
  | .dpadRight => "ArrowRight"
  | .start => "Enter"
  | .select => "Backspace"
  | .a => "Space"
  | .b => "KeyB"

/-- No other key plays the button. -/
theorem Key.button?_eq_some_iff {key : Key} {button : Button} :
    key.button? = some button ↔ key = button.key := by
  constructor
  -- Eight of the keys are listed, and each of them plays one button.
  · intro plays
    unfold Key.button? at plays
    split at plays
    all_goals cases plays
    all_goals rfl
  · rintro rfl
    cases button <;> rfl

theorem Key.button?_eq_none_iff {key : Key} :
    key.button? = none ↔ ∀ button : Button, key ≠ button.key := by
  simp only [Option.eq_none_iff_forall_ne_some, ne_eq, button?_eq_some_iff]

namespace UnmappedKeys

@[simp] theorem resolve_ignore (key : Key) : ignore.resolve key = key.button? := by
  unfold resolve
  cases key.button? <;> rfl

/-- Without a policy for other keys a button has exactly one key. -/
theorem resolve_ignore_eq_some_iff {key : Key} {button : Button} :
    ignore.resolve key = some button ↔ key = button.key := by
  rw [resolve_ignore, Key.button?_eq_some_iff]

theorem resolve_of_button {key : Key} {button : Button} (plays : key.button? = some button)
    (policy : UnmappedKeys) : policy.resolve key = some button := by
  rw [resolve, plays]
  rfl

theorem resolve_of_no_button {key : Key} (plays : key.button? = none)
    (policy : UnmappedKeys) : policy.resolve key = policy.button? := by
  rw [resolve, plays]
  rfl

end UnmappedKeys

/-! ## §2 Keys and their texts

The keys of the buttons belong to no family with padding, so a text plays a button only if it is the
code of its key. -/

/-- Padding makes other texts for a digit or a function key only.  Any other key is named by its
own code and by nothing else. -/
theorem Key.eq_code_of_ofCode {text : String} {key : Key} (named : ofCode text = key)
    (known : key ≠ .unknown) (no_digit : ∀ value, key ≠ .digit value)
    (no_function : ∀ number, key ≠ .function number) : text = key.code := by
  subst named
  obtain ⟨code, spells⟩ := spells_of_ofCode known
  cases spells with
  | itself isCode => exact isCode.read.2.symm
  | digit pads single => exact absurd (ofCode_digit pads single) (no_digit _)
  | function pads counted => exact absurd (ofCode_function pads counted) (no_function _)

theorem Button.code_key (button : Button) : button.key.code = button.keyCode := by
  cases button <;> decide

/-- The key of a button is named by one text. -/
theorem Button.ofCode_eq_key_iff {text : String} {button : Button} :
    Key.ofCode text = button.key ↔ text = button.keyCode := by
  constructor
  -- The keys of the buttons belong to none of the families that padding is possible for.
  · intro named
    have plain : button.key ≠ .unknown ∧ (∀ value, button.key ≠ .digit value) ∧
        ∀ number, button.key ≠ .function number := by cases button <;> simp [Button.key]
    rw [← button.code_key]
    exact Key.eq_code_of_ofCode named plain.1 plain.2.1 plain.2.2
  · rintro rfl
    cases button <;> decide

/-! ## §3 What a text plays -/

namespace UnmappedKeys

/-- Eight texts play a button, one each, under either policy.  Every other text plays none if keys
without a button are ignored, and the A button if they are not. -/
theorem resolve_ofCode (text : String) :
    (∀ button, ignore.resolve (Key.ofCode text) = some button ↔ text = button.keyCode) ∧
    (ignore.resolve (Key.ofCode text) = none ↔ ∀ button : Button, text ≠ button.keyCode) ∧
    (∀ button, text = Button.keyCode button →
      primaryButton.resolve (Key.ofCode text) = some button) ∧
    ((∀ button : Button, text ≠ button.keyCode) →
      primaryButton.resolve (Key.ofCode text) = some .a) := by
  -- Both halves of the table, read off the key of the text and put in terms of the text.
  have mapped (button : Button) :
      (Key.ofCode text).button? = some button ↔ text = button.keyCode := by
    rw [Key.button?_eq_some_iff, Button.ofCode_eq_key_iff]
  have unmapped : (Key.ofCode text).button? = none ↔ ∀ button : Button, text ≠ button.keyCode := by
    simp only [Key.button?_eq_none_iff, ne_eq, Button.ofCode_eq_key_iff]
  refine ⟨fun button => ?_, ?_, fun button code => ?_, fun other => ?_⟩
  · rw [resolve_ignore, mapped]
  · rw [resolve_ignore, unmapped]
  · exact resolve_of_button ((mapped button).2 code) .primaryButton
  · exact resolve_of_no_button (unmapped.2 other) .primaryButton

/-- The B key plays its own button under the policy that gives the A button to others, and a padded
digit, which names a key as well, gets the A button. -/
theorem resolve_ofCode_of_letter_and_digit :
    primaryButton.resolve (Key.ofCode "KeyB") = some .b ∧
      Key.ofCode "Digit+07" = .digit 7 ∧ ignore.resolve (Key.ofCode "Digit+07") = none ∧
      primaryButton.resolve (Key.ofCode "Digit+07") = some .a := by
  have other : ∀ button : Button, "Digit+07" ≠ button.keyCode := by
    intro button
    cases button <;> decide
  have law := resolve_ofCode "Digit+07"
  exact ⟨(resolve_ofCode "KeyB").2.2.1 .b rfl, by decide, law.2.1.2 other, law.2.2.2 other⟩

end UnmappedKeys

end Handheld
