/-!
# Buttons

The eight buttons of the handheld and the two states a button can be in.  The native core
knows both by small numbers, their *ids*; diagnostics use their names.
-/

namespace Handheld

/-- The logical buttons of the handheld. -/
inductive Button
  | a
  | b
  | select
  | start
  | dpadRight
  | dpadLeft
  | dpadUp
  | dpadDown
deriving DecidableEq, Repr

/-- A button is held down or let go. -/
inductive ButtonState
  | pressed
  | released
deriving DecidableEq, Repr

namespace Button

/-- Every button, in the order of the ids. -/
def all : List Button :=
  [.a, .b, .select, .start, .dpadRight, .dpadLeft, .dpadUp, .dpadDown]

/-- The number that the native core knows the button by. -/
def id : Button → UInt8
  | .a => 0
  | .b => 1
  | .select => 2
  | .start => 3
  | .dpadRight => 4
  | .dpadLeft => 5
  | .dpadUp => 6
  | .dpadDown => 7

def name : Button → String
  | .a => "A"
  | .b => "B"
  | .select => "Select"
  | .start => "Start"
  | .dpadRight => "DpadRight"
  | .dpadLeft => "DpadLeft"
  | .dpadUp => "DpadUp"
  | .dpadDown => "DpadDown"

def ofName? (text : String) : Option Button := all.find? fun button => button.name == text

theorem mem_all (button : Button) : button ∈ all := by cases button <;> decide

theorem id_injective {x y : Button} (h : x.id = y.id) : x = y := by
  cases x <;> cases y <;> first | rfl | exact absurd h (by decide)

end Button

namespace ButtonState

/-- The number that the native core knows the state by. -/
def id : ButtonState → UInt8
  | .pressed => 0
  | .released => 1

def name : ButtonState → String
  | .pressed => "Pressed"
  | .released => "Released"

/-- The state of a key as the state of the button it plays: down is pressed. -/
def ofKeyDown (down : Bool) : ButtonState := if down then .pressed else .released

end ButtonState

end Handheld
