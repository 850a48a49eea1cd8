import Handheld.Input.Key

/-!
# Events

What the user asks of the controller, and the queue in which requests wait.  Any number of
senders may share the queue; it keeps one order over all of them, the order of sending.
-/

namespace Handheld

abbrev Bytes := Array UInt8

/-- Where a key event was delivered. -/
inductive InputTarget
  /-- The surface that shows the picture. -/
  | surface
  /-- Any other part of the window, such as a text field. -/
  | elsewhere
deriving DecidableEq, Repr

/-- A key went down or up. -/
structure KeyEvent where
  key : Key
  down : Bool
  target : InputTarget := .surface
deriving DecidableEq, Repr

/-- Something the user wants the controller to do. -/
inductive HostEvent
  | key (event : KeyEvent)
  /-- Run the rom with the given image. -/
  | loadRom (image : Bytes)
  | unload
  | quit
deriving DecidableEq, Repr

def InputTarget.name : InputTarget → String
  | .surface => "Surface"
  | .elsewhere => "Elsewhere"

/-- How an event is written in a listing. -/
def HostEvent.text : HostEvent → String
  | .key event =>
    "Key(KeyEvent \x7b key: " ++ event.key.name ++ ", state: " ++ toString event.down
      ++ ", target: " ++ event.target.name ++ " \x7d)"
  | .loadRom image => "LoadRom([" ++ ", ".intercalate (image.toList.map toString) ++ "])"
  | .unload => "Unload"
  | .quit => "Quit"

/-- Events that wait to be handled, the oldest first. -/
structure EventQueue where
  pending : List HostEvent := []
deriving DecidableEq, Repr

namespace EventQueue

/-- Adds an event behind all others. -/
def send (queue : EventQueue) (event : HostEvent) : EventQueue := ⟨queue.pending ++ [event]⟩

def sendAll (queue : EventQueue) (events : List HostEvent) : EventQueue :=
  ⟨queue.pending ++ events⟩

def receive (queue : EventQueue) : Option HostEvent × EventQueue :=
  match queue.pending with
  | [] => (none, queue)
  | event :: rest => (some event, ⟨rest⟩)

end EventQueue

end Handheld
