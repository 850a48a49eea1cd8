import Handheld.Session.Emulator

/-!
# Sessions

What the user's side does with a controller is a list of operations.  `Emulator.performAll`
performs them one after another, whatever they answer, and keeps a record of the answers.
-/

namespace Handheld

/-- What the user's side can ask of a controller. -/
inductive Operation
  | loadRom (image : Bytes)
  | unload
  | tick
  | press (event : KeyEvent)
  | release (event : KeyEvent)
  | key (event : KeyEvent)
deriving DecidableEq, Repr

/-- What an operation gives if it succeeds. -/
@[reducible] def Operation.Answer : Operation → Type
  | .loadRom _ => Screen
  | .tick => Bool
  | .unload | .press _ | .release _ | .key _ => Unit

/-- An operation that has been performed, with its answer. -/
structure Deed where
  operation : Operation
  answer : Except Error operation.Answer

/-- The operation is a tick that has run a frame and drawn it. -/
def Deed.isFrame : Deed → Bool
  | ⟨.tick, .ok true⟩ => true
  | _ => false

/-- The operation is a load that has succeeded. -/
def Deed.isLoad : Deed → Bool
  | ⟨.loadRom _, .ok _⟩ => true
  | _ => false

namespace Emulator

variable [Clockwork] {σ τ : Type} [NativeCore σ] [Surface τ]

/-- Performs an operation. -/
def perform (emulator : Emulator) :
    (operation : Operation) → Act σ τ (Except Error operation.Answer × Emulator)
  | .loadRom image => emulator.loadRom image
  | .unload => emulator.unload
  | .tick => emulator.tick
  | .press event => do return (← emulator.press event, emulator)
  | .release event => do return (← emulator.release event, emulator)
  | .key event => do return (← emulator.sendKey event, emulator)

/-- Performs operations one after another, whether or not one fails. -/
def performAll (emulator : Emulator) : List Operation → Act σ τ (List Deed × Emulator)
  | [] => return ([], emulator)
  | operation :: operations => do
    let (answer, emulator) ← emulator.perform operation
    let (deeds, emulator) ← emulator.performAll operations
    return (⟨operation, answer⟩ :: deeds, emulator)

/-- A whole session: a new controller, the operations, and the end of the controller. -/
def session (options : EmulatorOptions) (operations : List Operation) :
    Act σ τ (List Deed × Emulator) := do
  let (deeds, emulator) ← (new options).performAll operations
  emulator.shutDown
  return (deeds, emulator)

end Emulator

end Handheld
