import Handheld.Core.Error
import Handheld.Input.Button

/-!
# Requests to a Native Core

A native core offers nine functions.  A `Request` is one call of such a function with its
arguments, and `Request.Answer` is the type of what the call gives back.

A running instance of the core is known by a *handle*.  The core signals failure with a null
handle, which no `Handle` can be: "no instance" is always `none` and never a magic value.

Requests and answers cross the boundary to the core as words of 32 bits.  `Request.operands`
are the words that go out, `Request.ofWord` reads the word that comes back.
-/

namespace Handheld

/-! ## §1 Handles and modes -/

/-- A running instance of the native core. -/
structure Handle where
  raw : UInt32
  raw_ne_zero : raw ≠ 0
deriving DecidableEq, Repr

/-- The handle in a word, unless the word is null. -/
def Handle.ofRaw? (raw : UInt32) : Option Handle :=
  if h : raw = 0 then none else some ⟨raw, h⟩

/-- How far one step of the core goes. -/
inductive StepMode
  /-- To the next vertical sync, that is, one whole frame. -/
  | vsync
  | instruction
deriving DecidableEq, Repr

/-- The number that the native core knows the mode by. -/
def StepMode.id : StepMode → UInt32
  | .vsync => 0
  | .instruction => 1

def StepMode.name : StepMode → String
  | .vsync => "VSync"
  | .instruction => "Instruction"

/-! ## §2 Functions -/

inductive NativeFunction
  | create
  | destroy
  | step
  | screenPointer
  | screenWidth
  | screenHeight
  | setButtonState
  | malloc
  | free
deriving DecidableEq, Repr

namespace NativeFunction

/-- Every function, in the order in which a core is searched for them. -/
def all : List NativeFunction :=
  [.create, .destroy, .step, .screenPointer, .screenWidth, .screenHeight, .setButtonState,
   .malloc, .free]

/-- The number of words that the function takes. -/
def arity : NativeFunction → Nat
  | .create | .step => 2
  | .setButtonState => 3
  | _ => 1

/-- The function gives back a word. -/
def returnsWord : NativeFunction → Bool
  | .destroy | .setButtonState | .free => false
  | _ => true

end NativeFunction

/-! ## §3 Requests -/

/-- One call of a function of the core. -/
inductive Request
  | malloc (len : UInt32)
  | free (addr : UInt32)
  /-- Start an instance that runs the rom of `len` bytes at `rom`. -/
  | create (rom len : UInt32)
  | destroy (handle : Handle)
  | step (handle : Handle) (mode : StepMode)
  | screenPointer (handle : Handle)
  | screenWidth (handle : Handle)
  | screenHeight (handle : Handle)
  | setButtonState (handle : Handle) (button : Button) (state : ButtonState)
deriving DecidableEq, Repr

namespace Request

/-- What a request is answered with: an address (null if there is no such block), an instance
(none if the rom was refused), a status code (zero for success), a word, or nothing. -/
@[reducible] def Answer : Request → Type
  | .malloc _ => UInt32
  | .free _ => Unit
  | .create _ _ => Option Handle
  | .destroy _ => Unit
  | .step _ _ => Int32
  | .screenPointer _ => UInt32
  | .screenWidth _ => UInt32
  | .screenHeight _ => UInt32
  | .setButtonState _ _ _ => Unit

def function : Request → NativeFunction
  | .malloc _ => .malloc
  | .free _ => .free
  | .create _ _ => .create
  | .destroy _ => .destroy
  | .step _ _ => .step
  | .screenPointer _ => .screenPointer
  | .screenWidth _ => .screenWidth
  | .screenHeight _ => .screenHeight
  | .setButtonState _ _ _ => .setButtonState

/-- The arguments of the call, as words. -/
def operands : Request → List UInt32
  | .malloc len => [len]
  | .free addr => [addr]
  | .create rom len => [rom, len]
  | .destroy handle => [handle.raw]
  | .step handle mode => [handle.raw, mode.id]
  | .screenPointer handle => [handle.raw]
  | .screenWidth handle => [handle.raw]
  | .screenHeight handle => [handle.raw]
  | .setButtonState handle button state =>
    [handle.raw, button.id.toUInt32, state.id.toUInt32]

/-- The answer in a word. -/
def ofWord : (request : Request) → UInt32 → request.Answer
  | .malloc _, word => word
  | .free _, _ => ()
  | .create _ _, word => Handle.ofRaw? word
  | .destroy _, _ => ()
  | .step _ _, word => word.toInt32
  | .screenPointer _, word => word
  | .screenWidth _, word => word
  | .screenHeight _, word => word
  | .setButtonState _ _ _, _ => ()

theorem length_operands (request : Request) :
    request.operands.length = request.function.arity := by
  cases request <;> rfl

end Request

end Handheld
