import Handheld.Session.Pipeline
import Handheld.Session.Translator

/-!
# The Emulator

The controller of one native core: the life of the running rom, the render pipeline and the
treatment of input, together with the operations that the user's side calls.
-/

namespace Handheld

/-- How an emulator is set up. -/
structure EmulatorOptions where
  scale : UInt32 := 4
  unmappedKeys : UnmappedKeys := .ignore
  stepMode : StepMode := .vsync
deriving DecidableEq, Repr

/-- The controller of one native core.  What runs and what is shown are kept apart: no operation
changes both, except that a load that succeeds also resets the pipeline. -/
structure Emulator where
  lifecycle : Lifecycle
  pipeline : Pipeline
  unmappedKeys : UnmappedKeys

namespace Emulator

variable [Clockwork] {σ τ : Type}

def new (options : EmulatorOptions) : Emulator where
  lifecycle := .empty
  pipeline := { scale := options.scale, stepMode := options.stepMode }
  unmappedKeys := options.unmappedKeys

def isLoaded (emulator : Emulator) : Bool := emulator.lifecycle.isLoaded

def statistics (emulator : Emulator) : Statistics := emulator.pipeline.statistics

def clock (emulator : Emulator) : Instant := emulator.pipeline.clock

variable [NativeCore σ]

def unload (emulator : Emulator) : Act σ τ (Except Error Unit × Emulator) := do
  let (result, lifecycle) ← emulator.lifecycle.unload
  return (result, { emulator with lifecycle })

def press (emulator : Emulator) (event : KeyEvent) : Act σ τ (Except Error Unit) :=
  emulator.unmappedKeys.forward emulator.lifecycle.handle? event .pressed

def release (emulator : Emulator) (event : KeyEvent) : Act σ τ (Except Error Unit) :=
  emulator.unmappedKeys.forward emulator.lifecycle.handle? event .released

/-- A key went down or up, as the event says. -/
def sendKey (emulator : Emulator) (event : KeyEvent) : Act σ τ (Except Error Unit) :=
  if event.down then emulator.press event else emulator.release event

/-- Stops the running rom for good, when the emulator itself goes away.  Nobody is left to hear
of a failure, so it is only reported. -/
def shutDown (emulator : Emulator) : Act σ τ Unit := do
  Act.noteError (← emulator.unload).1 .shutdownFailed

variable [Surface τ]

/-- Starts a rom in place of the one that is running, and sizes the surface for it.  The
pipeline is reset only if that succeeds, since otherwise there is no screen to prepare it
for. -/
def loadRom (emulator : Emulator) (image : Bytes) : Act σ τ (Except Error Screen × Emulator) := do
  match ← emulator.lifecycle.load image emulator.pipeline.scale with
  | (.error error, lifecycle) => return (.error error, { emulator with lifecycle })
  | (.ok screen, lifecycle) =>
    -- Frames of the old rom that still wait are never shown.
    let pipeline ← Act.ofFaulty (emulator.pipeline.reset screen.width screen.height)
    return (.ok screen, { emulator with lifecycle, pipeline })

/-- Runs one frame and draws it.  Gives false, and does nothing, if no rom is running. -/
def tick (emulator : Emulator) : Act σ τ (Except Error Bool × Emulator) := do
  let (result, pipeline) ← emulator.pipeline.tick emulator.lifecycle
  return (result, { emulator with pipeline })

/-- Ticks a number of times, whether or not a tick fails.  Gives the answers in order. -/
def tickTimes : (count : Nat) → Emulator → Act σ τ (List (Except Error Bool) × Emulator)
  | 0, emulator => return ([], emulator)
  | count + 1, emulator => do
    let (answer, emulator) ← emulator.tick
    let (answers, emulator) ← tickTimes count emulator
    return (answer :: answers, emulator)

end Emulator

end Handheld
