import Handheld.Session.Emulator

/-!
# The Frame Loop

The loop that drives an emulator from a host.  After every refresh of the display it handles
the events that wait, in the order of sending, and then ticks once.  So a rom is never loaded
in the middle of a frame.  A quit request ends the handling of events at once and with it the
loop; events behind it stay in the queue.

No failing operation ends the loop.  Only the host does: when the display has gone away, or
when waiting for a refresh fails.
-/

namespace Handheld

/-- The state of the loop between two refreshes of the display. -/
structure FrameLoop where
  events : EventQueue := {}
  /-- The refresh clock of the newest wake. -/
  clock : Instant := .start
  period : Period := by exact Handheld.Clockwork.refresh
  wakes : UInt64 := 0
  running : Bool := true
deriving Repr

namespace FrameLoop

variable {σ τ : Type}

/-! ## §1 Setting up -/

variable [Clockwork]

/-- A loop for a display with the given refresh rate in hertz. -/
def withRefreshRate (loop : FrameLoop) (rate : Nat) : Faulty FrameLoop := do
  return { loop with period := ← Clockwork.ofHertz rate }

/-- A new loop that gets its events from the host. -/
def register [Host τ] : Act σ τ (Except Error FrameLoop) := do
  return (← Act.registerEvents).map fun () => {}

/-! ## §2 Handling events -/

variable [NativeCore σ] [Host τ]

/-- Loads a rom for the user.  A failure is reported to the host, which may show it; of all the
events only a load does so, the others leave a diagnostic. -/
def loadRom (emulator : Emulator) (image : Bytes) : Act σ τ Emulator := do
  match ← emulator.loadRom image with
  | (.ok _, emulator) => return emulator
  | (.error error, emulator) =>
    Act.note (.loadFailed error)
    Act.reportError error
    return emulator

def handle (emulator : Emulator) : HostEvent → Act σ τ Emulator
  | .key event => do
    Act.noteError (← emulator.sendKey event) (.keyFailed event.key)
    return emulator
  | .loadRom image => loadRom emulator image
  | .unload => do
    let (result, emulator) ← emulator.unload
    Act.noteError result .unloadFailed
    return emulator
  | .quit => return emulator

/-- What handling the waiting events has led to. -/
structure Drained where
  emulator : Emulator
  rest : List HostEvent
  /-- A quit request has been met. -/
  quit : Bool

/-- Handles events up to the first quit request, the oldest first.  An event that fails does not
keep those behind it from being handled. -/
def drain (emulator : Emulator) : List HostEvent → Act σ τ Drained
  | [] => return ⟨emulator, [], false⟩
  | .quit :: rest => return ⟨emulator, rest, true⟩
  | event :: rest => do drain (← handle emulator event) rest

/-! ## §3 Waking -/

/-- Ticks once and tells the host how many frames there are.  A failure of the tick is only
reported, and the refresh clock moves on in any case. -/
def advance (loop : FrameLoop) (emulator : Emulator) : Act σ τ (FrameLoop × Emulator) := do
  let wakes ← Act.ofFaulty (Checked.next64 loop.wakes)
  let clock ← Act.ofFaulty (loop.clock.advance loop.period)
  let (result, emulator) ← emulator.tick
  Act.noteError result .tickFailed
  -- The count has not grown if the tick ended before it handed a frame on.
  Act.frameComplete emulator.statistics.frames
  return ({ loop with wakes, clock }, emulator)

/-- Handles the waiting events and then ticks once.  Gives false once a quit has been
requested; then there is no tick. -/
def wake (loop : FrameLoop) (emulator : Emulator) : Act σ τ (Bool × FrameLoop × Emulator) := do
  -- Waiting events are handled also by a loop that no longer runs.
  let drained ← drain emulator loop.events.pending
  let loop := { loop with events := ⟨drained.rest⟩, running := loop.running && !drained.quit }
  if loop.running then
    let (loop, emulator) ← loop.advance drained.emulator
    return (true, loop, emulator)
  else return (false, loop, drained.emulator)

/-! ## §4 Running -/

/-- How a run has ended. -/
inductive Ending
  /-- The display went away, or a quit was requested. -/
  | stopped
  | failed (cause : Error)
  /-- The run goes on: it was looked at before its end. -/
  | unfinished
deriving DecidableEq, Repr

/-- Ends a run and reports its statistics.  A rom that is running stays loaded: whoever owns the
emulator stops it. -/
def finish (loop : FrameLoop) (emulator : Emulator) :
    Act σ τ (Ending × FrameLoop × Emulator) := do
  Act.note (.stopped loop.wakes loop.clock)
  Act.note (.statistics emulator.statistics.text)
  return (.stopped, loop, emulator)

/-- Wakes on every refresh until the display goes away or a quit is requested, for at most
`fuel` refreshes. -/
def run (fuel : Nat) (loop : FrameLoop) (emulator : Emulator) :
    Act σ τ (Ending × FrameLoop × Emulator) :=
  if loop.running then
    match fuel with
    | 0 => return (.unfinished, loop, emulator)
    | fuel + 1 => do
      let (answer, sent) ← Act.waitForRefresh
      -- Events are kept whatever the answer is.
      let loop := { loop with events := loop.events.sendAll sent }
      match answer with
      | .error cause => return (.failed (.surface cause), loop, emulator)
      | .ok false => loop.finish emulator
      | .ok true =>
        let (_, loop, emulator) ← loop.wake emulator
        run fuel loop emulator
  else loop.finish emulator

end FrameLoop

end Handheld
