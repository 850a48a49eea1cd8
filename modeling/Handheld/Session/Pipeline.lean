import Handheld.Queue.Handoff
import Handheld.Session.Lifecycle
import Handheld.Session.Statistics

/-!
# The Render Pipeline

The pipeline steps the core one frame at a time and carries each picture out to the surface:

1. step the core, and count a fault if the status is not zero;
2. ask where the picture is;
3. prepare the staging frame: the encoding that the surface wants now, the size of the screen;
4. copy the picture out of native memory into the staging frame;
5. stamp a copy with the frame clock, which moves on by one period, and hand it on;
6. draw what has been handed on.

A step that fails ends the tick.  What the steps before it have done stays done.
-/

namespace Handheld

/-- The state between the native core and the surface. -/
structure Pipeline where
  scale : UInt32
  stepMode : StepMode
  handoff : Handoff := .new 1
  /-- The frame that pictures are copied into. -/
  staging : Frame := .empty .rgba
  clock : Instant := .start
  period : Period := by exact Handheld.Clockwork.refresh
  statistics : Statistics := {}

namespace Pipeline

variable {σ τ : Type}

/-- The encoding that the surface wanted last. -/
def encoding (pipeline : Pipeline) : PixelEncoding := pipeline.handoff.encoding

/-- Throws away what waits to be shown and prepares for a screen of another size.  The clock
and the statistics go on: a frame of the new rom is newer than every frame of the old one. -/
def reset (pipeline : Pipeline) (width height : UInt32) : Faulty Pipeline := do
  let staging ← Frame.new width height pipeline.encoding
  return { pipeline with handoff := (Handoff.new 1).request pipeline.encoding, staging }

/-! ## §1 Stepping -/

def startTimer (pipeline : Pipeline) (now : Nat) : Pipeline :=
  { pipeline with statistics.stepTime := pipeline.statistics.stepTime.start now }

def stopTimer (pipeline : Pipeline) (now : Nat) : Faulty Pipeline := do
  let stepTime ← pipeline.statistics.stepTime.stop now
  return { pipeline with statistics.stepTime := stepTime }

/-- Counts a step that ended with a status other than zero.  Such a step is no failure of the
tick, which goes on and shows the picture. -/
def countFault (pipeline : Pipeline) (status : Int32) : Act σ τ Pipeline := do
  if status = 0 then return pipeline
  else
    Act.note (.stepFault status)
    let faults ← Act.ofFaulty (Checked.next64 pipeline.statistics.faults)
    return { pipeline with statistics.faults := faults }

/-- Steps the core.  The time it takes is counted only if the call succeeds, and it is counted
whatever the status of the step is. -/
def step [NativeCore σ] (pipeline : Pipeline) (handle : Handle) :
    Act σ τ (Except Error Unit × Pipeline) := do
  -- The timer starts even if the call then fails; the next start takes its place.
  let pipeline := pipeline.startTimer (← Act.readStopwatch)
  match ← Act.ask (.step handle pipeline.stepMode) with
  | .error error => return (.error error, pipeline)
  | .ok status =>
    let pipeline ← Act.ofFaulty (pipeline.stopTimer (← Act.readStopwatch))
    return (.ok (), ← pipeline.countFault status)

/-! ## §2 Fetching the picture -/

/-- Prepares the staging frame for a picture of the screen, in the encoding that the surface
wants now.  Pixels of the picture before may still stand in it; `fetch` overwrites all of
them or refuses the picture. -/
def prepare (pipeline : Pipeline) (screen : Screen) (encoding : PixelEncoding) :
    Faulty Pipeline := do
  let staging ← { pipeline.staging with encoding }.resize screen.width screen.height
  return { pipeline with handoff := pipeline.handoff.request encoding, staging }

/-- Why a picture of `bytes` bytes is refused. -/
def misfit (screen : Screen) (bytes : Nat) : Error :=
  .native ("screen buffer of " ++ toString bytes ++ " bytes doesn't fit a "
    ++ toString screen.width ++ "x" ++ toString screen.height ++ " frame")

/-- Copies the picture at `addr` into the staging frame.  The staging frame is prepared before
memory is looked at, so it has the new size and encoding also if the picture does not lie
inside of memory. -/
def fetch [Surface τ] (pipeline : Pipeline) (screen : Screen) (addr : UInt32) :
    Act σ τ (Except Error Unit × Pipeline) := do
  let pipeline ← Act.ofFaulty (pipeline.prepare screen (← Act.encoding))
  match ← Region.viewMemory addr screen.frameBytes with
  | .error error => return (.error error, pipeline)
  | .ok bytes =>
    let (copied, staging) := pipeline.staging.copyBytes bytes
    let pipeline := { pipeline with staging }
    if copied then return (.ok (), pipeline)
    else return (.error (misfit screen bytes.size), pipeline)

/-! ## §3 Presenting -/

/-- Stamps a copy of the staging frame with the next reading of the frame clock, hands it on and
counts it. -/
def commit [Clockwork] (pipeline : Pipeline) : Act σ τ Pipeline := do
  let clock ← Act.ofFaulty (pipeline.clock.advance pipeline.period)
  let handoff ← Act.ofNoted (pipeline.handoff.add clock pipeline.staging)
  let frames ← Act.ofFaulty (Checked.next64 pipeline.statistics.frames)
  return { pipeline with clock, handoff, statistics.frames := frames }

/-- Draws every frame that has been handed on and is not stale, until a draw fails.  The frame
whose draw fails has left the hand-off; those behind it stay there for the next tick. -/
def drawPending [Surface τ] (scale : UInt32) (handoff : Handoff) :
    Act σ τ (Except Error Unit × Handoff) :=
  match _found : handoff.next.value with
  | (none, rest) => do
    Act.ofNoted ⟨(), handoff.next.notes⟩
    return (.ok (), rest)
  | (some (_, frame), rest) => do
    Act.ofNoted ⟨(), handoff.next.notes⟩
    match ← Act.present (.draw frame scale) with
    | .ok () => drawPending scale rest
    | .error error => return (.error error, rest)
termination_by handoff.queue.items.length
decreasing_by exact Handoff.length_next_lt _found

/-- Drawing ends when the hand-off has nothing to give. -/
theorem drawPending_of_none [Surface τ] {scale : UInt32} {handoff rest : Handoff}
    (found : handoff.next.value = (none, rest)) :
    (drawPending scale handoff : Act σ τ (Except Error Unit × Handoff)) = do
      Act.ofNoted ⟨(), handoff.next.notes⟩
      return (.ok (), rest) := by
  rw [drawPending]
  split
  · next _ other =>
    rw [found] at other
    simp only [Prod.mk.injEq, true_and] at other
    rw [other]
  · next other =>
    rw [found] at other
    simp at other

/-- A frame that the hand-off gives is drawn once, and drawing goes on if that succeeds. -/
theorem drawPending_of_some [Surface τ] {scale : UInt32} {handoff rest : Handoff}
    {clock : Instant} {frame : Frame}
    (found : handoff.next.value = (some (clock, frame), rest)) :
    (drawPending scale handoff : Act σ τ (Except Error Unit × Handoff)) = do
      Act.ofNoted ⟨(), handoff.next.notes⟩
      match ← Act.present (.draw frame scale) with
      | .ok () => drawPending scale rest
      | .error error => return (.error error, rest) := by
  rw [drawPending]
  split
  · next other =>
    rw [found] at other
    simp at other
  · next other =>
    rw [found] at other
    simp only [Prod.mk.injEq, Option.some.injEq] at other
    obtain ⟨⟨rfl, rfl⟩, rfl⟩ := other
    rfl

/-- Hands the picture in the staging frame on, and draws what the surface has not seen yet. -/
def publish [Clockwork] [Surface τ] (pipeline : Pipeline) :
    Act σ τ (Except Error Unit × Pipeline) := do
  let pipeline ← pipeline.commit
  -- A frame whose draw fails has been counted and is not drawn again.
  let (result, handoff) ← drawPending pipeline.scale pipeline.handoff
  return (result, { pipeline with handoff })

/-! ## §4 The tick -/

variable [Clockwork] [NativeCore σ] [Surface τ]

/-- Runs one frame of a rom and draws it.  The calls come in the order of the header, and the
error is that of the first of them that fails. -/
def tickLoaded (pipeline : Pipeline) (rom : LoadedRom) :
    Act σ τ (Except Error Unit × Pipeline) := do
  match ← pipeline.step rom.handle with
  | (.error error, pipeline) => return (.error error, pipeline)
  | (.ok (), pipeline) =>
    match ← Act.ask (.screenPointer rom.handle) with
    | .error error => return (.error error, pipeline)
    | .ok addr =>
      match ← pipeline.fetch rom.screen addr with
      | (.error error, pipeline) => return (.error error, pipeline)
      | (.ok (), pipeline) => pipeline.publish

/-- Runs one frame of the running rom and draws it.  Gives false, and does nothing, if no rom
is running. -/
def tick (pipeline : Pipeline) (lifecycle : Lifecycle) :
    Act σ τ (Except Error Bool × Pipeline) := do
  match lifecycle with
  | .empty => return (.ok false, pipeline)
  | .loaded rom =>
    let (result, pipeline) ← pipeline.tickLoaded rom
    return (result.map fun () => true, pipeline)

end Pipeline

end Handheld
