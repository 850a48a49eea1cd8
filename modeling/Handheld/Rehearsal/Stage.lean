import Handheld.Display.Canvas
import Handheld.Display.Host
import Handheld.Rehearsal.Platform
import Handheld.Rehearsal.Script

/-!
# The Stage

A host without a window, for rehearsals and runs without a display.  It draws on a canvas, and
its display refreshes a given number of times; before it answers a refresh it sends the events
that the timetable has for it.  Its answers can be scripted, and it can be made to ask for
another encoding than that of its canvas.

`BareStage` is the same stage as a host that leaves everything it may to the default.
-/

namespace Handheld

/-- A host that draws on a canvas. -/
structure Stage where
  canvas : Canvas
  /-- The encoding to ask for, if it is not that of the canvas. -/
  wanted : Option PixelEncoding := none
  resizes : Script HostError Unit := []
  draws : Script HostError Unit := []
  refreshes : Script HostError Bool := []
  /-- How often the display will have refreshed before it goes away. -/
  lifetime : Nat := 0
  refreshed : Nat := 0
  /-- The events to be sent, each with the number of its refresh. -/
  timetable : List (Nat × HostEvent) := []
  /-- A controller has registered for the events. -/
  registered : Bool := false

namespace Stage

/-- A display that starts anew and refreshes `lifetime` times. -/
def restart (stage : Stage) (lifetime : Nat) (timetable : List (Nat × HostEvent)) : Stage :=
  { stage with lifetime, timetable, refreshed := 0 }

/-- The events to be sent before the refresh with the given number. -/
def eventsAt (stage : Stage) (refresh : Nat) : List HostEvent :=
  (stage.timetable.filter fun entry => entry.1 == refresh).map Prod.snd

/-- Resizes the canvas, as the script has it. -/
def resize (width height : UInt32) (stage : Stage) : Faulty (Reply HostError Unit Stage) :=
  let (override, resizes) := stage.resizes.take
  let stage := { stage with resizes }
  match override with
  | .fail cause => return (.error cause, stage)
  | .answer () => return (.ok (), stage)
  | .pass => do
    let (answer, canvas) ← stage.canvas.resize width height
    return (answer, { stage with canvas })

/-- Draws on the canvas, as the script has it. -/
def draw (frame : Frame) (scale : UInt32) (stage : Stage) :
    Faulty (Reply HostError Unit Stage) :=
  let (override, draws) := stage.draws.take
  let stage := { stage with draws }
  match override with
  | .fail cause => return (.error cause, stage)
  | .answer () => return (.ok (), stage)
  | .pass => do
    let (answer, canvas) ← stage.canvas.draw frame scale
    return (answer, { stage with canvas })

/-- The encoding that the stage asks for. -/
def encoding (stage : Stage) : PixelEncoding := stage.wanted.getD stage.canvas.backing.encoding

/-- Refreshes the display, as the script has it.  A scripted refresh sends no events. -/
def waitForRefresh (stage : Stage) : Reply HostError Bool Stage × List HostEvent :=
  let (override, refreshes) := stage.refreshes.take
  let stage := { stage with refreshes }
  match override with
  | .fail cause => ((.error cause, stage), [])
  | .answer value => ((.ok value, stage), [])
  | .pass =>
    if stage.refreshed < stage.lifetime then
      let refreshed := stage.refreshed + 1
      ((.ok true, { stage with refreshed }), stage.eventsAt refreshed)
    else ((.ok false, stage), [])

def registerEvents (stage : Stage) : Reply HostError Unit Stage :=
  if stage.registered then (.error .eventsAlreadyRegistered, stage)
  else (.ok (), { stage with registered := true })

instance : Host Stage where
  resize := resize
  size stage := stage.canvas.size
  encoding := encoding
  draw := draw
  waitForRefresh stage := return stage.waitForRefresh
  registerEvents := registerEvents
  reportError _ stage := ⟨stage, []⟩

end Stage

/-- A stage that leaves everything it may to the default of hosts. -/
structure BareStage where
  stage : Stage

namespace BareStage

/-- The reply of a stage as that of a bare one. -/
def ofReply {α : Type} : Reply HostError α Stage → Reply HostError α BareStage
  | (answer, stage) => (answer, ⟨stage⟩)

instance : Host BareStage where
  resize width height bare := (bare.stage.resize width height).map ofReply
  size bare := bare.stage.canvas.size
  draw frame scale bare := (bare.stage.draw frame scale).map ofReply
  waitForRefresh bare :=
    let (reply, events) := bare.stage.waitForRefresh
    return (ofReply reply, events)

end BareStage

/-- A host that is a stage, possibly in another guise. -/
class Staged (τ : Type) extends Host τ where
  /-- The stage that the host is. -/
  stage : τ → Stage
  /-- Changes the set-up of the stage. -/
  adjust : (Stage → Stage) → τ → τ

instance : Staged Stage where
  stage := id
  adjust change := change

instance : Staged BareStage where
  stage := BareStage.stage
  adjust change bare := ⟨change bare.stage⟩

end Handheld
