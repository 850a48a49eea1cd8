import Handheld.Core.Machine
import Handheld.Display.Error
import Handheld.Picture.Blit

/-!
# Display Surfaces

A surface shows pictures.  It has a size, which the controller sets, and an encoding, in
which it wants its pictures packed.  A surface that does not say otherwise wants red, green,
blue and opacity in this order.
-/

namespace Handheld

/-- A surface that pictures can be drawn on, with state `τ`. -/
class Surface (τ : Type) where
  /-- Sets the size in pixels. -/
  resize : (width height : UInt32) → τ → Faulty (Reply HostError Unit τ)
  size : τ → UInt32 × UInt32
  /-- The encoding that pictures are to be packed in. -/
  encoding : τ → PixelEncoding := fun _ => .rgba
  /-- Draws a picture at the origin, every pixel enlarged to a block. -/
  draw : (frame : Frame) → (scale : UInt32) → τ → Faulty (Reply HostError Unit τ)

inductive SurfaceRequest
  | resize (width height : UInt32)
  | draw (frame : Frame) (scale : UInt32)
deriving DecidableEq, Repr

def SurfaceRequest.perform {τ : Type} [Surface τ] :
    SurfaceRequest → τ → Faulty (Reply HostError Unit τ)
  | .resize width height => Surface.resize width height
  | .draw frame scale => Surface.draw frame scale

end Handheld
