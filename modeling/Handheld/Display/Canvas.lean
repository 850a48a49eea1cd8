import Handheld.Display.Surface

/-!
# Canvases

A canvas is a surface that lives in host memory.  A frontend that can only present whole
pictures draws on a canvas and hands its backing frame to the window; a run without any
window uses it as it is.

A canvas takes every size with two non-zero axes that does not exceed its limit, and only
pictures that fill it exactly.
-/

namespace Handheld

/-- A surface in host memory. -/
structure Canvas where
  backing : Frame
  /-- No axis may be longer than this. -/
  limit : UInt32 × UInt32 := (0xFFFFFFFF, 0xFFFFFFFF)
  draws : UInt64 := 0
deriving DecidableEq, Repr

namespace Canvas

/-- A canvas without any pixels, its size not limited. -/
def new (encoding : PixelEncoding) : Canvas := { backing := .empty encoding }

def withLimit (canvas : Canvas) (width height : UInt32) : Canvas :=
  { canvas with limit := (width, height) }

def size (canvas : Canvas) : UInt32 × UInt32 := (canvas.backing.width, canvas.backing.height)

/-- The canvas can have the given size. -/
def Accepts (canvas : Canvas) (width height : UInt32) : Prop :=
  width ≠ 0 ∧ height ≠ 0 ∧ width ≤ canvas.limit.1 ∧ height ≤ canvas.limit.2

instance (canvas : Canvas) (width height : UInt32) : Decidable (canvas.Accepts width height) :=
  inferInstanceAs (Decidable (_ ∧ _ ∧ _ ∧ _))

/-- Gives the canvas another size and makes every pixel zero, unless it cannot have that size;
then it keeps its size and its picture. -/
def resize (width height : UInt32) (canvas : Canvas) : Faulty (Reply HostError Unit Canvas) :=
  if canvas.Accepts width height then do
    let backing ← canvas.backing.resize width height
    return (.ok (), { canvas with backing := backing.clear })
  else return (.error (.sizeNotSupported width height), canvas)

/-- Draws a picture that, enlarged, has the size of the canvas, and counts it.  Any other picture
is refused, and the canvas stays as it is.  The enlarged size is computed in words before it
is compared, so a large scale may end in a fault and not in a refusal. -/
def draw (frame : Frame) (scale : UInt32) (canvas : Canvas) :
    Faulty (Reply HostError Unit Canvas) := do
  let enlarged := (← Checked.mul32 frame.width scale, ← Checked.mul32 frame.height scale)
  if enlarged = canvas.size then
    let backing ← canvas.backing.blit frame scale
    let draws ← Checked.next64 canvas.draws
    return (.ok (), { canvas with backing, draws })
  else return (.error (.frameMismatch enlarged canvas.size), canvas)

instance : Surface Canvas where
  resize := resize
  size := size
  encoding canvas := canvas.backing.encoding
  draw := draw

end Canvas

end Handheld
