import Handheld.Checked
import Handheld.Input.Event
import Handheld.Picture.Pixel

/-!
# Frames

A frame is a bitmap of packed pixels, stored row by row.  Its fields are set separately, so a
frame may be ill-formed; a *well-formed* frame has one pixel for every point of its area.
Addressing a point computes its place in the bitmap in words of 32 bits.
-/

namespace Handheld

structure Frame where
  width : UInt32
  height : UInt32
  encoding : PixelEncoding
  bitmap : Array UInt32
deriving DecidableEq, Repr

/-- The number of points of an area. -/
def pixelCount (width height : UInt32) : Nat := width.toNat * height.toNat

namespace Frame

/-! ## §1 Size -/

/-- The bitmap has one pixel for every point. -/
def WellFormed (frame : Frame) : Prop := frame.bitmap.size = pixelCount frame.width frame.height

instance (frame : Frame) : Decidable frame.WellFormed := inferInstanceAs (Decidable (_ = _))

def empty (encoding : PixelEncoding) : Frame := ⟨0, 0, encoding, #[]⟩

/-- A frame of the given size, every pixel zero. -/
def new (width height : UInt32) (encoding : PixelEncoding) : Faulty Frame := do
  let count := pixelCount width height
  Checked.capacity (4 * count)
  return ⟨width, height, encoding, Array.replicate count 0⟩

/-- A bitmap cut or extended with zeros to the given length. -/
def fitted (bitmap : Array UInt32) (count : Nat) : Array UInt32 :=
  bitmap.take count ++ Array.replicate (count - bitmap.size) 0

/-- The frame with another size.  The bitmap keeps its first pixels, whatever their new
places are. -/
def resize (frame : Frame) (width height : UInt32) : Faulty Frame := do
  let count := pixelCount width height
  Checked.capacity (4 * count)
  return { frame with width, height, bitmap := fitted frame.bitmap count }

def clear (frame : Frame) : Frame := { frame with bitmap := frame.bitmap.map fun _ => 0 }

/-- The number of bytes of native memory that fill the frame exactly. -/
def byteCount (frame : Frame) : Nat := frame.bitmap.size * bytesPerPixel

/-! ## §2 Single pixels -/

def Contains (frame : Frame) (x y : UInt32) : Prop := x < frame.width ∧ y < frame.height

instance (frame : Frame) (x y : UInt32) : Decidable (frame.Contains x y) :=
  inferInstanceAs (Decidable (_ ∧ _))

/-- The place of a point in the bitmap.  It is computed in words, so a point far down in a large
frame may have none. -/
def index (frame : Frame) (x y : UInt32) : Faulty Nat := do
  return (← Checked.add32 x (← Checked.mul32 y frame.width)).toNat

/-- Sets the pixel at a point; outside of the frame it does nothing. -/
def setPixel (frame : Frame) (x y : UInt32) (pixel : Pixel) : Faulty Frame :=
  if frame.Contains x y then do
    let i ← frame.index x y
    if h : i < frame.bitmap.size then
      return { frame with bitmap := frame.bitmap.set i (pixel.encode frame.encoding) }
    else throw .outOfRange
  else return frame

/-- The packed pixel at a point, if the point is inside the frame. -/
def getPixel (frame : Frame) (x y : UInt32) : Faulty (Option UInt32) :=
  if frame.Contains x y then do
    let i ← frame.index x y
    if h : i < frame.bitmap.size then return some frame.bitmap[i] else throw .outOfRange
  else return none

/-! ## §3 Whole pictures -/

/-- The pixel that starts at byte `i` of native memory. -/
def pixelAt (bytes : Bytes) (i : Nat) (h : i + 3 < bytes.size) : Pixel :=
  .rgba bytes[i] bytes[i + 1] bytes[i + 2] bytes[i + 3]

/-- The frame filled with the pixels of native memory.  There is no such picture if the bytes
do not fill the frame exactly. -/
def copyBytes? (frame : Frame) (bytes : Bytes) : Option Frame :=
  if h : bytes.size = frame.byteCount then
    some { frame with
      bitmap := Array.ofFn fun i : Fin frame.bitmap.size =>
        (pixelAt bytes (4 * i.val) (by
          have := i.isLt
          simp only [byteCount, bytesPerPixel] at h
          omega)).encode frame.encoding }
  else none

/-- Copies the pixels of native memory into the frame.  Gives whether it has done so, and the
frame then: bytes that do not fill it exactly leave it as it is. -/
def copyBytes (frame : Frame) (bytes : Bytes) : Bool × Frame :=
  match frame.copyBytes? bytes with
  | some filled => (true, filled)
  | none => (false, frame)

end Frame

end Handheld
