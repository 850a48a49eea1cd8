import Handheld.Picture.Frame

/-!
# Scaled Copies

A picture is shown larger than it is by replicating every pixel into a square block of
`scale` by `scale` pixels.  What does not fit on the target is clipped on either axis.  The
copy goes row by row and pixel by pixel; rows of the target are addressed in words of 32
bits, pixels within a row in sizes.
-/

namespace Handheld.Frame

/-- Copies the pixel for column `x` of a row whose first pixels stand at `sourceRow` and
`targetRow`. -/
def blitPixel (source : Array UInt32) (scale sourceRow targetRow : Nat) (bitmap : Array UInt32)
    (x : Nat) : Faulty (Array UInt32) := do
  let column ← Checked.divSize x scale
  if hs : sourceRow + column < source.size then
    if ht : targetRow + x < bitmap.size then
      return bitmap.set (targetRow + x) source[sourceRow + column]
    else throw .outOfRange
  else throw .outOfRange

/-- Copies the first `columns` pixels of row `y`.  The row of the source is computed as a size,
that of the target as a word, and only the latter may overflow. -/
def blitRow (source : Frame) (scale : Nat) (targetWidth : UInt32) (columns : Nat)
    (bitmap : Array UInt32) (y : Nat) : Faulty (Array UInt32) := do
  let sourceRow := (← Checked.divSize y scale) * source.width.toNat
  let targetRow ← Checked.mul32 (UInt32.ofNat y) targetWidth
  (List.range columns).foldlM (blitPixel source.bitmap scale sourceRow targetRow.toNat) bitmap

/-- Copies `source` onto the frame, every pixel enlarged to a block.  A scale of zero leaves
nothing to copy, and no row is visited. -/
def blit (frame source : Frame) (scale : UInt32) : Faulty Frame := do
  -- The enlarged size is computed before it is clipped, so it may overflow.
  let columns := min (← Checked.mul32 source.width scale) frame.width
  let rows := min (← Checked.mul32 source.height scale) frame.height
  let bitmap ← (List.range rows.toNat).foldlM
    (blitRow source scale.toNat frame.width columns.toNat) frame.bitmap
  return { frame with bitmap }

end Handheld.Frame
