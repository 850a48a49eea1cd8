/-!
# Pixels

A pixel has up to four channels of eight bits and is packed into one word of 32 bits.  The
*encoding* says which channel takes which byte of the word.
-/

namespace Handheld

/-- The order of the channels in a packed pixel, most significant byte first. -/
inductive PixelEncoding
  | rgba
  | argb
  | abgr
deriving DecidableEq, Repr

/-- A pixel, with or without an opacity. -/
inductive Pixel
  | rgb (red green blue : UInt8)
  | rgba (red green blue alpha : UInt8)
deriving DecidableEq, Repr

/-- The number of bytes of a pixel in native memory. -/
def bytesPerPixel : Nat := 4

/-- Four bytes as one word, the first byte in the most significant place. -/
def packBytes (b₃ b₂ b₁ b₀ : UInt8) : UInt32 :=
  (b₃.toUInt32 <<< 24) ||| (b₂.toUInt32 <<< 16) ||| (b₁.toUInt32 <<< 8) ||| b₀.toUInt32

/-- Four channels packed in the given order. -/
def PixelEncoding.pack (red green blue alpha : UInt8) : PixelEncoding → UInt32
  | .rgba => packBytes red green blue alpha
  | .argb => packBytes alpha red green blue
  | .abgr => packBytes alpha blue green red

def PixelEncoding.name : PixelEncoding → String
  | .rgba => "RGBA"
  | .argb => "ARGB"
  | .abgr => "ABGR"

/-- A pixel packed into a word; a pixel without an opacity is opaque. -/
def Pixel.encode (encoding : PixelEncoding) : Pixel → UInt32
  | .rgb red green blue => encoding.pack red green blue 255
  | .rgba red green blue alpha => encoding.pack red green blue alpha

end Handheld
