import Handheld.Proofs.Display.History
import Handheld.Proofs.Guest.Answers
import Handheld.Proofs.Picture.Packing
import Handheld.Proofs.Session.Capture

/-!
# The Picture of the Sample Core

A step of the sample core fills its screen with one word.  The number of the step, the first byte of
the rom and the opacity are put together in this word by *or*, and the number is not cut to a byte
before.  So its second byte is mixed into the byte of the rom, and its third byte is the blue
channel: `Sample.shade` is the pixel that comes about.

- `Sample.wordByte_pixel` says that the bytes of the word are the channels of the shade;
- `Sample.shade_encode_eq_iff` says when the shade tells the number and the byte, and nothing else;
- `Frame.solid` is a frame with one pixel everywhere.  A screen that is filled with a word is
  fetched as such a frame (`Portrays.solid`), and a canvas that it is drawn on becomes one
  (`Canvas.solid_of_draw`).
-/

namespace Handheld

/-! ## §1 Frames of one pixel

A frame is solid if its bitmap repeats one pixel.  This is kept from memory to the picture, and from
the picture to the canvas. -/

namespace Frame

variable {frame : Frame} {width height : UInt32} {encoding : PixelEncoding} {pixel : Pixel}

/-- A frame with the same pixel everywhere. -/
def solid (width height : UInt32) (encoding : PixelEncoding) (pixel : Pixel) : Frame :=
  ⟨width, height, encoding, Array.replicate (pixelCount width height) (pixel.encode encoding)⟩

theorem wellFormed_solid : (solid width height encoding pixel).WellFormed := Array.size_replicate

theorem pixel?_solid {x y : Nat} (hx : x < width.toNat) (hy : y < height.toNat) :
    (solid width height encoding pixel).pixel? x y = some (pixel.encode encoding) := by
  rw [pixel?_of_inside hx hy]
  exact (Array.getElem?_replicate ..).trans (if_pos (place_lt hx hy))

/-- A frame whose bitmap repeats one pixel is solid. -/
theorem eq_solid_of_bitmap (wellFormed : frame.WellFormed)
    (same : ∀ i < pixelCount frame.width frame.height,
      frame.bitmap[i]? = some (pixel.encode frame.encoding)) :
    frame = solid frame.width frame.height frame.encoding pixel := by
  obtain ⟨width, height, encoding, bitmap⟩ := frame
  have size : bitmap.size = pixelCount width height := wellFormed
  -- The bitmap has the length of the array of copies, so it is enough to look at each place.
  have filled : bitmap = Array.replicate (pixelCount width height) (pixel.encode encoding) := by
    refine Array.ext (size.trans Array.size_replicate.symm) fun i inside _ => ?_
    have here := same i (size ▸ inside)
    rw [Array.getElem?_eq_getElem inside] at here
    rw [Array.getElem_replicate]
    exact Option.some.inj here
  rw [solid, ← filled]

/-- A frame that has one pixel at all of its points is solid. -/
theorem eq_solid (wellFormed : frame.WellFormed)
    (same : ∀ x y, x < frame.width.toNat → y < frame.height.toNat →
      frame.pixel? x y = some (pixel.encode frame.encoding)) :
    frame = solid frame.width frame.height frame.encoding pixel := by
  refine eq_solid_of_bitmap wellFormed fun i inside => ?_
  -- The place belongs to the point that a division by the width finds.
  have column : i % frame.width.toNat < frame.width.toNat := by
    refine Nat.mod_lt _ (Nat.pos_of_ne_zero fun narrow => ?_)
    rw [pixelCount, narrow, Nat.zero_mul] at inside
    exact Nat.not_lt_zero _ inside
  have row : i / frame.width.toNat < frame.height.toNat := Nat.div_lt_of_lt_mul inside
  have here := same _ _ column row
  rwa [pixel?_of_inside column row, Nat.mul_comm, Nat.div_add_mod] at here

end Frame

/-- A picture whose pixels all lie in memory with the same channels is solid. -/
theorem Portrays.solid {picture : Frame} {screen : Screen} {wanted : PixelEncoding} {memory : Bytes}
    {addr : UInt32} {red green blue alpha : UInt8}
    (portrays : Portrays picture screen wanted memory addr)
    (same : ∀ i < pixelCount screen.width screen.height,
      Frame.HoldsPixel memory (addr.toNat + 4 * i) red green blue alpha) :
    picture = Frame.solid screen.width screen.height wanted (.rgba red green blue alpha) := by
  obtain ⟨width, height, encoding, size, pixels⟩ := portrays
  rw [← width, ← height, ← encoding]
  rw [← width, ← height] at size same pixels
  refine Frame.eq_solid_of_bitmap size fun i inside => ?_
  obtain ⟨red', green', blue', alpha', holds, pixel⟩ := pixels i inside
  -- The bytes at a place are the channels of one pixel only.
  obtain ⟨red_eq, green_eq, blue_eq, alpha_eq⟩ := same i inside
  obtain rfl := Option.some.inj (red_eq.symm.trans holds.red)
  obtain rfl := Option.some.inj (green_eq.symm.trans holds.green)
  obtain rfl := Option.some.inj (blue_eq.symm.trans holds.blue)
  obtain rfl := Option.some.inj (alpha_eq.symm.trans holds.alpha)
  rw [pixel, encoding]

/-- A canvas on which a solid picture has been drawn is solid. -/
theorem Canvas.solid_of_draw {canvas next : Canvas} {width height scale : UInt32} {pixel : Pixel}
    (wellFormed : canvas.backing.WellFormed)
    (drawn : canvas.draw (Frame.solid width height canvas.backing.encoding pixel) scale =
      .ok (.ok (), next)) :
    next.backing = Frame.solid canvas.backing.width canvas.backing.height canvas.backing.encoding
      pixel := by
  -- A point of the canvas has the pixel of the point of the picture that its block enlarges.
  obtain ⟨same, -, pixels⟩ := of_granted_draw wellFormed Frame.wellFormed_solid drawn
  have fits := fits_of_granted drawn
  rw [← same.width, ← same.height, ← same.encoding]
  refine Frame.eq_solid (wellFormed_of_draw wellFormed drawn) fun x y hx hy => ?_
  rw [same.width] at hx
  rw [same.height] at hy
  rw [pixels x y hx hy, same.encoding]
  exact Frame.pixel?_solid (Frame.block_lt (fits.width ▸ hx)) (Frame.block_lt (fits.height ▸ hy))

/-- Encoded pixels with an opacity are the same only if all of their channels are. -/
theorem PixelEncoding.encode_inj {encoding : PixelEncoding}
    {red green blue alpha red' green' blue' alpha' : UInt8} :
    (Pixel.rgba red green blue alpha).encode encoding =
        (Pixel.rgba red' green' blue' alpha').encode encoding ↔
      red = red' ∧ green = green' ∧ blue = blue' ∧ alpha = alpha' := by
  constructor
  -- Unpacking is the other direction, and it gives the channels back.
  · intro same
    have pixels := congrArg encoding.unpack same
    rw [unpack_encode, unpack_encode] at pixels
    exact Pixel.rgba.inj pixels
  · rintro ⟨rfl, rfl, rfl, rfl⟩
    rfl

namespace Sample

open Memory (wordByte)

/-! ## §2 The word of a step

The word of a step is put together of three words.  Each byte of it is computed by its place, from
the three bytes at the same place, and the four bytes are the channels of the shade. -/

/-- The pixel of a step: the first byte of its number, then the second byte mixed with that of the
rom, then the third. -/
def shade (count : Nat) (romByte : UInt8) : Pixel :=
  .rgba (.ofNat count) (romByte ||| .ofNat (count / 256)) (.ofNat (count / 65536)) 255

theorem wordByte_or (first second place : UInt32) :
    wordByte (first ||| second) place = wordByte first place ||| wordByte second place := by
  unfold wordByte
  rw [UInt32.shiftRight_or, UInt32.toUInt8_or]

/-- The three lowest bytes of a number. -/
theorem wordByte_ofNat (count : Nat) :
    wordByte (.ofNat count) 0 = .ofNat count ∧ wordByte (.ofNat count) 1 = .ofNat (count / 256) ∧
      wordByte (.ofNat count) 2 = .ofNat (count / 65536) := by
  -- A byte of a word is a remainder of a quotient, and so is a byte of a number.
  have byte (place : UInt32) : (wordByte (.ofNat count) place).toNat =
      count % 2 ^ 32 / 2 ^ ((8 * place).toNat % 32) % 256 := by
    rw [wordByte, UInt32.toNat_toUInt8, UInt32.toNat_shiftRight, UInt32.toNat_ofNat',
      Nat.shiftRight_eq_div_pow]
  refine ⟨?_, ?_, ?_⟩
  all_goals rw [← UInt8.toNat_inj, byte, UInt8.toNat_ofNat']
  · show count % 2 ^ 32 / 2 ^ 0 % 256 = _ % 2 ^ 8
    omega
  · show count % 2 ^ 32 / 2 ^ 8 % 256 = _ % 2 ^ 8
    omega
  · show count % 2 ^ 32 / 2 ^ 16 % 256 = _ % 2 ^ 8
    omega

/-- A byte that has been moved up one place lies there alone. -/
theorem wordByte_shiftLeft (byte : UInt8) :
    wordByte (byte.toUInt32 <<< 8) 0 = 0 ∧ wordByte (byte.toUInt32 <<< 8) 1 = byte ∧
      wordByte (byte.toUInt32 <<< 8) 2 = 0 := by
  -- The byte of the rom has eight bits, which are moved to where the second byte of a word is.
  refine ⟨?_, ?_, ?_⟩
  all_goals
    rw [← UInt8.toBitVec_inj]
    refine BitVec.eq_of_getLsbD_eq fun i hi => ?_
    simp (disch := omega) [wordByte, BitVec.getLsbD_of_ge, decide_eq_false,
      -UInt32.toUInt32_toUInt8]

/-- The bytes of the word of a step are the channels of its shade. -/
theorem wordByte_pixel (count : Nat) (romByte : UInt8) :
    wordByte (pixel (.ofNat count) romByte) 0 = .ofNat count ∧
      wordByte (pixel (.ofNat count) romByte) 1 = romByte ||| .ofNat (count / 256) ∧
      wordByte (pixel (.ofNat count) romByte) 2 = .ofNat (count / 65536) ∧
      wordByte (pixel (.ofNat count) romByte) 3 = 255 := by
  obtain ⟨first, second, third⟩ := wordByte_ofNat count
  obtain ⟨below, own, above⟩ := wordByte_shiftLeft romByte
  have opacity : wordByte 0xFF000000 0 = 0 ∧ wordByte 0xFF000000 1 = 0 ∧
      wordByte 0xFF000000 2 = 0 ∧ wordByte 0xFF000000 3 = 255 := by decide
  obtain ⟨clear₀, clear₁, clear₂, full⟩ := opacity
  -- The channels of the three parts are put together byte by byte: in each but the second only one
  -- is not zero.
  simp only [pixel, wordByte_or, first, second, third, below, own, above, clear₀, clear₁, clear₂,
    full, UInt8.or_zero]
  exact ⟨trivial, UInt8.or_comm .., trivial, UInt8.or_neg_one⟩

/-- Where the word of a step lies in memory, its shade does. -/
theorem HoldsWord.shade {memory : Bytes} {start count : Nat} {romByte : UInt8}
    (holds : HoldsWord memory start (pixel (.ofNat count) romByte)) :
    Frame.HoldsPixel memory start (.ofNat count) (romByte ||| .ofNat (count / 256))
      (.ofNat (count / 65536)) 255 := by
  -- The word in memory is the shade, byte for byte.
  obtain ⟨red, green, blue, alpha⟩ := wordByte_pixel count romByte
  rwa [HoldsWord, red, green, blue, alpha] at holds

/-- The shade tells the number of the step and the byte of the rom exactly if the second byte of the
number adds nothing to that of the rom and the third byte is zero. -/
theorem shade_encode_eq_iff (encoding : PixelEncoding) (count : Nat) (romByte : UInt8) :
    (shade count romByte).encode encoding =
        (Pixel.rgba (.ofNat count) romByte 0 255).encode encoding ↔
      romByte ||| .ofNat (count / 256) = romByte ∧ UInt8.ofNat (count / 65536) = 0 := by
  rw [shade, PixelEncoding.encode_inj]
  exact ⟨fun ⟨_, green, blue, _⟩ => ⟨green, blue⟩, fun ⟨green, blue⟩ => ⟨rfl, green, blue, rfl⟩⟩

end Sample

end Handheld
