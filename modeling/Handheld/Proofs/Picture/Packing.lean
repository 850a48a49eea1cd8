import Handheld.Proofs.Picture.Frame

/-!
# Packed Pictures

A picture is copied from native memory four bytes at a time, and every four bytes are packed into
one word of the frame.  Here a word is taken apart again (`PixelEncoding.unpack`), and a whole frame
with it (`Frame.toBytes`).

No two channels share a bit of the word, whatever the encoding is.  So a copy loses nothing:
`Frame.copyBytes_exact` says when bytes are copied to a frame, what the frame holds then, and that
the bytes can be had back from it.
-/

namespace Handheld

/-! ## §1 Words

A word is packed by three shifts and put apart by as many.  That this is an inverse is a matter of
single bits, for each of the orders of the channels. -/

/-- The byte of a word at a place.  The least significant one is at place zero. -/
def byteAt (place word : UInt32) : UInt8 := (word >>> (8 * place)).toUInt8

/-- Packed bytes stay apart. -/
theorem byteAt_packBytes (b₃ b₂ b₁ b₀ : UInt8) :
    byteAt 3 (packBytes b₃ b₂ b₁ b₀) = b₃ ∧ byteAt 2 (packBytes b₃ b₂ b₁ b₀) = b₂ ∧
      byteAt 1 (packBytes b₃ b₂ b₁ b₀) = b₁ ∧ byteAt 0 (packBytes b₃ b₂ b₁ b₀) = b₀ := by
  -- Bit by bit: of the four bytes only one reaches the place that is read.
  refine ⟨?_, ?_, ?_, ?_⟩
  all_goals
    rw [← UInt8.toBitVec_inj]
    refine BitVec.eq_of_getLsbD_eq fun i hi => ?_
    simp (disch := omega) [byteAt, packBytes, BitVec.getLsbD_of_ge, decide_eq_true,
      decide_eq_false]

/-- The pixel in a packed word. -/
def PixelEncoding.unpack (word : UInt32) : PixelEncoding → Pixel
  | .rgba => .rgba (byteAt 3 word) (byteAt 2 word) (byteAt 1 word) (byteAt 0 word)
  | .argb => .rgba (byteAt 2 word) (byteAt 1 word) (byteAt 0 word) (byteAt 3 word)
  | .abgr => .rgba (byteAt 0 word) (byteAt 1 word) (byteAt 2 word) (byteAt 3 word)

theorem PixelEncoding.unpack_encode (encoding : PixelEncoding) (red green blue alpha : UInt8) :
    encoding.unpack ((Pixel.rgba red green blue alpha).encode encoding) =
      .rgba red green blue alpha := by
  cases encoding with
  | rgba =>
    obtain ⟨third, second, first, last⟩ := byteAt_packBytes red green blue alpha
    simp only [Pixel.encode, pack, unpack, third, second, first, last]
  | argb =>
    obtain ⟨third, second, first, last⟩ := byteAt_packBytes alpha red green blue
    simp only [Pixel.encode, pack, unpack, third, second, first, last]
  | abgr =>
    obtain ⟨third, second, first, last⟩ := byteAt_packBytes alpha blue green red
    simp only [Pixel.encode, pack, unpack, third, second, first, last]

/-! ## §2 Frames

From one word to a whole frame: each byte belongs to one channel of one pixel, which are the
remainder and the quotient of its place by four. -/

/-- The channel of a pixel at a position, in the order of native memory. -/
def Pixel.channel : Pixel → (position : Nat) → UInt8
  | .rgb red _ _, 0 | .rgba red _ _ _, 0 => red
  | .rgb _ green _, 1 | .rgba _ green _ _, 1 => green
  | .rgb _ _ blue, 2 | .rgba _ _ blue _, 2 => blue
  | .rgb _ _ _, _ => 255
  | .rgba _ _ _ alpha, _ => alpha

namespace Frame

variable {frame filled : Frame} {bytes : Bytes}

theorem HoldsPixel.channel {start position : Nat} {red green blue alpha : UInt8}
    (holds : HoldsPixel bytes start red green blue alpha) (inside : position < 4) :
    bytes[start + position]? = some ((Pixel.rgba red green blue alpha).channel position) := by
  match position, inside with
  | 0, _ => exact holds.red
  | 1, _ => exact holds.green
  | 2, _ => exact holds.blue
  | 3, _ => exact holds.alpha

/-- The native memory that the frame is a picture of. -/
def toBytes (frame : Frame) : Bytes :=
  Array.ofFn fun i : Fin (4 * frame.bitmap.size) =>
    have : i.val / 4 < frame.bitmap.size := Nat.div_lt_of_lt_mul i.isLt
    (frame.encoding.unpack frame.bitmap[i.val / 4]).channel (i.val % 4)

theorem toBytes_congr {twin : Frame} (encoding : frame.encoding = twin.encoding)
    (bitmap : frame.bitmap = twin.bitmap) : frame.toBytes = twin.toBytes := by
  obtain ⟨width, height, encoding', bitmap'⟩ := frame
  cases encoding
  cases bitmap
  rfl

/-- What a frame holds after a copy of bytes to it. -/
structure Packs (bytes : Bytes) (frame filled : Frame) : Prop where
  width : filled.width = frame.width
  height : filled.height = frame.height
  encoding : filled.encoding = frame.encoding
  size : filled.bitmap.size = frame.bitmap.size
  pixels : ∀ i < frame.bitmap.size, ∃ red green blue alpha,
    HoldsPixel bytes (4 * i) red green blue alpha ∧
      filled.bitmap[i]? = some ((Pixel.rgba red green blue alpha).encode frame.encoding)

/-- Bytes that have been copied to a frame are packed in it, four to a pixel. -/
theorem packs_of_copyBytes (copies : frame.copyBytes bytes = (true, filled)) :
    Packs bytes frame filled := by
  have fits := fits_of_copyBytes copies
  obtain ⟨bitmap, made, size, pixels⟩ := frame.copyBytes_ok fits
  obtain rfl := congrArg Prod.snd (made.symm.trans copies)
  refine ⟨rfl, rfl, rfl, size, fun i hi => ?_⟩
  -- A frame's length counts four bytes for each of its pixels, so the last of them is inside too.
  have inside : 4 * i + 4 ≤ bytes.size := by
    simp only [byteCount, bytesPerPixel] at fits
    omega
  obtain ⟨red, green, blue, alpha, holds⟩ := exists_holdsPixel inside
  exact ⟨red, green, blue, alpha, holds, pixels i red green blue alpha hi holds⟩

/-- The frame gives back the bytes that it has been filled with. -/
theorem Packs.toBytes_eq (packs : Packs bytes frame filled)
    (fits : bytes.size = frame.byteCount) : filled.toBytes = bytes := by
  have count : 4 * filled.bitmap.size = bytes.size := by
    rw [fits, packs.size, byteCount, bytesPerPixel, Nat.mul_comm]
  apply Array.ext
  · rw [toBytes, Array.size_ofFn, count]
  · intro i hi hi'
    have pixel_inside : i / 4 < filled.bitmap.size :=
      Nat.div_lt_of_lt_mul (by rwa [count])
    obtain ⟨red, green, blue, alpha, holds, packed⟩ :=
      packs.pixels (i / 4) (packs.size ▸ pixel_inside)
    -- The byte is a channel of the pixel that it has gone into.
    have channel := holds.channel (Nat.mod_lt i (by decide : 0 < 4))
    rw [Nat.div_add_mod, Array.getElem?_eq_getElem hi'] at channel
    rw [Array.getElem?_eq_getElem pixel_inside] at packed
    simp only [toBytes, Array.getElem_ofFn]
    rw [Option.some.inj packed, packs.encoding, PixelEncoding.unpack_encode]
    exact (Option.some.inj channel).symm

/-- A copy of bytes to a well-formed frame answers that it has been made exactly if there are four
bytes for each point of the frame.  Then every pixel is that of its four bytes, packed in the
frame's encoding; nothing else in the frame changes, and what was in the bitmap before does not
matter.  The bytes come back out of the frame, so other bytes make another bitmap.  A copy that
answers that it has not been made leaves the frame as it was. -/
theorem copyBytes_exact (wellFormed : frame.WellFormed) (bytes : Bytes) :
    ((frame.copyBytes bytes).1 = true ↔
      bytes.size = 4 * pixelCount frame.width frame.height) ∧
    (∀ filled, frame.copyBytes bytes = (true, filled) →
      filled.WellFormed ∧ Packs bytes frame filled ∧
      (∀ bitmap : Array UInt32, bitmap.size = pixelCount frame.width frame.height →
        { frame with bitmap }.copyBytes bytes = (true, filled)) ∧
      filled.toBytes = bytes ∧
      ∀ other refilled, frame.copyBytes other = (true, refilled) →
        refilled.bitmap = filled.bitmap → other = bytes) ∧
    ∀ left, frame.copyBytes bytes = (false, left) → left = frame := by
  -- The frame is well-formed, so the length of its bitmap is the number of its points.
  have count : frame.byteCount = 4 * pixelCount frame.width frame.height := by
    rw [byteCount, wellFormed, bytesPerPixel, Nat.mul_comm]
  refine ⟨⟨fun copied => ?_, fun fits => ?_⟩, fun filled copies => ?_, fun left refused => ?_⟩
  -- Whether there is a copy: only the length of the bytes is asked for.
  · rw [← count]
    exact fits_of_copyBytes (Prod.ext copied rfl)
  · obtain ⟨bitmap, copies, -⟩ := frame.copyBytes_ok (fits.trans count.symm)
    rw [copies]
  · have fits := fits_of_copyBytes copies
    have packs := packs_of_copyBytes copies
    refine ⟨?_, packs, fun bitmap size => ?_, packs.toBytes_eq fits, ?_⟩
    · rw [WellFormed, packs.size, packs.width, packs.height]
      exact wellFormed
    · -- Another bitmap of the same length makes a frame of the same shape.
      have same := @copyBytes_congr { frame with bitmap } frame rfl rfl rfl
        (size.trans wellFormed.symm) bytes
      rcases same with ⟨refilled, recopies, again⟩ | ⟨-, refused⟩
      · rw [recopies, ← again, copies]
      · cases refused.symm.trans copies
    -- Bytes are read back from the bitmap and the encoding alone, so an equal bitmap gives them
    -- again.
    · intro other refilled recopies same
      have repacks := packs_of_copyBytes recopies
      have encoding : refilled.encoding = filled.encoding :=
        repacks.encoding.trans packs.encoding.symm
      calc other
        _ = refilled.toBytes := (repacks.toBytes_eq (fits_of_copyBytes recopies)).symm
        _ = filled.toBytes := toBytes_congr encoding same
        _ = bytes := packs.toBytes_eq fits
  -- A copy that is refused: with bytes that fit it would have been made.
  · by_cases fits : bytes.size = frame.byteCount
    · obtain ⟨bitmap, copies, -⟩ := frame.copyBytes_ok fits
      cases copies.symm.trans refused
    · exact (congrArg Prod.snd ((frame.copyBytes_misfit fits).symm.trans refused)).symm

/-- Eight bytes are two pixels, whose opacity goes to the most significant place here.  Seven bytes
are left alone. -/
theorem copyBytes_exact_of_two_pixels :
    (∃ filled, Frame.copyBytes ⟨2, 1, .abgr, #[7, 9]⟩ #[1, 2, 3, 4, 5, 6, 7, 8] = (true, filled) ∧
        filled.bitmap[1]? = some 0x08070605 ∧ filled.toBytes = #[1, 2, 3, 4, 5, 6, 7, 8]) ∧
      ∃ left, Frame.copyBytes ⟨2, 1, .abgr, #[7, 9]⟩ #[1, 2, 3, 4, 5, 6, 7] = (false, left) ∧
        left = ⟨2, 1, .abgr, #[7, 9]⟩ := by
  have law := @copyBytes_exact ⟨2, 1, .abgr, #[7, 9]⟩ (by decide)
  have copied := (law #[1, 2, 3, 4, 5, 6, 7, 8]).1.2 (by decide)
  obtain ⟨-, packs, -, back, -⟩ := (law _).2.1 _ (Prod.ext copied rfl)
  obtain ⟨red, green, blue, alpha, holds, packed⟩ := packs.pixels 1 (by decide)
  obtain rfl : 5 = red := Option.some.inj holds.red
  obtain rfl : 6 = green := Option.some.inj holds.green
  obtain rfl : 7 = blue := Option.some.inj holds.blue
  obtain rfl : 8 = alpha := Option.some.inj holds.alpha
  exact ⟨⟨_, Prod.ext copied rfl, packed, back⟩,
    ⟨_, rfl, (law #[1, 2, 3, 4, 5, 6, 7]).2.2 _ rfl⟩⟩

end Frame

end Handheld
