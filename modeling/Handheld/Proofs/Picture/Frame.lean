import Handheld.Picture.Frame
import Handheld.Proofs.Checked

/-!
# Operations on Frames

What the operations on a frame give, and when they give it.
-/

namespace Handheld.Frame

/-! ## §1 Places

A frame keeps its pixels in one array, row by row.  Everything that is said about points rests on
these few facts about the place of a point. -/

/-- A place belongs to the first columns of a row exactly if its point does. -/
theorem place_in_row {x y row columns width : Nat} (hx : x < width) (hcolumns : columns ≤ width) :
    (row * width ≤ y * width + x ∧ y * width + x < row * width + columns) ↔
      y = row ∧ x < columns := by
  -- A row that is not meant lies in front of it or behind it as a whole.
  rcases Nat.lt_trichotomy y row with h | rfl | h
  · have above : (y + 1) * width ≤ row * width := Nat.mul_le_mul_right width h
    rw [Nat.succ_mul] at above
    omega
  · omega
  · have below : (row + 1) * width ≤ y * width := Nat.mul_le_mul_right width h
    rw [Nat.succ_mul] at below
    omega

/-- Different points have different places. -/
theorem place_injective {x y column row width : Nat} (hx : x < width) (hcolumn : column < width)
    (same : row * width + column = y * width + x) : row = y ∧ column = x := by
  -- The place is inside of the first `x + 1` columns of its row.
  have inside : y * width ≤ row * width + column ∧ row * width + column < y * width + (x + 1) :=
    ⟨by omega, by omega⟩
  obtain ⟨rfl, -⟩ := (place_in_row hcolumn hx).1 inside
  exact ⟨rfl, by omega⟩

/-- A point of an area has a place in its bitmap. -/
theorem place_lt {x y width height : Nat} (hx : x < width) (hy : y < height) :
    y * width + x < width * height := by
  have rows : (y + 1) * width ≤ height * width := Nat.mul_le_mul_right width hy
  rw [Nat.succ_mul, Nat.mul_comm height] at rows
  omega

/-- The rows above a point of an area of at most `2 ^ 32` points fit a word. -/
theorem row_lt {y width height : Nat} (hy : y < height) (area : width * height ≤ 2 ^ 32) :
    y * width < 2 ^ 32 := by
  rcases Nat.eq_zero_or_pos width with rfl | hwidth
  · simp
  · have := place_lt hwidth hy
    omega

/-- The place where a row begins is a word, for every row. -/
def Addressable (frame : Frame) : Prop :=
  ∀ row < frame.height.toNat, row * frame.width.toNat < 2 ^ 32

theorem addressable_of_area {frame : Frame}
    (area : pixelCount frame.width frame.height ≤ 2 ^ 32) : frame.Addressable :=
  fun _ hrow => row_lt hrow area

/-- So many pixels fit a buffer. -/
theorem room_of_area {count : Nat} (area : count ≤ 2 ^ 32) :
    4 * count ≤ Checked.maxBufferBytes := by
  rw [Checked.maxBufferBytes_eq]
  omega

/-! ## §2 Size

A frame that is made or resized has a pixel for each of its points. -/

theorem size_fitted (bitmap : Array UInt32) (count : Nat) : (fitted bitmap count).size = count := by
  unfold fitted
  rw [Array.size_append, Array.take_eq_extract, Array.size_extract, Array.size_replicate]
  omega

theorem wellFormed_empty (encoding : PixelEncoding) : (empty encoding).WellFormed := rfl

theorem wellFormed_clear {frame : Frame} (h : frame.WellFormed) : frame.clear.WellFormed := by
  unfold WellFormed clear
  rw [Array.size_map]
  exact h

theorem resize_ok (frame : Frame) {width height : UInt32}
    (room : 4 * pixelCount width height ≤ Checked.maxBufferBytes) :
    ∃ resized, frame.resize width height = .ok resized ∧ resized.WellFormed ∧
      resized.width = width ∧ resized.height = height ∧ resized.encoding = frame.encoding := by
  refine ⟨{ frame with width, height, bitmap := fitted frame.bitmap (pixelCount width height) },
    ?_, size_fitted frame.bitmap _, rfl, rfl, rfl⟩
  simp only [resize]
  rw [Checked.capacity_ok room]
  rfl

/-- A frame that has been resized has the size that was asked for. -/
theorem of_resize {frame resized : Frame} {width height : UInt32}
    (h : frame.resize width height = .ok resized) :
    resized.WellFormed ∧ resized.width = width ∧ resized.height = height ∧
      resized.encoding = frame.encoding := by
  simp only [resize] at h
  cases hcapacity : Checked.capacity (4 * pixelCount width height) with
  | error fault =>
    rw [hcapacity] at h
    cases h
  | ok =>
    rw [hcapacity] at h
    obtain rfl := Except.ok.inj h
    exact ⟨size_fitted frame.bitmap _, rfl, rfl, rfl⟩

theorem room_of_resize {frame resized : Frame} {width height : UInt32}
    (h : frame.resize width height = .ok resized) :
    4 * pixelCount width height ≤ Checked.maxBufferBytes := by
  obtain ⟨_, capacity, -⟩ := Checked.bind_eq_ok_iff.1 h
  exact Checked.capacity_eq_ok_iff.1 capacity

/-! ## §3 Pixels

A pixel is read and set at the place of its point if the index can be computed, and this is so in a
frame of at most `2 ^ 32` points. -/

/-- Inside of a frame that is not too large the index that is computed in words is the place. -/
theorem index_ok {frame : Frame} {x y : UInt32}
    (area : pixelCount frame.width frame.height ≤ 2 ^ 32) (inside : frame.Contains x y) :
    frame.index x y = .ok (y.toNat * frame.width.toNat + x.toNat) := by
  have hx : x.toNat < frame.width.toNat := UInt32.lt_iff_toNat_lt.1 inside.1
  have hy : y.toNat < frame.height.toNat := UInt32.lt_iff_toNat_lt.1 inside.2
  have place : y.toNat * frame.width.toNat + x.toNat < 2 ^ 32 :=
    Nat.lt_of_lt_of_le (place_lt hx hy) area
  -- Neither the product nor the sum leaves the words, for the place is less than the area.
  obtain ⟨start, hstart, start_eq⟩ := Checked.mul32_ok (a := y) (b := frame.width) (by omega)
  obtain ⟨index, hindex, index_eq⟩ := Checked.add32_ok (a := x) (b := start) (by omega)
  have index_place : index.toNat = y.toNat * frame.width.toNat + x.toNat := by omega
  unfold Frame.index
  rw [hstart]
  show (Checked.add32 x start >>= fun place => pure place.toNat) = _
  rw [hindex, ← index_place]
  rfl

/-- Inside of a frame that is not too large the pixel that is read is that at the place. -/
theorem getPixel_ok {frame : Frame} {x y : UInt32} {pixel : UInt32}
    (area : pixelCount frame.width frame.height ≤ 2 ^ 32) (inside : frame.Contains x y)
    (h : frame.bitmap[y.toNat * frame.width.toNat + x.toNat]? = some pixel) :
    frame.getPixel x y = .ok (some pixel) := by
  obtain ⟨bound, rfl⟩ := Array.getElem?_eq_some_iff.1 h
  unfold getPixel
  rw [if_pos inside, index_ok area inside]
  show (if h : _ < frame.bitmap.size then _ else _) = _
  rw [dif_pos bound]
  rfl

/-- Inside of a frame that is not too large the pixel that is set is that at the place. -/
theorem setPixel_ok {frame : Frame} {x y : UInt32} (pixel : Pixel)
    (area : pixelCount frame.width frame.height ≤ 2 ^ 32) (inside : frame.Contains x y)
    (bound : y.toNat * frame.width.toNat + x.toNat < frame.bitmap.size) :
    frame.setPixel x y pixel = .ok { frame with
      bitmap := frame.bitmap.set (y.toNat * frame.width.toNat + x.toNat)
        (pixel.encode frame.encoding) bound } := by
  unfold setPixel
  rw [if_pos inside, index_ok area inside]
  show (if h : _ < frame.bitmap.size then _ else _) = _
  rw [dif_pos bound]
  rfl

/-- The packed pixel at a point, however large the frame is. -/
def pixel? (frame : Frame) (x y : Nat) : Option UInt32 :=
  if x < frame.width.toNat ∧ y < frame.height.toNat
  then frame.bitmap[y * frame.width.toNat + x]? else none

theorem pixel?_of_inside {frame : Frame} {x y : Nat} (hx : x < frame.width.toNat)
    (hy : y < frame.height.toNat) :
    frame.pixel? x y = frame.bitmap[y * frame.width.toNat + x]? := if_pos ⟨hx, hy⟩

/-- A well-formed frame has a pixel at each of its points. -/
theorem exists_pixel? {frame : Frame} {x y : Nat} (hframe : frame.WellFormed)
    (hx : x < frame.width.toNat) (hy : y < frame.height.toNat) :
    ∃ pixel, frame.pixel? x y = some pixel := by
  have place : y * frame.width.toNat + x < frame.bitmap.size := by
    rw [hframe]
    exact place_lt hx hy
  exact ⟨_, (pixel?_of_inside hx hy).trans (Array.getElem?_eq_getElem place)⟩

/-- The pixel that is read at a point of a frame that is not too large is the one it has. -/
theorem getPixel_of_pixel? {frame : Frame} {x y pixel : UInt32}
    (area : pixelCount frame.width frame.height ≤ 2 ^ 32) (inside : frame.Contains x y)
    (h : frame.pixel? x.toNat y.toNat = some pixel) : frame.getPixel x y = .ok (some pixel) := by
  apply getPixel_ok area inside
  rwa [← pixel?_of_inside (UInt32.lt_iff_toNat_lt.1 inside.1) (UInt32.lt_iff_toNat_lt.1 inside.2)]

/-- Four bytes in a row are the channels of a pixel. -/
structure HoldsPixel (bytes : Bytes) (start : Nat) (red green blue alpha : UInt8) : Prop where
  red : bytes[start]? = some red
  green : bytes[start + 1]? = some green
  blue : bytes[start + 2]? = some blue
  alpha : bytes[start + 3]? = some alpha

/-- Four bytes that lie inside of memory are a pixel. -/
theorem exists_holdsPixel {memory : Bytes} {start : Nat} (inside : start + 4 ≤ memory.size) :
    ∃ red green blue alpha, HoldsPixel memory start red green blue alpha :=
  ⟨memory[start], memory[start + 1], memory[start + 2], memory[start + 3],
    Array.getElem?_eq_getElem _, Array.getElem?_eq_getElem _, Array.getElem?_eq_getElem _,
    Array.getElem?_eq_getElem _⟩

/-- Bytes that fill a frame exactly become its pixels, four bytes each. -/
theorem copyBytes_ok (frame : Frame) {bytes : Bytes} (fits : bytes.size = frame.byteCount) :
    ∃ bitmap, frame.copyBytes bytes = (true, { frame with bitmap }) ∧
      bitmap.size = frame.bitmap.size ∧
      ∀ (i : Nat) (red green blue alpha : UInt8), i < frame.bitmap.size →
        HoldsPixel bytes (4 * i) red green blue alpha →
        bitmap[i]? = some ((Pixel.rgba red green blue alpha).encode frame.encoding) := by
  refine ⟨_, by rw [copyBytes, copyBytes?, dif_pos fits], Array.size_ofFn, ?_⟩
  intro i red green blue alpha hi holds
  -- The four bytes are in range, so the bitmap's entry is made of them.
  obtain ⟨hred, hgreen, hblue, halpha⟩ := holds
  obtain ⟨_, rfl⟩ := Array.getElem?_eq_some_iff.1 hred
  obtain ⟨_, rfl⟩ := Array.getElem?_eq_some_iff.1 hgreen
  obtain ⟨_, rfl⟩ := Array.getElem?_eq_some_iff.1 hblue
  obtain ⟨_, rfl⟩ := Array.getElem?_eq_some_iff.1 halpha
  rw [Array.getElem?_ofFn, dif_pos hi]
  rfl

/-- Bytes that do not fill a frame exactly leave it as it is. -/
theorem copyBytes_misfit (frame : Frame) {bytes : Bytes}
    (misfit : bytes.size ≠ frame.byteCount) : frame.copyBytes bytes = (false, frame) := by
  rw [copyBytes, copyBytes?, dif_neg misfit]

theorem fits_of_copyBytes {frame filled : Frame} {bytes : Bytes}
    (copies : frame.copyBytes bytes = (true, filled)) : bytes.size = frame.byteCount := by
  refine Decidable.byContradiction fun misfit => ?_
  rw [copyBytes_misfit frame misfit] at copies
  cases copies

/-- The bytes of a picture fill a bitmap anew: what was in it does not matter, and frames of the
same shape take the same bytes. -/
theorem copyBytes_congr {frame twin : Frame} (width : frame.width = twin.width)
    (height : frame.height = twin.height) (encoding : frame.encoding = twin.encoding)
    (size : frame.bitmap.size = twin.bitmap.size) (bytes : Bytes) :
    (∃ filled, frame.copyBytes bytes = (true, filled) ∧ twin.copyBytes bytes = (true, filled)) ∨
      frame.copyBytes bytes = (false, frame) ∧ twin.copyBytes bytes = (false, twin) := by
  have count : frame.byteCount = twin.byteCount := by
    rw [byteCount, size, byteCount]
  by_cases fits : bytes.size = frame.byteCount
  -- The shapes are equal, and only the bitmaps are left to compare, entry by entry.
  · have twin_fits := fits.trans count
    obtain ⟨w, h, e, bitmap⟩ := frame
    obtain ⟨w', h', e', bitmap'⟩ := twin
    cases width
    cases height
    cases encoding
    refine .inl ⟨_, Prod.ext (by rw [copyBytes, copyBytes?, dif_pos fits]) rfl, ?_⟩
    unfold copyBytes copyBytes?
    rw [dif_pos fits, dif_pos twin_fits]
    simp only [Prod.mk.injEq, Frame.mk.injEq, true_and]
    apply Array.ext
    · simpa only [Array.size_ofFn] using size.symm
    · intro i hi hi'
      simp only [Array.getElem_ofFn]
  · exact .inr ⟨copyBytes_misfit frame fits, copyBytes_misfit twin (count ▸ fits)⟩

end Handheld.Frame
