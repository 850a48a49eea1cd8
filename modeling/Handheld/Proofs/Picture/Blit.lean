import Mathlib.Data.Nat.Find
import Handheld.Picture.Blit
import Handheld.Proofs.Picture.Frame

/-!
# Scaled Copies Are Exact

A scaled copy shows at every point the pixel of the source that the point belongs to, and leaves
alone what the enlarged source does not cover (`Frame.blit_replicates`).  The proof carries one
invariant through the loop over the columns of a row and one through the loop over the rows.
-/

namespace Handheld.Frame

/-! ## §1 One row

The loop over a row, with its invariant in terms of places in the bitmaps. -/

/-- The first `columns` pixels of a row have been copied onto a bitmap. -/
structure RowCopied (source bitmap : Array UInt32) (scale sourceRow targetRow columns : Nat)
    (copied : Array UInt32) : Prop where
  size : copied.size = bitmap.size
  pixels : ∀ place, copied[place]? =
    if targetRow ≤ place ∧ place < targetRow + columns
    then source[sourceRow + (place - targetRow) / scale]? else bitmap[place]?

theorem blitPixels_ok {source bitmap : Array UInt32} {scale sourceRow targetRow columns : Nat}
    (hscale : scale ≠ 0) (hsource : ∀ x < columns, sourceRow + x / scale < source.size)
    (htarget : targetRow + columns ≤ bitmap.size) :
    ∃ copied,
      (List.range columns).foldlM (blitPixel source scale sourceRow targetRow) bitmap =
        .ok copied ∧
      RowCopied source bitmap scale sourceRow targetRow columns copied := by
  -- The invariant after `n` rounds: the first `n` pixels of the row are the source's, each of them
  -- `scale` times in a row, and nothing else of the bitmap has changed.
  apply Checked.loop_ok columns (RowCopied source bitmap scale sourceRow targetRow)
  · refine ⟨rfl, fun place => ?_⟩
    rw [if_neg (by omega)]
  -- One round writes at the place right behind the ones that are done, so the earlier pixels stay.
  · intro x copied hx before
    obtain ⟨hsize, hpixels⟩ := before
    have inside : targetRow + x < copied.size := by omega
    have there := hsource x hx
    refine ⟨copied.set (targetRow + x) source[sourceRow + x / scale], ?_, ?_, ?_⟩
    · unfold blitPixel
      rw [Checked.divSize_ok hscale]
      show (if hs : sourceRow + x / scale < source.size then _ else _) = _
      rw [dif_pos there, dif_pos inside]
      rfl
    · rw [Array.size_set, hsize]
    · intro place
      rw [Array.getElem?_set]
      split
      · -- The new pixel has its source's value.
        next here =>
        subst here
        rw [if_pos (by omega), Nat.add_sub_cancel_left]
        exact (Array.getElem?_eq_getElem _).symm
      · -- At any other place the answer is that of the loop so far.
        next elsewhere =>
        rw [hpixels]
        congr 1
        simp only [eq_iff_iff]
        omega

/-! ## §2 Whole pictures

The loop over the rows.  In between, places are turned into points: the first place of a row is a
product, which is computed in words and therefore has to be one. -/

/-- A point that the enlarged picture covers belongs to a point of the picture. -/
theorem block_lt {x columns scale : Nat} (covered : x < columns * scale) : x / scale < columns :=
  Nat.div_lt_of_lt_mul (by rwa [Nat.mul_comm])

/-- The first rows of a picture have been copied onto a frame, each as far as `columns`. -/
structure Copied (frame source : Frame) (scale columns rows : Nat) (copied : Array UInt32) :
    Prop where
  size : copied.size = frame.bitmap.size
  pixels : ∀ x y, x < frame.width.toNat → copied[y * frame.width.toNat + x]? =
    if x < columns ∧ y < rows
    then source.bitmap[y / scale * source.width.toNat + x / scale]?
    else frame.bitmap[y * frame.width.toNat + x]?

/-- One more row. -/
theorem blitRow_ok {frame source : Frame} {scale columns row : Nat} {bitmap : Array UInt32}
    (hframe : frame.WellFormed) (hsource : source.WellFormed)
    (place : row * frame.width.toNat < 2 ^ 32) (hcolumns : columns ≤ frame.width.toNat)
    (covered : columns ≤ source.width.toNat * scale)
    (hrow : row < frame.height.toNat) (row_covered : row < source.height.toNat * scale)
    (before : Copied frame source scale columns row bitmap) :
    ∃ next, blitRow source scale frame.width columns bitmap row = .ok next ∧
      Copied frame source scale columns (row + 1) next := by
  -- Without enlargement no row is covered.
  have hscale : scale ≠ 0 := by
    rintro rfl
    exact Nat.not_lt_zero row row_covered
  have word : (UInt32.ofNat row).toNat = row :=
    UInt32.toNat_ofNat_of_lt' (Nat.lt_trans hrow frame.height.toNat_lt)
  have bound : (UInt32.ofNat row).toNat * frame.width.toNat < 2 ^ 32 := by
    rw [word]
    exact place
  obtain ⟨start, hstart, hvalue⟩ := Checked.mul32_ok bound
  rw [word] at hvalue
  -- Every pixel of the row lies inside of the source and of the frame.
  have inside : ∀ x < columns, row / scale * source.width.toNat + x / scale <
      source.bitmap.size := by
    intro x hx
    rw [hsource]
    apply place_lt
    · exact block_lt (Nat.lt_of_lt_of_le hx covered)
    · exact block_lt row_covered
  have room : start.toNat + columns ≤ bitmap.size := by
    rw [before.size, hframe, pixelCount, hvalue]
    have rows : (row + 1) * frame.width.toNat ≤ frame.height.toNat * frame.width.toNat :=
      Nat.mul_le_mul_right _ hrow
    rw [Nat.succ_mul, Nat.mul_comm frame.height.toNat] at rows
    omega
  obtain ⟨next, hnext, copied⟩ := blitPixels_ok hscale inside room
  refine ⟨next, ?_, copied.size.trans before.size, fun x y hx => ?_⟩
  · unfold blitRow
    rw [Checked.divSize_ok hscale, hstart]
    exact hnext
  · rw [copied.pixels, before.pixels x y hx, hvalue]
    have here : _ ↔ y = row ∧ x < columns := place_in_row hx hcolumns
    -- The new row replaces what was there; all other places are as before.
    by_cases this_row : y = row ∧ x < columns
    · obtain ⟨rfl, hxc⟩ := this_row
      rw [if_pos (here.2 ⟨rfl, hxc⟩), if_pos ⟨hxc, Nat.lt_succ_self y⟩, Nat.add_sub_cancel_left]
    · rw [if_neg (mt here.1 this_row)]
      congr 1
      simp only [eq_iff_iff]
      omega

/-- Before the first row nothing has been copied. -/
theorem copied_nothing (frame source : Frame) (scale columns : Nat) :
    Copied frame source scale columns 0 frame.bitmap := by
  refine ⟨rfl, fun x y _ => ?_⟩
  rw [if_neg (by omega)]

/-- A copy runs over the part of the enlarged picture that lies on the frame. -/
theorem blit_eq {frame source : Frame} {scale : UInt32}
    (hwidth : source.width.toNat * scale.toNat < 2 ^ 32)
    (hheight : source.height.toNat * scale.toNat < 2 ^ 32) :
    frame.blit source scale = (do
      let bitmap ← (List.range (min (source.height.toNat * scale.toNat)
          frame.height.toNat)).foldlM
        (blitRow source scale.toNat frame.width
          (min (source.width.toNat * scale.toNat) frame.width.toNat)) frame.bitmap
      return { frame with bitmap }) := by
  obtain ⟨columns, hcolumns, columns_eq⟩ := Checked.mul32_ok hwidth
  obtain ⟨rows, hrows, rows_eq⟩ := Checked.mul32_ok hheight
  rw [← columns_eq, ← rows_eq, ← Checked.toNat_min, ← Checked.toNat_min]
  unfold blit
  rw [hcolumns, hrows]
  rfl

/-- The copy of a picture onto a frame: a point that the enlarged picture covers shows the pixel
it belongs to, any other point keeps its own. -/
theorem blit_ok {frame source : Frame} {scale : UInt32} (hframe : frame.WellFormed)
    (hsource : source.WellFormed) (addressable : frame.Addressable)
    (hwidth : source.width.toNat * scale.toNat < 2 ^ 32)
    (hheight : source.height.toNat * scale.toNat < 2 ^ 32) :
    ∃ bitmap, frame.blit source scale = .ok { frame with bitmap } ∧
      Copied frame source scale.toNat
        (min (source.width.toNat * scale.toNat) frame.width.toNat)
        (min (source.height.toNat * scale.toNat) frame.height.toNat) bitmap := by
  rw [blit_eq hwidth hheight]
  -- The picture is clipped to the frame, in both directions.
  let columns := min (source.width.toNat * scale.toNat) frame.width.toNat
  obtain ⟨bitmap, loop, copied⟩ : ∃ bitmap,
      (List.range (min (source.height.toNat * scale.toNat) frame.height.toNat)).foldlM
        (blitRow source scale.toNat frame.width columns) frame.bitmap = .ok bitmap ∧
      Copied frame source scale.toNat columns _ bitmap := by
    apply Checked.loop_ok _ _ (copied_nothing frame source scale.toNat columns)
    -- Each row is inside of the frame and covered by the picture, for the loop stops at the lesser
    -- of the two heights.
    intro row bitmap hrow before
    obtain ⟨covered, inside⟩ := Nat.lt_min.1 hrow
    exact blitRow_ok hframe hsource (addressable row inside) (Nat.min_le_right _ _)
      (Nat.min_le_left _ _) inside covered before
  exact ⟨bitmap, by rw [loop]; rfl, copied⟩

/-- A copy that ends has changed pixels only. -/
theorem of_blit {frame source drawn : Frame} {scale : UInt32}
    (blits : frame.blit source scale = .ok drawn) : ∃ bitmap, drawn = { frame with bitmap } := by
  unfold blit at blits
  obtain ⟨width, -, blits⟩ := Checked.bind_eq_ok_iff.1 blits
  obtain ⟨height, -, blits⟩ := Checked.bind_eq_ok_iff.1 blits
  obtain ⟨bitmap, -, made⟩ := Checked.bind_eq_ok_iff.1 blits
  exact ⟨bitmap, (Except.ok.inj made).symm⟩

theorem size_of_blitPixel {source bitmap next : Array UInt32} {scale sourceRow targetRow x : Nat}
    (copies : blitPixel source scale sourceRow targetRow bitmap x = .ok next) :
    next.size = bitmap.size := by
  unfold blitPixel at copies
  obtain ⟨column, -, copies⟩ := Checked.bind_eq_ok_iff.1 copies
  split at copies
  · split at copies
    · obtain rfl := Except.ok.inj copies
      exact Array.size_set ..
    · cases copies
  · cases copies

/-- A copy that ends has changed no length, whatever the source is like. -/
theorem size_of_blit {frame source drawn : Frame} {scale : UInt32}
    (blits : frame.blit source scale = .ok drawn) : drawn.bitmap.size = frame.bitmap.size := by
  unfold blit at blits
  obtain ⟨width, -, blits⟩ := Checked.bind_eq_ok_iff.1 blits
  obtain ⟨height, -, blits⟩ := Checked.bind_eq_ok_iff.1 blits
  obtain ⟨bitmap, rows, made⟩ := Checked.bind_eq_ok_iff.1 blits
  obtain rfl := Except.ok.inj made
  refine Checked.loop_keeps (fun bitmap : Array UInt32 => bitmap.size = frame.bitmap.size) ?_ rows
    rfl
  intro row before after copies same
  unfold blitRow at copies
  obtain ⟨sourceRow, -, copies⟩ := Checked.bind_eq_ok_iff.1 copies
  obtain ⟨targetRow, -, pixels⟩ := Checked.bind_eq_ok_iff.1 copies
  exact Checked.loop_keeps (fun bitmap : Array UInt32 => bitmap.size = frame.bitmap.size)
    (fun copied kept => (size_of_blitPixel copied).trans kept) pixels same

/-- A copy is cut short by the first row whose place is no word. -/
theorem blit_overflow {frame source : Frame} {scale : UInt32} (hframe : frame.WellFormed)
    (hsource : source.WellFormed) (hwidth : source.width.toNat * scale.toNat < 2 ^ 32)
    (hheight : source.height.toNat * scale.toNat < 2 ^ 32) {row : Nat}
    (inside : row < frame.height.toNat) (covered : row < source.height.toNat * scale.toNat)
    (beyond : 2 ^ 32 ≤ row * frame.width.toNat) :
    frame.blit source scale = .error .overflow := by
  rw [blit_eq hwidth hheight]
  let columns := min (source.width.toNat * scale.toNat) frame.width.toNat
  -- There is a least row whose place is no word, and the loop stops there.
  have somewhere : ∃ row, 2 ^ 32 ≤ row * frame.width.toNat := ⟨row, beyond⟩
  have first_le : Nat.find somewhere ≤ row := Nat.find_min' somewhere beyond
  have loop : (List.range (min (source.height.toNat * scale.toNat) frame.height.toNat)).foldlM
      (blitRow source scale.toNat frame.width columns) frame.bitmap = .error .overflow := by
    apply Checked.loop_error (Nat.lt_of_le_of_lt first_le (Nat.lt_min.2 ⟨covered, inside⟩)) _
      (copied_nothing frame source scale.toNat columns)
    · -- The rows before the first such one are copied.
      intro earlier bitmap before_first before
      have place := Nat.not_le.1 (Nat.find_min somewhere before_first)
      exact blitRow_ok hframe hsource place (Nat.min_le_right _ _) (Nat.min_le_left _ _)
        (by omega) (by omega) before
    -- The first such one has the product that does not fit, before a pixel of it is looked at.
    · intro bitmap _
      have hscale : scale.toNat ≠ 0 := by
        intro none
        rw [none, Nat.mul_zero] at covered
        omega
      have word : (UInt32.ofNat (Nat.find somewhere)).toNat = Nat.find somewhere :=
        UInt32.toNat_ofNat_of_lt' <|
          Nat.lt_of_le_of_lt first_le (Nat.lt_trans inside frame.height.toNat_lt)
      have stops := Checked.mul32_error (b := frame.width)
        (word.symm ▸ Nat.find_spec somewhere)
      unfold blitRow
      rw [Checked.divSize_ok hscale, stops]
      rfl
  rw [loop]
  rfl

/-! ## §3 Points

Places are left behind, and what is shown is said by points, as one would look at the two
pictures. -/

/-- What a copy shows at a point: the pixel of the source whose block the point lies in, or what
was there before if it lies in none. -/
def Shows (drawn target source : Frame) (scale x y : Nat) (pixel : UInt32) : Prop :=
  drawn.pixel? x y = some pixel ∧
    if x < source.width.toNat * scale ∧ y < source.height.toNat * scale
    then source.pixel? (x / scale) (y / scale) = some pixel
    else target.pixel? x y = some pixel

theorem Copied.shows {target source : Frame} {scale : Nat} {bitmap : Array UInt32} {x y : Nat}
    (htarget : target.WellFormed)
    (copied : Copied target source scale (min (source.width.toNat * scale) target.width.toNat)
      (min (source.height.toNat * scale) target.height.toNat) bitmap)
    (hx : x < target.width.toNat) (hy : y < target.height.toNat) :
    ∃ pixel, Shows { target with bitmap } target source scale x y pixel := by
  let drawn : Frame := { target with bitmap }
  have drawn_x : x < drawn.width.toNat := hx
  have drawn_y : y < drawn.height.toNat := hy
  have wellFormed : drawn.WellFormed := copied.size.trans htarget
  obtain ⟨pixel, hpixel⟩ := exists_pixel? wellFormed drawn_x drawn_y
  refine ⟨pixel, hpixel, ?_⟩
  -- On the target the clipped picture covers what the whole one covers.
  have here : bitmap[y * target.width.toNat + x]? = _ := copied.pixels x y hx
  simp only [Nat.lt_min, hx, hy, and_true] at here
  have place := (pixel?_of_inside drawn_x drawn_y).symm.trans hpixel
  split at here
  · next covered =>
    rw [if_pos covered, pixel?_of_inside (block_lt covered.1) (block_lt covered.2)]
    exact here.symm.trans place
  · next uncovered =>
    rw [if_neg uncovered, pixel?_of_inside hx hy]
    exact here.symm.trans place

/-- A copy onto a target of at most `2 ^ 32` points has a result, for every scale.  It changes
pixels only, and at every point of the target the one that is read then is that of the block. -/
theorem blit_replicates {target source : Frame} {scale : UInt32} (htarget : target.WellFormed)
    (hsource : source.WellFormed) (hwidth : source.width.toNat * scale.toNat < 2 ^ 32)
    (hheight : source.height.toNat * scale.toNat < 2 ^ 32)
    (area : pixelCount target.width target.height ≤ 2 ^ 32) :
    ∃ drawn, target.blit source scale = .ok drawn ∧
      drawn.width = target.width ∧ drawn.height = target.height ∧
      drawn.encoding = target.encoding ∧ drawn.bitmap.size = target.bitmap.size ∧
      ∀ x y, target.Contains x y → ∃ pixel,
        drawn.getPixel x y = .ok (some pixel) ∧
        Shows drawn target source scale.toNat x.toNat y.toNat pixel := by
  obtain ⟨bitmap, blits, copied⟩ :=
    blit_ok htarget hsource (addressable_of_area area) hwidth hheight
  refine ⟨{ target with bitmap }, blits, rfl, rfl, rfl, copied.size, fun x y inside => ?_⟩
  obtain ⟨pixel, shows⟩ := copied.shows htarget (UInt32.lt_iff_toNat_lt.1 inside.1)
    (UInt32.lt_iff_toNat_lt.1 inside.2)
  exact ⟨pixel, getPixel_of_pixel? area inside shows.1, shows⟩

/-- The second block of the source is cut off on the right, and the last row is not covered. -/
theorem blit_replicates_of_clipped :
    ∃ drawn, Frame.blit ⟨3, 3, .rgba, Array.replicate 9 7⟩ ⟨2, 1, .rgba, #[1, 2]⟩ 2 = .ok drawn ∧
      drawn.getPixel 1 1 = .ok (some 1) ∧ drawn.getPixel 2 1 = .ok (some 2) ∧
      drawn.getPixel 2 2 = .ok (some 7) := by
  obtain ⟨drawn, blits, -, -, -, -, points⟩ :=
    @blit_replicates ⟨3, 3, .rgba, Array.replicate 9 7⟩ ⟨2, 1, .rgba, #[1, 2]⟩ 2
      (by decide) (by decide) (by decide) (by decide) (by decide)
  obtain ⟨first, hfirst, -, from_first⟩ := points 1 1 (by decide)
  obtain ⟨second, hsecond, -, from_second⟩ := points 2 1 (by decide)
  obtain ⟨below, hbelow, -, from_target⟩ := points 2 2 (by decide)
  obtain rfl : 1 = first := Option.some.inj from_first
  obtain rfl : 2 = second := Option.some.inj from_second
  obtain rfl : 7 = below := Option.some.inj from_target
  exact ⟨drawn, blits, hfirst, hsecond, hbelow⟩

end Handheld.Frame
