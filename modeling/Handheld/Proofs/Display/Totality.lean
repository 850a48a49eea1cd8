import Handheld.Proofs.Display.Canvas

/-!
# Draws of Any Size

A canvas compares the size of a picture, enlarged, with its own size before it draws.  The enlarged
size is computed in words, so there are three cases, and `Canvas.draw_total` says which is which: a
picture that fills the canvas exactly is drawn, one whose enlarged size is a size of words but not
that of the canvas is refused and nothing is changed, and one whose enlarged size is too large for
the words ends the run, although no canvas has such a size.
-/

namespace Handheld.Canvas

variable {encoding : PixelEncoding} {limit : UInt32 × UInt32} {canvas next : Canvas}
  {frame : Frame} {scale : UInt32}

/-! ## §1 Canvases that come about

A canvas comes about by requests.  What is needed of it here is only that it has a pixel for each of
its points. -/

/-- What requests make of a new canvas, whether it grants them or refuses them. -/
inductive Reached (encoding : PixelEncoding) (limit : UInt32 × UInt32) : Canvas → Prop
  | new : Reached encoding limit ((Canvas.new encoding).withLimit limit.1 limit.2)
  | perform {canvas next : Canvas} {request : SurfaceRequest} {answer : Except HostError Unit}
      (reached : Reached encoding limit canvas)
      (performed : request.perform canvas = .ok (answer, next)) : Reached encoding limit next

/-- A draw leaves the canvas with a pixel for each of its points, whatever the picture is like. -/
theorem wellFormed_of_draw {answer : Except HostError Unit} (wellFormed : canvas.backing.WellFormed)
    (drawn : canvas.draw frame scale = .ok (answer, next)) : next.backing.WellFormed := by
  have same := sameShape_of_draw drawn
  unfold draw at drawn
  obtain ⟨width, -, drawn⟩ := Checked.bind_eq_ok_iff.1 drawn
  obtain ⟨height, -, drawn⟩ := Checked.bind_eq_ok_iff.1 drawn
  dsimp only at drawn
  split at drawn
  -- The sizes agree, and a copy changes the length of no bitmap.
  · obtain ⟨backing, blits, drawn⟩ := Checked.bind_eq_ok_iff.1 drawn
    obtain ⟨draws, -, drawn⟩ := Checked.bind_eq_ok_iff.1 drawn
    obtain ⟨-, rfl⟩ := Prod.mk.inj (Except.ok.inj drawn)
    have count : backing.bitmap.size = pixelCount canvas.backing.width canvas.backing.height :=
      (Frame.size_of_blit blits).trans wellFormed
    rwa [← same.width, ← same.height] at count
  · obtain ⟨-, rfl⟩ := Prod.mk.inj (Except.ok.inj drawn)
    exact wellFormed

theorem Reached.wellFormed (reached : Reached encoding limit canvas) :
    canvas.backing.WellFormed := by
  induction reached with
  | new => exact Frame.wellFormed_empty encoding
  | @perform canvas next request answer _ performed ih =>
    cases request with
    | resize width height =>
      rcases of_resize performed with ⟨-, rfl⟩ | ⟨-, -, resized, -⟩
      · exact ih
      · exact resized
    | draw frame scale => exact wellFormed_of_draw ih performed

/-! ## §2 The three cases

Which of the cases a draw is in can be told before it is made, from the sizes and the factor. -/

/-- The axes of a canvas are words, and so is what fills them. -/
theorem Fits.words {width height : UInt32} (fits : canvas.Fits width height scale) :
    width.toNat * scale.toNat < 2 ^ 32 ∧ height.toNat * scale.toNat < 2 ^ 32 :=
  ⟨fits.width ▸ UInt32.toNat_lt _, fits.height ▸ UInt32.toNat_lt _⟩

/-- The enlarged size is computed before it is compared, and each of its axes has to be a word. -/
theorem draw_beyond_words
    (beyond : 2 ^ 32 ≤ frame.width.toNat * scale.toNat ∨
      2 ^ 32 ≤ frame.height.toNat * scale.toNat) :
    canvas.draw frame scale = .error .overflow := by
  unfold draw
  -- The width is computed first; if it is a word, the height is not.
  rcases Nat.lt_or_ge (frame.width.toNat * scale.toNat) (2 ^ 32) with narrow | wide
  · obtain ⟨width, enlarged, -⟩ := Checked.mul32_ok narrow
    have high := beyond.resolve_left (Nat.not_le.2 narrow)
    rw [enlarged, Checked.mul32_error high]
    rfl
  · rw [Checked.mul32_error wide]
    rfl

/-- A picture that can be compared and has another size is refused. -/
theorem draw_misfit (narrow : frame.width.toNat * scale.toNat < 2 ^ 32)
    (low : frame.height.toNat * scale.toNat < 2 ^ 32)
    (misfit : ¬ canvas.Fits frame.width frame.height scale) :
    canvas.draw frame scale =
      .ok (.error (.frameMismatch (frame.width * scale, frame.height * scale) canvas.size),
        canvas) := by
  have width : Checked.mul32 frame.width scale = .ok (frame.width * scale) := if_pos narrow
  have height : Checked.mul32 frame.height scale = .ok (frame.height * scale) := if_pos low
  -- Words whose products are words agree exactly if the numbers do.
  have other : (frame.width * scale, frame.height * scale) ≠ canvas.size := by
    intro same
    obtain ⟨same_width, same_height⟩ := Prod.mk.inj same
    refine misfit ⟨?_, ?_⟩
    · rw [← same_width]
      exact (Checked.mul32_eq_ok_iff.1 width).2
    · rw [← same_height]
      exact (Checked.mul32_eq_ok_iff.1 height).2
  simp only [draw, width, height]
  exact if_neg other

/-- The last draw that can be counted has been counted. -/
theorem draw_uncountable (hcanvas : canvas.backing.WellFormed) (hframe : frame.WellFormed)
    (addressable : canvas.backing.Addressable) (fits : canvas.Fits frame.width frame.height scale)
    (full : 2 ^ 64 ≤ canvas.draws.toNat + 1) : canvas.draw frame scale = .error .overflow := by
  -- The comparison and the copy go through; the counter is what ends the run.
  obtain ⟨width, height, enlarged_width, enlarged_height, same_size⟩ := fits.enlarged
  obtain ⟨bitmap, blits, -⟩ := Frame.blit_ok hcanvas hframe addressable fits.words.1 fits.words.2
  simp only [draw, enlarged_width, enlarged_height]
  show (if (width, height) = canvas.size then _ else _) = _
  rw [if_pos same_size, blits]
  show (Checked.next64 canvas.draws >>= fun _ => _) = _
  rw [Checked.next64_error full]
  rfl

/-- On a canvas of at most `2 ^ 32` points a picture that fills the canvas exactly is drawn and
counted, unless no draw can be counted any more.  Another picture is refused if its enlarged size is
one of words, and the canvas is left as it was.  If it is not, the comparison itself ends the
run. -/
theorem draw_total (reached : Reached encoding limit canvas)
    (area : pixelCount canvas.backing.width canvas.backing.height ≤ 2 ^ 32)
    (hframe : frame.WellFormed) :
    (canvas.Fits frame.width frame.height scale →
      if canvas.draws.toNat + 1 < 2 ^ 64 then
        ∃ next, canvas.draw frame scale = .ok (.ok (), next) ∧ SameShape canvas next ∧
          next.draws.toNat = canvas.draws.toNat + 1
      else canvas.draw frame scale = .error .overflow) ∧
    (¬ canvas.Fits frame.width frame.height scale →
      if frame.width.toNat * scale.toNat < 2 ^ 32 ∧ frame.height.toNat * scale.toNat < 2 ^ 32 then
        canvas.draw frame scale =
          .ok (.error (.frameMismatch (frame.width * scale, frame.height * scale) canvas.size),
            canvas)
      else canvas.draw frame scale = .error .overflow) := by
  have wellFormed := reached.wellFormed
  have addressable := Frame.addressable_of_area area
  constructor
  -- The picture fills the canvas, so only the counter is left.
  · intro fits
    split
    · next countable =>
      obtain ⟨next, draws, -, same, counted, -⟩ :=
        draw_ok wellFormed hframe addressable fits countable
      exact ⟨next, draws, same, counted⟩
    · next full =>
      exact draw_uncountable wellFormed hframe addressable fits (Nat.not_lt.1 full)
  -- The picture has another size, and the canvas finds out if it can compute it.
  · intro misfit
    split
    · next words => exact draw_misfit words.1 words.2 misfit
    · next beyond =>
      apply draw_beyond_words
      omega

/-- A canvas without a limit that has been given a size. -/
def blank (width height : UInt32) : Canvas :=
  { backing := ⟨width, height, .rgba, Array.replicate (pixelCount width height) 0⟩ }

/-- Four pixels fill a canvas of four by four points when they are enlarged to two points each, and
not when they are enlarged to three. -/
theorem draw_total_of_square :
    (∃ next, (blank 4 4).draw ⟨2, 2, .rgba, #[1, 2, 3, 4]⟩ 2 = .ok (.ok (), next) ∧
        SameShape (blank 4 4) next ∧ next.draws.toNat = 1) ∧
      (blank 4 4).draw ⟨2, 2, .rgba, #[1, 2, 3, 4]⟩ 3 =
        .ok (.error (.frameMismatch (6, 6) (4, 4)), blank 4 4) := by
  have resized : (SurfaceRequest.resize 4 4).perform
      ((Canvas.new .rgba).withLimit 0xFFFFFFFF 0xFFFFFFFF) = .ok (.ok (), blank 4 4) := by
    decide +kernel
  have reached : Reached .rgba (0xFFFFFFFF, 0xFFFFFFFF) (blank 4 4) := .perform .new resized
  have twice := (@draw_total _ _ _ ⟨2, 2, .rgba, #[1, 2, 3, 4]⟩ 2 reached (by decide)
    (by decide)).1 ⟨rfl, rfl⟩
  have thrice := (@draw_total _ _ _ ⟨2, 2, .rgba, #[1, 2, 3, 4]⟩ 3 reached (by decide)
    (by decide)).2 fun fits => absurd fits.width (by decide)
  rw [if_pos (by decide)] at twice thrice
  exact ⟨twice, thrice⟩

/-- Two pixels are not the size of a canvas of one point, whatever they are enlarged to.  The canvas
does not get to say so: it computes the enlarged width first, and the run ends there. -/
theorem comparison_overflows_on_point :
    Reached .rgba (0xFFFFFFFF, 0xFFFFFFFF) (blank 1 1) ∧
      (∀ scale, ¬ (blank 1 1).Fits 2 1 scale) ∧
      (blank 1 1).draw ⟨2, 1, .rgba, #[1, 2]⟩ 0xFFFFFFFF = .error .overflow := by
  have resized : (SurfaceRequest.resize 1 1).perform
      ((Canvas.new .rgba).withLimit 0xFFFFFFFF 0xFFFFFFFF) = .ok (.ok (), blank 1 1) := by
    decide +kernel
  refine ⟨.perform .new resized, fun scale fits => ?_, ?_⟩
  · have width : 1 = 2 * scale.toNat := fits.width
    omega
  · exact draw_beyond_words (.inl (by decide))

end Handheld.Canvas
