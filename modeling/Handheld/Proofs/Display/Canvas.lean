import Handheld.Display.Canvas
import Handheld.Proofs.Picture.Blit

/-!
# Operations on Canvases

A canvas that answers a request to resize it either is left as it was or has the new size.  A
picture that fits a canvas is drawn on it, every pixel enlarged to a block.
-/

namespace Handheld.Canvas

/-- Two canvases that differ in their pixels only. -/
structure SameShape (before after : Canvas) : Prop where
  width : after.backing.width = before.backing.width
  height : after.backing.height = before.backing.height
  encoding : after.backing.encoding = before.backing.encoding
  limit : after.limit = before.limit

theorem SameShape.refl (canvas : Canvas) : SameShape canvas canvas := ⟨rfl, rfl, rfl, rfl⟩

theorem SameShape.trans {first second third : Canvas} (same : SameShape first second)
    (then_same : SameShape second third) : SameShape first third where
  width := then_same.width.trans same.width
  height := then_same.height.trans same.height
  encoding := then_same.encoding.trans same.encoding
  limit := then_same.limit.trans same.limit

theorem SameShape.size {before after : Canvas} (same : SameShape before after) :
    after.size = before.size := congrArg₂ Prod.mk same.width same.height

/-- A size that the canvas accepts is taken if a buffer can hold its pixels. -/
theorem resize_ok {canvas : Canvas} {width height : UInt32} (accepts : canvas.Accepts width height)
    (room : 4 * pixelCount width height ≤ Checked.maxBufferBytes) :
    ∃ next, canvas.resize width height = .ok (.ok (), next) := by
  obtain ⟨backing, resizes, -⟩ := Frame.resize_ok canvas.backing room
  refine ⟨{ canvas with backing := backing.clear }, ?_⟩
  unfold resize
  rw [if_pos accepts, resizes]
  rfl

/-- Any other size is refused. -/
theorem resize_refused {canvas : Canvas} {width height : UInt32}
    (refused : ¬ canvas.Accepts width height) :
    canvas.resize width height = .ok (.error (.sizeNotSupported width height), canvas) := by
  unfold resize
  rw [if_neg refused]
  rfl

/-- Resizing is all or nothing. -/
theorem of_resize {canvas next : Canvas} {width height : UInt32} {answer : Except HostError Unit}
    (h : canvas.resize width height = .ok (answer, next)) :
    (answer = .error (.sizeNotSupported width height) ∧ next = canvas) ∨
      (answer = .ok () ∧ canvas.Accepts width height ∧ next.backing.WellFormed ∧
        next.backing.width = width ∧ next.backing.height = height ∧
        next.backing.encoding = canvas.backing.encoding ∧ next.limit = canvas.limit ∧
        next.draws = canvas.draws) := by
  unfold resize at h
  split at h
  -- The size is accepted.  Either there is no buffer for it, and the run ends, or the frame has it.
  · next accepted =>
    cases hresized : canvas.backing.resize width height with
    | error fault =>
      rw [hresized] at h
      cases h
    | ok resized =>
      obtain ⟨wellFormed, hwidth, hheight, hencoding⟩ := Frame.of_resize hresized
      rw [hresized] at h
      obtain ⟨rfl, rfl⟩ := Prod.mk.inj (Except.ok.inj h)
      exact .inr ⟨rfl, accepted, Frame.wellFormed_clear wellFormed, hwidth, hheight, hencoding,
        rfl, rfl⟩
  -- The size is refused before the frame is touched.
  · obtain ⟨rfl, rfl⟩ := Prod.mk.inj (Except.ok.inj h)
    exact .inl ⟨rfl, rfl⟩

/-- A draw is answered once the sizes have been compared, and it draws if they agree. -/
theorem of_draw {canvas next : Canvas} {frame : Frame} {scale : UInt32}
    {answer : Except HostError Unit} (h : canvas.draw frame scale = .ok (answer, next)) :
    ∃ width height, Checked.mul32 frame.width scale = .ok width ∧
      Checked.mul32 frame.height scale = .ok height ∧
      (((width, height) ≠ canvas.size ∧
          answer = .error (.frameMismatch (width, height) canvas.size) ∧ next = canvas) ∨
        ((width, height) = canvas.size ∧ answer = .ok () ∧ SameShape canvas next)) := by
  unfold draw at h
  obtain ⟨width, hwidth, h⟩ := Checked.bind_eq_ok_iff.1 h
  obtain ⟨height, hheight, h⟩ := Checked.bind_eq_ok_iff.1 h
  refine ⟨width, height, hwidth, hheight, ?_⟩
  dsimp only at h
  -- The sizes agree: the picture is copied, and the draw is counted.
  split at h
  · next same =>
    obtain ⟨backing, blits, h⟩ := Checked.bind_eq_ok_iff.1 h
    obtain ⟨draws, -, h⟩ := Checked.bind_eq_ok_iff.1 h
    obtain ⟨rfl, rfl⟩ := Prod.mk.inj (Except.ok.inj h)
    obtain ⟨bitmap, rfl⟩ := Frame.of_blit blits
    exact .inr ⟨same, rfl, rfl, rfl, rfl, rfl⟩
  -- They do not agree, and nothing has happened yet.
  · next other =>
    obtain ⟨rfl, rfl⟩ := Prod.mk.inj (Except.ok.inj h)
    exact .inl ⟨other, rfl, rfl⟩

/-- A canvas that refuses a request is left as it was. -/
theorem of_refusal {canvas next : Canvas} {request : SurfaceRequest} {cause : HostError}
    (refused : request.perform canvas = .ok (.error cause, next)) : next = canvas := by
  cases request with
  | resize width height =>
    rcases of_resize refused with ⟨-, same⟩ | ⟨impossible, -⟩
    · exact same
    · cases impossible
  | draw frame scale =>
    obtain ⟨width, height, -, -, ⟨-, -, same⟩ | ⟨-, impossible, -⟩⟩ := of_draw refused
    · exact same
    · cases impossible

theorem sameShape_of_draw {canvas next : Canvas} {frame : Frame} {scale : UInt32}
    {answer : Except HostError Unit} (drawn : canvas.draw frame scale = .ok (answer, next)) :
    SameShape canvas next := by
  obtain ⟨width, height, -, -, ⟨-, -, rfl⟩ | ⟨-, -, same⟩⟩ := of_draw drawn
  · exact .refl _
  · exact same

/-- Nothing that is asked of a canvas moves its limit. -/
theorem limit_of_perform {canvas next : Canvas} {request : SurfaceRequest}
    {answer : Except HostError Unit} (performed : request.perform canvas = .ok (answer, next)) :
    next.limit = canvas.limit := by
  cases request with
  | resize width height =>
    rcases of_resize performed with ⟨-, rfl⟩ | ⟨-, -, -, -, -, -, limit, -⟩
    · rfl
    · exact limit
  | draw frame scale => exact (sameShape_of_draw performed).limit

/-- The canvas has the size of a picture that is enlarged by a factor. -/
structure Fits (canvas : Canvas) (width height scale : UInt32) : Prop where
  width : canvas.backing.width.toNat = width.toNat * scale.toNat
  height : canvas.backing.height.toNat = height.toNat * scale.toNat

theorem Fits.of_sameShape {before after : Canvas} {width height scale : UInt32}
    (fits : before.Fits width height scale) (same : SameShape before after) :
    after.Fits width height scale where
  width := same.width ▸ fits.width
  height := same.height ▸ fits.height

/-- The axes of the canvas are products of words. -/
theorem Fits.axes {canvas : Canvas} {width height scale : UInt32}
    (fits : canvas.Fits width height scale) :
    canvas.backing.width = width * scale ∧ canvas.backing.height = height * scale := by
  have product {axis enlarged : UInt32} (same : enlarged.toNat = axis.toNat * scale.toNat) :
      enlarged = axis * scale := by
    -- Taken modulo the words, the product is itself, for the axis is a word.
    rw [← UInt32.toNat_inj, UInt32.toNat_mul, ← same, Nat.mod_eq_of_lt enlarged.toNat_lt]
  exact ⟨product fits.width, product fits.height⟩

/-- The enlarged size of a picture that fits is computed in words, and it is that of the canvas. -/
theorem Fits.enlarged {canvas : Canvas} {frame : Frame} {scale : UInt32}
    (fits : canvas.Fits frame.width frame.height scale) :
    ∃ width height, Checked.mul32 frame.width scale = .ok width ∧
      Checked.mul32 frame.height scale = .ok height ∧ (width, height) = canvas.size := by
  obtain ⟨width, enlarged_width, width_eq⟩ :=
    Checked.mul32_ok (fits.width ▸ canvas.backing.width.toNat_lt)
  obtain ⟨height, enlarged_height, height_eq⟩ :=
    Checked.mul32_ok (fits.height ▸ canvas.backing.height.toNat_lt)
  refine ⟨width, height, enlarged_width, enlarged_height, ?_⟩
  have := UInt32.toNat_inj.1 (width_eq.trans fits.width.symm)
  have := UInt32.toNat_inj.1 (height_eq.trans fits.height.symm)
  unfold size
  congr

/-- A draw of a picture that fits is not refused. -/
theorem Fits.accepts {canvas next : Canvas} {frame : Frame} {scale : UInt32}
    {answer : Except HostError Unit} (fits : canvas.Fits frame.width frame.height scale)
    (drawn : canvas.draw frame scale = .ok (answer, next)) : answer = .ok () := by
  obtain ⟨width, height, hwidth, hheight, ⟨other, -, -⟩ | ⟨-, accepted, -⟩⟩ := of_draw drawn
  · -- The canvas computes the same two products.
    obtain ⟨wide, high, enlarged_width, enlarged_height, same_size⟩ := fits.enlarged
    obtain rfl := Except.ok.inj (enlarged_width.symm.trans hwidth)
    obtain rfl := Except.ok.inj (enlarged_height.symm.trans hheight)
    exact absurd same_size other
  · exact accepted

/-- A picture that fills the canvas is drawn, and the canvas shows it everywhere. -/
theorem draw_ok {canvas : Canvas} {frame : Frame} {scale : UInt32}
    (hcanvas : canvas.backing.WellFormed) (hframe : frame.WellFormed)
    (addressable : canvas.backing.Addressable) (fits : canvas.Fits frame.width frame.height scale)
    (countable : canvas.draws.toNat + 1 < 2 ^ 64) :
    ∃ next, canvas.draw frame scale = .ok (.ok (), next) ∧ next.backing.WellFormed ∧
      SameShape canvas next ∧ next.draws.toNat = canvas.draws.toNat + 1 ∧
      ∀ x y, x < canvas.backing.width.toNat → y < canvas.backing.height.toNat →
        next.backing.bitmap[y * canvas.backing.width.toNat + x]? =
          frame.bitmap[y / scale.toNat * frame.width.toNat + x / scale.toNat]? := by
  obtain ⟨width, height, enlarged_width, enlarged_height, same_size⟩ := fits.enlarged
  obtain ⟨draws, hdraws, draws_eq⟩ := Checked.next64_ok countable
  obtain ⟨bitmap, hblit, copied⟩ := Frame.blit_ok hcanvas hframe addressable
    (fits.width ▸ canvas.backing.width.toNat_lt) (fits.height ▸ canvas.backing.height.toNat_lt)
  refine ⟨{ canvas with backing := { canvas.backing with bitmap }, draws }, ?_,
    copied.size.trans hcanvas, ⟨rfl, rfl, rfl, rfl⟩, draws_eq, fun x y hx hy => ?_⟩
  -- The sizes are compared, the picture is copied, the draw is counted; none of it can fail here.
  · simp only [draw, enlarged_width, enlarged_height]
    show (if (width, height) = canvas.size then _ else _) = _
    rw [if_pos same_size, hblit]
    show (Checked.next64 canvas.draws >>= fun _ => _) = _
    rw [hdraws]
    rfl
  · -- The enlarged picture covers the whole canvas.
    have covered := copied.pixels x y hx
    rwa [← fits.width, ← fits.height, Nat.min_self, Nat.min_self, if_pos ⟨hx, hy⟩] at covered

/-- A picture that fills a canvas with a row beyond the words is not drawn: a fault ends the run,
although the size of the canvas is right. -/
theorem draw_overflow {canvas : Canvas} {frame : Frame} {scale : UInt32}
    (hcanvas : canvas.backing.WellFormed) (hframe : frame.WellFormed)
    (beyond : ¬ canvas.backing.Addressable)
    (fits : canvas.Fits frame.width frame.height scale) :
    canvas.draw frame scale = .error .overflow := by
  obtain ⟨width, height, enlarged_width, enlarged_height, same_size⟩ := fits.enlarged
  -- The canvas has a row whose place is no word, and the picture reaches it.
  obtain ⟨row, inside, far⟩ : ∃ row < canvas.backing.height.toNat,
      2 ^ 32 ≤ row * canvas.backing.width.toNat := by
    simpa [Frame.Addressable] using beyond
  have hblit := Frame.blit_overflow hcanvas hframe
    (fits.width ▸ canvas.backing.width.toNat_lt) (fits.height ▸ canvas.backing.height.toNat_lt)
    inside (fits.height ▸ inside) far
  simp only [draw, enlarged_width, enlarged_height]
  show (if (width, height) = canvas.size then _ else _) = _
  rw [if_pos same_size, hblit]
  rfl

end Handheld.Canvas
