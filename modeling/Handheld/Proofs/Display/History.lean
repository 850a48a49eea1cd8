import Handheld.Proofs.Display.Totality

/-!
# What a Canvas Has Been Through

A canvas keeps its old bitmap when it is resized, and only cuts it or extends it.  So what it shows
might depend on sizes and pictures that it has had long before.  It does not: the requests that were
granted say everything about it.

- `Canvas.resize_eq` is the whole law of a resize, and what is granted is a blank bitmap;
- `Canvas.of_granted_draw` says what a draw that is granted leaves behind;
- `Canvas.Recorded` are the canvases that come about, each with its history, and `Canvas.Reflects`
  is what the history says about one.  One request keeps it, so every history does
  (`Canvas.history_reflected`).
-/

namespace Handheld

/-- A draw is of a well-formed picture. -/
def SurfaceRequest.WellFormed : SurfaceRequest → Prop
  | .resize _ _ => True
  | .draw frame _ => frame.WellFormed

namespace Canvas

variable {encoding : PixelEncoding} {limit : UInt32 × UInt32} {canvas next : Canvas}
  {frame : Frame} {scale width height : UInt32}

/-! ## §1 Resizes

A resize goes over a frame that is cut or extended first and cleared then.  After that nothing of it
can be known but its size, so the law of a resize has the blank frame in it. -/

/-- A frame of the given size with every pixel zero. -/
def blankFrame (width height : UInt32) (encoding : PixelEncoding) : Frame :=
  ⟨width, height, encoding, Array.replicate (pixelCount width height) 0⟩

theorem wellFormed_blankFrame : (blankFrame width height encoding).WellFormed :=
  Array.size_replicate

theorem pixel?_blankFrame {x y : Nat} (hx : x < width.toNat) (hy : y < height.toNat) :
    (blankFrame width height encoding).pixel? x y = some 0 := by
  rw [Frame.pixel?_of_inside hx hy]
  exact (Array.getElem?_replicate ..).trans (if_pos (Frame.place_lt hx hy))

/-- Whatever a bitmap held before, it is blank when it has been cleared. -/
theorem clear_eq (frame : Frame) (wellFormed : frame.WellFormed) :
    frame.clear = blankFrame frame.width frame.height frame.encoding := by
  unfold Frame.clear blankFrame
  rw [← show frame.bitmap.size = pixelCount frame.width frame.height from wellFormed]
  congr
  exact Array.map_const'

/-- A size that is acceptable is granted if a host buffer can hold its pixels, and then the canvas
is blank.  If no buffer can hold them the run ends. -/
theorem resize_eq (canvas : Canvas) (width height : UInt32) :
    canvas.resize width height =
      if canvas.Accepts width height then
        if 4 * pixelCount width height ≤ Checked.maxBufferBytes then
          .ok (.ok (), { canvas with backing := blankFrame width height canvas.backing.encoding })
        else .error .capacity
      else .ok (.error (.sizeNotSupported width height), canvas) := by
  split
  · next accepts =>
    split
    · next room =>
      obtain ⟨resized, resizes, wellFormed, rfl, rfl, same⟩ :=
        Frame.resize_ok canvas.backing room
      -- The bitmap that is cleared holds pixels of the old size, but none of them outlives this.
      rw [← same, ← clear_eq resized wellFormed]
      unfold resize
      rw [if_pos accepts, resizes]
      rfl
    · next too_long =>
      unfold resize Frame.resize
      rw [if_pos accepts]
      show (Checked.capacity (4 * pixelCount width height) >>= fun _ => _) >>= _ = _
      rw [Checked.capacity, if_neg too_long]
      rfl
  · next refused => exact resize_refused refused

/-- Both axes are there, and neither is longer than the limit. -/
def Within (limit : UInt32 × UInt32) (width height : UInt32) : Prop :=
  width ≠ 0 ∧ height ≠ 0 ∧ width ≤ limit.1 ∧ height ≤ limit.2

instance : Decidable (Within limit width height) :=
  inferInstanceAs (Decidable (_ ∧ _ ∧ _ ∧ _))

theorem accepts_iff : canvas.Accepts width height ↔ Within canvas.limit width height := Iff.rfl

/-- Exactly the sizes within the limit that a host buffer can hold are granted. -/
theorem resize_granted_iff :
    canvas.resize width height = .ok (.ok (), next) ↔
      Within canvas.limit width height ∧ 4 * pixelCount width height ≤ Checked.maxBufferBytes ∧
        { canvas with backing := blankFrame width height canvas.backing.encoding } = next := by
  rw [resize_eq]
  split
  · next accepts =>
    split
    · next room => simp [accepts_iff.1 accepts, room]
    · next too_long => simp [too_long]
  · next refused => simp [mt accepts_iff.2 refused]

/-- Exactly the sizes beyond the limit are refused, and then the canvas is left as it was. -/
theorem resize_refused_iff {cause : HostError} :
    canvas.resize width height = .ok (.error cause, next) ↔
      ¬ Within canvas.limit width height ∧ .sizeNotSupported width height = cause ∧
        canvas = next := by
  rw [resize_eq]
  split
  · next accepts =>
    split <;> simp [accepts_iff.1 accepts]
  · next refused => simp [mt accepts_iff.2 refused]

/-- The sizes within the limit that no host buffer can hold end the run. -/
theorem resize_faults_iff {fault : Fault} :
    canvas.resize width height = .error fault ↔
      Within canvas.limit width height ∧ Checked.maxBufferBytes < 4 * pixelCount width height ∧
        .capacity = fault := by
  rw [resize_eq]
  split
  · next accepts =>
    split
    · next room => simp [Nat.not_lt.2 room]
    · next too_long => simp [accepts_iff.1 accepts, Nat.not_le.1 too_long]
  · next refused => simp [mt accepts_iff.2 refused]

/-! ## §2 Draws

A draw that was granted has passed its comparison and met neither of its two faults.  What it shows
is known from there. -/

/-- A picture that is drawn has been found to fill the canvas. -/
theorem fits_of_granted (drawn : canvas.draw frame scale = .ok (.ok (), next)) :
    canvas.Fits frame.width frame.height scale := by
  -- Of the two answers that a draw gets only one is a grant, and it comes after the comparison.
  obtain ⟨wide, high, hwidth, hheight, ⟨-, impossible, -⟩ | ⟨same, -, -⟩⟩ := of_draw drawn
  · cases impossible
  · obtain ⟨rfl, rfl⟩ := Prod.mk.inj same
    exact ⟨(Checked.mul32_eq_ok_iff.1 hwidth).2, (Checked.mul32_eq_ok_iff.1 hheight).2⟩

/-- After a draw that is granted the canvas shows the picture everywhere, each of its pixels
enlarged to a block, and the draw has been counted. -/
theorem of_granted_draw (hcanvas : canvas.backing.WellFormed) (hframe : frame.WellFormed)
    (drawn : canvas.draw frame scale = .ok (.ok (), next)) :
    SameShape canvas next ∧ next.draws.toNat = canvas.draws.toNat + 1 ∧
      ∀ x y, x < canvas.backing.width.toNat → y < canvas.backing.height.toNat →
        next.backing.pixel? x y = frame.pixel? (x / scale.toNat) (y / scale.toNat) := by
  have fits := fits_of_granted drawn
  -- A draw that any of the two faults had ended would not have been granted.
  have addressable : canvas.backing.Addressable := by
    refine Classical.byContradiction fun beyond => ?_
    rw [draw_overflow hcanvas hframe beyond fits] at drawn
    cases drawn
  have countable : canvas.draws.toNat + 1 < 2 ^ 64 := by
    refine Decidable.byContradiction fun full => ?_
    rw [draw_uncountable hcanvas hframe addressable fits (Nat.not_lt.1 full)] at drawn
    cases drawn
  obtain ⟨other, draws, -, same, counted, pixels⟩ :=
    draw_ok hcanvas hframe addressable fits countable
  obtain ⟨-, rfl⟩ := Prod.mk.inj (Except.ok.inj (draws.symm.trans drawn))
  refine ⟨same, counted, fun x y hx hy => ?_⟩
  -- Each point belongs to a block, and the block to a point of the picture.
  have inside_x : x / scale.toNat < frame.width.toNat := Frame.block_lt (fits.width ▸ hx)
  have inside_y : y / scale.toNat < frame.height.toNat := Frame.block_lt (fits.height ▸ hy)
  rw [Frame.pixel?_of_inside (same.width ▸ hx) (same.height ▸ hy), same.width,
    Frame.pixel?_of_inside inside_x inside_y]
  exact pixels x y hx hy

/-! ## §3 Histories

A history is read from its end: the last size that was granted, and the picture that was drawn
since.  A request adds one transaction, and there are three ways in which its answer can bear on the
canvas. -/

/-- A request to a canvas with the answer it was given. -/
structure Transaction where
  request : SurfaceRequest
  answer : Except HostError Unit

/-- The size that the canvas has been given. -/
def Transaction.size? : Transaction → Option (UInt32 × UInt32)
  | ⟨.resize width height, .ok ()⟩ => some (width, height)
  | _ => none

/-- The request is a draw that has been granted. -/
def Transaction.isDraw : Transaction → Bool
  | ⟨.draw _ _, .ok ()⟩ => true
  | _ => false

/-- The picture that is on the canvas after a transaction, and what it is enlarged by. -/
def Transaction.shown (before : Option (Frame × UInt32)) : Transaction → Option (Frame × UInt32)
  | ⟨.resize _ _, .ok ()⟩ => none
  | ⟨.draw frame scale, .ok ()⟩ => some (frame, scale)
  | ⟨_, .error _⟩ => before

/-- The size that was granted last. -/
def lastSize? (history : List Transaction) : Option (UInt32 × UInt32) :=
  (history.filterMap Transaction.size?).getLast?

/-- The picture that was drawn last, unless the canvas has been resized since. -/
def lastPicture? (history : List Transaction) : Option (Frame × UInt32) :=
  history.foldl Transaction.shown none

/-- The pixel of an enlarged picture at a point.  Where there is no picture every pixel is zero. -/
def pixelOf : (shown : Option (Frame × UInt32)) → (x y : Nat) → Option UInt32
  | none, _, _ => some 0
  | some (frame, scale), x, y => frame.pixel? (x / scale.toNat) (y / scale.toNat)

/-- The canvases that come about, each with the requests so far and their answers. -/
inductive Recorded (encoding : PixelEncoding) (limit : UInt32 × UInt32) :
    List Transaction → Canvas → Prop
  | new : Recorded encoding limit [] ((Canvas.new encoding).withLimit limit.1 limit.2)
  | perform {history : List Transaction} {canvas next : Canvas} {request : SurfaceRequest}
      {answer : Except HostError Unit} (recorded : Recorded encoding limit history canvas)
      (wellFormed : request.WellFormed) (performed : request.perform canvas = .ok (answer, next)) :
      Recorded encoding limit (history ++ [⟨request, answer⟩]) next

/-- What the history of a canvas says about it. -/
structure Reflects (encoding : PixelEncoding) (limit : UInt32 × UInt32)
    (history : List Transaction) (canvas : Canvas) : Prop where
  wellFormed : canvas.backing.WellFormed
  same_encoding : canvas.backing.encoding = encoding
  same_limit : canvas.limit = limit
  size : canvas.size = (lastSize? history).getD (0, 0)
  bounds : ∀ width height, lastSize? history = some (width, height) → Within limit width height
  draws : canvas.draws.toNat = history.countP Transaction.isDraw
  pixels : ∀ x y, x < canvas.backing.width.toNat → y < canvas.backing.height.toNat →
    canvas.backing.pixel? x y = pixelOf (lastPicture? history) x y

variable {history : List Transaction} {request : SurfaceRequest}

theorem lastSize?_concat (history : List Transaction) (transaction : Transaction) :
    lastSize? (history ++ [transaction]) = transaction.size?.or (lastSize? history) := by
  unfold lastSize?
  rw [List.filterMap_append, List.getLast?_append]
  -- A transaction that gives no size leaves the last one where it is.
  cases h : transaction.size? <;> simp [h]

theorem lastPicture?_concat (history : List Transaction) (transaction : Transaction) :
    lastPicture? (history ++ [transaction]) = transaction.shown (lastPicture? history) := by
  rw [lastPicture?, List.foldl_append]
  rfl

theorem reflects_new :
    Reflects encoding limit [] ((Canvas.new encoding).withLimit limit.1 limit.2) where
  wellFormed := Frame.wellFormed_empty encoding
  same_encoding := rfl
  same_limit := rfl
  size := rfl
  bounds := nofun
  draws := rfl
  pixels _ _ hx := absurd hx (Nat.not_lt_zero _)

/-- A refusal is in the history, but it says nothing about the canvas. -/
theorem Reflects.refused {cause : HostError} (reflects : Reflects encoding limit history canvas) :
    Reflects encoding limit (history ++ [⟨request, .error cause⟩]) canvas := by
  -- What was granted last, and what was drawn last, is what it was before.
  have size : lastSize? (history ++ [⟨request, .error cause⟩]) = lastSize? history := by
    rw [lastSize?_concat]
    cases request <;> rfl
  have picture : lastPicture? (history ++ [⟨request, .error cause⟩]) = lastPicture? history := by
    rw [lastPicture?_concat]
    cases request <;> rfl
  refine { reflects with
    size := size ▸ reflects.size
    bounds := size ▸ reflects.bounds
    draws := ?_
    pixels := picture ▸ reflects.pixels }
  rw [List.countP_append, reflects.draws]
  cases request <;> rfl

/-- A resize that is granted makes everything before it irrelevant to the size and the pixels. -/
theorem Reflects.resized (reflects : Reflects encoding limit history canvas)
    (accepts : Within canvas.limit width height) :
    Reflects encoding limit (history ++ [⟨.resize width height, .ok ()⟩])
      { canvas with backing := blankFrame width height canvas.backing.encoding } where
  wellFormed := wellFormed_blankFrame
  same_encoding := reflects.same_encoding
  same_limit := reflects.same_limit
  size := by rw [lastSize?_concat]; rfl
  bounds := by
    rw [lastSize?_concat]
    rintro _ _ ⟨⟩
    exact reflects.same_limit ▸ accepts
  draws := by rw [List.countP_append]; exact reflects.draws
  pixels x y hx hy := by rw [lastPicture?_concat]; exact pixel?_blankFrame hx hy

/-- A draw that is granted is counted, and its picture replaces the one before. -/
theorem Reflects.drawn (reflects : Reflects encoding limit history canvas)
    (hframe : frame.WellFormed) (drawn : canvas.draw frame scale = .ok (.ok (), next)) :
    Reflects encoding limit (history ++ [⟨.draw frame scale, .ok ()⟩]) next := by
  obtain ⟨same, counted, pixels⟩ := of_granted_draw reflects.wellFormed hframe drawn
  have size : lastSize? (history ++ [⟨.draw frame scale, .ok ()⟩]) = lastSize? history :=
    lastSize?_concat ..
  refine ⟨wellFormed_of_draw reflects.wellFormed drawn,
    same.encoding.trans reflects.same_encoding, same.limit.trans reflects.same_limit,
    size ▸ same.size.trans reflects.size, size ▸ reflects.bounds, ?_, fun x y hx hy => ?_⟩
  · rw [counted, reflects.draws, List.countP_append]
    rfl
  · rw [lastPicture?_concat]
    exact pixels x y (same.width ▸ hx) (same.height ▸ hy)

/-- Whatever is asked of a canvas, its history keeps saying the same about it. -/
theorem Recorded.reflects (recorded : Recorded encoding limit history canvas) :
    Reflects encoding limit history canvas := by
  induction recorded with
  | new => exact reflects_new
  | @perform history canvas next request answer _ wellFormed performed ih =>
    -- Both kinds of refusal are alike, and what is granted depends on the kind.
    cases answer with
    | error cause =>
      rw [of_refusal performed]
      exact ih.refused
    | ok =>
      cases request with
      | resize width height =>
        obtain ⟨accepts, -, rfl⟩ := resize_granted_iff.1 performed
        exact ih.resized accepts
      | draw frame scale => exact ih.drawn wellFormed performed

/-- After any requests and their answers, the size of a canvas is the one that was granted last, and
it is within the limit.  There is a pixel for each point, and it is the one of the picture that was
drawn last or, if the canvas has been resized since, zero.  The canvas counts the draws that were
granted.

Whatever the canvas has been through, a resize is granted if the size is within the limit and a host
buffer can hold its pixels, and then every pixel is zero.  A size beyond the limit is refused and
changes nothing, and one that no buffer can hold ends the run. -/
theorem history_reflected (recorded : Recorded encoding limit history canvas) :
    Reflects encoding limit history canvas ∧
      ∀ width height,
        (∀ next, canvas.resize width height = .ok (.ok (), next) ↔
          Within limit width height ∧ 4 * pixelCount width height ≤ Checked.maxBufferBytes ∧
            { canvas with backing := blankFrame width height encoding } = next) ∧
        (∀ cause next, canvas.resize width height = .ok (.error cause, next) ↔
          ¬ Within limit width height ∧ .sizeNotSupported width height = cause ∧ canvas = next) ∧
        (∀ fault, canvas.resize width height = .error fault ↔
          Within limit width height ∧ Checked.maxBufferBytes < 4 * pixelCount width height ∧
            .capacity = fault) := by
  have reflects := recorded.reflects
  refine ⟨reflects, fun width height => ?_⟩
  rw [← reflects.same_limit, ← reflects.same_encoding]
  exact ⟨fun _ => resize_granted_iff, fun _ _ => resize_refused_iff, fun _ => resize_faults_iff⟩

/-- Two pixels are drawn, the same picture is refused when it is enlarged, and the canvas grows by a
point.  Nothing of the picture is left. -/
theorem history_reflected_of_growth :
    ∃ canvas,
      Recorded .rgba (8, 8)
        [⟨.resize 2 1, .ok ()⟩, ⟨.draw ⟨2, 1, .rgba, #[5, 6]⟩ 1, .ok ()⟩,
          ⟨.draw ⟨2, 1, .rgba, #[5, 6]⟩ 2, .error (.frameMismatch (4, 2) (2, 1))⟩,
          ⟨.resize 3 1, .ok ()⟩] canvas ∧
      canvas.size = (3, 1) ∧ canvas.draws.toNat = 1 ∧
        (∀ x < 3, canvas.backing.pixel? x 0 = some 0) ∧
        canvas.resize 9 1 = .ok (.error (.sizeNotSupported 9 1), canvas) := by
  -- The three canvases that come about; a refusal leaves the second of them as it is.
  let sized : Canvas := { backing := ⟨2, 1, .rgba, #[0, 0]⟩, limit := (8, 8) }
  let drawn : Canvas := { backing := ⟨2, 1, .rgba, #[5, 6]⟩, limit := (8, 8), draws := 1 }
  let grown : Canvas := { backing := ⟨3, 1, .rgba, #[0, 0, 0]⟩, limit := (8, 8), draws := 1 }
  have first : Recorded .rgba (8, 8) [⟨.resize 2 1, .ok ()⟩] sized :=
    .perform .new trivial (by decide +kernel)
  have second : Recorded .rgba (8, 8)
      [⟨.resize 2 1, .ok ()⟩, ⟨.draw ⟨2, 1, .rgba, #[5, 6]⟩ 1, .ok ()⟩] drawn :=
    .perform first rfl (by decide +kernel)
  have third : Recorded .rgba (8, 8)
      [⟨.resize 2 1, .ok ()⟩, ⟨.draw ⟨2, 1, .rgba, #[5, 6]⟩ 1, .ok ()⟩,
        ⟨.draw ⟨2, 1, .rgba, #[5, 6]⟩ 2, .error (.frameMismatch (4, 2) (2, 1))⟩] drawn :=
    .perform second rfl (by decide +kernel)
  have fourth : Recorded .rgba (8, 8) (_ ++ [⟨.resize 3 1, .ok ()⟩]) grown :=
    .perform third trivial (by decide +kernel)
  obtain ⟨reflects, resizes⟩ := history_reflected fourth
  refine ⟨grown, fourth, reflects.size, reflects.draws, fun x hx => ?_, ?_⟩
  · exact reflects.pixels x 0 hx (by decide)
  · exact ((resizes 9 1).2.1 _ _).2 ⟨fun within => absurd within.2.2.1 (by decide), rfl, rfl⟩

/-- On a canvas without a limit every size with two axes is acceptable, but no host buffer holds the
pixels of the largest. -/
theorem acceptable_size_exceeds_buffer :
    Recorded .rgba (0xFFFFFFFF, 0xFFFFFFFF) [] (Canvas.new .rgba) ∧
      Within (0xFFFFFFFF, 0xFFFFFFFF) 0xFFFFFFFF 0xFFFFFFFF ∧
      ¬ ∃ answer next,
        (Canvas.new .rgba).resize 0xFFFFFFFF 0xFFFFFFFF = .ok (answer, next) := by
  have within : Within (0xFFFFFFFF, 0xFFFFFFFF) 0xFFFFFFFF 0xFFFFFFFF := by decide
  have faults : (Canvas.new .rgba).resize 0xFFFFFFFF 0xFFFFFFFF = .error .capacity :=
    resize_faults_iff.2 ⟨within, by decide, rfl⟩
  refine ⟨.new, within, ?_⟩
  rintro ⟨answer, next, answered⟩
  cases faults.symm.trans answered

end Canvas

end Handheld
