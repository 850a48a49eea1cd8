import Handheld.Proofs.Picture.Blit
import Handheld.Proofs.Picture.Packing

/-!
# A Frame Is a Grid of Pixels

The fields of a frame are set one by one, and a point of it is found by arithmetic in words.  Under
the operations on frames nonetheless it stays a grid: `Frame.edits_keep_grid` says so of every list
of them.  One operation keeps two facts, that there is one pixel for every point and that there are
at most `2 ^ 32` points (`Frame.Sound`); whatever the operations were, a frame with these two can be
read and set at its points and nowhere else (`Frame.Sound.grid`).
-/

namespace Handheld.Frame

variable {frame next : Frame}

/-! ## §1 Operations

What can be done with a frame, as data.  An operation is admissible for what it asks for,
whatever the frame is like that it is done with; that it scales is a condition on the copied
picture alone. -/

/-- An operation on a frame. -/
inductive Edit
  | new (width height : UInt32) (encoding : PixelEncoding)
  | resize (width height : UInt32)
  | setPixel (x y : UInt32) (pixel : Pixel)
  | copyBytes (bytes : Bytes)
  | blit (source : Frame) (scale : UInt32)

def edit (frame : Frame) : Edit → Faulty Frame
  | .new width height encoding => Frame.new width height encoding
  | .resize width height => frame.resize width height
  | .setPixel x y pixel => frame.setPixel x y pixel
  | .copyBytes bytes => return (frame.copyBytes bytes).2
  | .blit source scale => frame.blit source scale

def editAll (frame : Frame) (edits : List Edit) : Faulty Frame := edits.foldlM edit frame

namespace Edit

/-- No frame gets more than `2 ^ 32` points, and no ill-formed one is copied from. -/
def Admissible : Edit → Prop
  | .new width height _ | .resize width height => pixelCount width height ≤ 2 ^ 32
  | .blit source _ => source.WellFormed
  | .setPixel .. | .copyBytes _ => True

instance : DecidablePred Admissible
  | .new .. | .resize .. => inferInstanceAs (Decidable (_ ≤ _))
  | .blit source _ => inferInstanceAs (Decidable source.WellFormed)
  | .setPixel .. | .copyBytes _ => inferInstanceAs (Decidable True)

/-- The size of a picture that is shown enlarged can be computed in words. -/
def Scales : Edit → Prop
  | .blit source scale => source.width.toNat * scale.toNat < 2 ^ 32 ∧
      source.height.toNat * scale.toNat < 2 ^ 32
  | _ => True

/-- The size that a frame is to have after an operation. -/
def size (before : UInt32 × UInt32) : Edit → UInt32 × UInt32
  | .new width height _ | .resize width height => (width, height)
  | _ => before

end Edit

/-! ## §2 One operation

`Sound` is what an operation needs and keeps.  It says nothing about single pixels. -/

/-- What every operation keeps. -/
structure Sound (frame : Frame) : Prop where
  wellFormed : frame.WellFormed
  area : pixelCount frame.width frame.height ≤ 2 ^ 32

theorem sound_empty (encoding : PixelEncoding) : (empty encoding).Sound :=
  ⟨wellFormed_empty encoding, Nat.zero_le _⟩

/-- A change of pixels only keeps what every operation keeps. -/
theorem Sound.of_same_size (sound : frame.Sound) (width : next.width = frame.width)
    (height : next.height = frame.height) (size : next.bitmap.size = frame.bitmap.size) :
    next.Sound := by
  refine ⟨?_, ?_⟩
  · rw [WellFormed, size, width, height]
    exact sound.wellFormed
  · rw [width, height]
    exact sound.area

theorem new_ok {width height : UInt32} (encoding : PixelEncoding)
    (area : pixelCount width height ≤ 2 ^ 32) :
    ∃ made, Frame.new width height encoding = .ok made ∧ made.Sound ∧
      made.width = width ∧ made.height = height := by
  refine ⟨⟨width, height, encoding, Array.replicate (pixelCount width height) 0⟩, ?_,
    ⟨Array.size_replicate, area⟩, rfl, rfl⟩
  simp only [Frame.new]
  rw [Checked.capacity_ok (room_of_area area)]
  rfl

/-- The place of a point that the frame has is one of its bitmap. -/
theorem Sound.place_lt_size (sound : frame.Sound) {x y : UInt32} (inside : frame.Contains x y) :
    y.toNat * frame.width.toNat + x.toNat < frame.bitmap.size := by
  rw [sound.wellFormed]
  exact place_lt (UInt32.lt_iff_toNat_lt.1 inside.1) (UInt32.lt_iff_toNat_lt.1 inside.2)

/-- A pixel that is set has changed at its place, and no other has. -/
theorem Sound.setPixel_inside (sound : frame.Sound) {x y : UInt32} (inside : frame.Contains x y)
    (pixel : Pixel) : ∃ next, frame.setPixel x y pixel = .ok next ∧ next.Sound ∧
      next.width = frame.width ∧ next.height = frame.height ∧
      ∀ place, next.bitmap[place]? =
        if y.toNat * frame.width.toNat + x.toNat = place then some (pixel.encode frame.encoding)
        else frame.bitmap[place]? := by
  have bound := sound.place_lt_size inside
  refine ⟨_, setPixel_ok pixel sound.area inside bound,
    sound.of_same_size rfl rfl (Array.size_set bound), rfl, rfl, fun place => ?_⟩
  exact Array.getElem?_set bound

theorem setPixel_outside {x y : UInt32} (pixel : Pixel) (outside : ¬ frame.Contains x y) :
    frame.setPixel x y pixel = .ok frame := if_neg outside

theorem getPixel_outside {x y : UInt32} (outside : ¬ frame.Contains x y) :
    frame.getPixel x y = .ok none := if_neg outside

/-- An operation that is to be carried out has a result exactly if what it enlarges can be
measured.  The result has the size that was asked for. -/
theorem Sound.edit_ok (sound : frame.Sound) {edit : Edit} (admissible : edit.Admissible)
    (scales : edit.Scales) : ∃ next, frame.edit edit = .ok next ∧ next.Sound ∧
      (next.width, next.height) = edit.size (frame.width, frame.height) := by
  cases edit with
  | new width height encoding =>
    -- What is admissible for a new frame or a new size is the area that it has then.
    obtain ⟨made, runs, made_sound, rfl, rfl⟩ := new_ok encoding admissible
    exact ⟨made, runs, made_sound, rfl⟩
  | resize width height =>
    obtain ⟨resized, runs, wellFormed, rfl, rfl, -⟩ := frame.resize_ok (room_of_area admissible)
    exact ⟨resized, runs, ⟨wellFormed, admissible⟩, rfl⟩
  | setPixel x y pixel =>
    by_cases inside : frame.Contains x y
    · obtain ⟨next, runs, next_sound, width, height, -⟩ := sound.setPixel_inside inside pixel
      refine ⟨next, runs, next_sound, ?_⟩
      rw [width, height]
      rfl
    · exact ⟨frame, setPixel_outside pixel inside, sound, rfl⟩
  | copyBytes bytes =>
    -- Bytes of another length are refused, and the frame is as it was.
    refine ⟨(frame.copyBytes bytes).2, rfl, ?_⟩
    by_cases fits : bytes.size = frame.byteCount
    · obtain ⟨bitmap, copies, -⟩ := frame.copyBytes_ok fits
      have packs := packs_of_copyBytes copies
      rw [copies]
      refine ⟨sound.of_same_size packs.width packs.height packs.size, ?_⟩
      rw [packs.width, packs.height]
      rfl
    · rw [frame.copyBytes_misfit fits]
      exact ⟨sound, rfl⟩
  | blit source scale =>
    -- A frame of this area has room in a word for the place of each row, so nothing else can fail.
    obtain ⟨bitmap, runs, copied⟩ := blit_ok sound.wellFormed admissible
      (addressable_of_area sound.area) scales.1 scales.2
    exact ⟨_, runs, sound.of_same_size rfl rfl copied.size, rfl⟩

theorem scales_of_edit {edit : Edit} (runs : frame.edit edit = .ok next) : edit.Scales := by
  cases edit with
  | blit source scale =>
    -- The two products are computed first; if one of them were no word, there would be no result.
    obtain ⟨width, columns, rest⟩ := Checked.bind_eq_ok_iff.1 runs
    obtain ⟨height, rows, -⟩ := Checked.bind_eq_ok_iff.1 rest
    exact ⟨(Checked.mul32_eq_ok_iff.1 columns).1, (Checked.mul32_eq_ok_iff.1 rows).1⟩
  | new | resize | setPixel | copyBytes => trivial

/-! ## §3 Points

`IsGrid` says what a user of a frame relies on, and it follows from `Sound` at any time. -/

/-- One pixel for every point: each can be read and set by itself, and there are no others. -/
structure IsGrid (frame : Frame) : Prop where
  size : frame.bitmap.size = frame.width.toNat * frame.height.toNat
  byteCount : frame.byteCount = 4 * frame.width.toNat * frame.height.toNat
  reads : ∀ x y, ∃ answer, frame.getPixel x y = .ok answer ∧
    (answer.isSome ↔ x < frame.width ∧ y < frame.height)
  sets : ∀ x y pixel, ∃ next, frame.setPixel x y pixel = .ok next ∧
    (x < frame.width ∧ y < frame.height →
      next.getPixel x y = .ok (some (pixel.encode frame.encoding)) ∧
      ∀ column row, (column, row) ≠ (x, y) →
        next.getPixel column row = frame.getPixel column row) ∧
    (¬ (x < frame.width ∧ y < frame.height) → next = frame)

/-- The pixel at a point of the frame is that at its place. -/
theorem Sound.getPixel_eq (sound : frame.Sound) {x y : UInt32} (inside : frame.Contains x y) :
    frame.getPixel x y = .ok frame.bitmap[y.toNat * frame.width.toNat + x.toNat]? := by
  have there := Array.getElem?_eq_getElem (sound.place_lt_size inside)
  rw [there]
  exact getPixel_ok sound.area inside there

theorem Sound.grid (sound : frame.Sound) : frame.IsGrid where
  size := sound.wellFormed
  byteCount := by rw [byteCount, sound.wellFormed, pixelCount, bytesPerPixel, Nat.mul_comm,
    Nat.mul_assoc]
  reads x y := by
    -- At a point of the frame there is a place in the bitmap, and so an answer.
    by_cases inside : frame.Contains x y
    · refine ⟨_, sound.getPixel_eq inside, ?_⟩
      rw [Array.getElem?_eq_getElem (sound.place_lt_size inside)]
      exact ⟨fun _ => inside, fun _ => rfl⟩
    · exact ⟨none, getPixel_outside inside,
        ⟨fun found => absurd found Bool.false_ne_true, fun there => absurd there inside⟩⟩
  sets x y pixel := by
    -- A pixel that is set has the size of the frame unchanged, so the points are the same ones.
    by_cases inside : frame.Contains x y
    · obtain ⟨next, runs, next_sound, width, height, pixels⟩ := sound.setPixel_inside inside pixel
      have contains {column row : UInt32} :
          next.Contains column row ↔ frame.Contains column row := by
        rw [Contains, width, height, Contains]
      refine ⟨next, runs, fun _ => ⟨?_, fun column row other => ?_⟩,
        fun outside => absurd inside outside⟩
      · rw [next_sound.getPixel_eq (contains.2 inside), pixels, width, if_pos rfl]
      · by_cases there : frame.Contains column row
        · -- A place that two points shared would make them one.
          have elsewhere : y.toNat * frame.width.toNat + x.toNat ≠
              row.toNat * frame.width.toNat + column.toNat := by
            intro same
            obtain ⟨rows, columns⟩ := place_injective (UInt32.lt_iff_toNat_lt.1 there.1)
              (UInt32.lt_iff_toNat_lt.1 inside.1) same
            obtain rfl := UInt32.toNat_inj.1 rows
            obtain rfl := UInt32.toNat_inj.1 columns
            exact other rfl
          rw [sound.getPixel_eq there, next_sound.getPixel_eq (contains.2 there), pixels, width,
            if_neg elsewhere]
        · rw [getPixel_outside there, getPixel_outside (mt contains.1 there)]
    · exact ⟨frame, setPixel_outside pixel inside, fun there => absurd there inside, fun _ => rfl⟩

/-! ## §4 Lists of operations -/

/-- From any frame that fulfils what every operation keeps. -/
theorem Sound.editAll_ok {edits : List Edit} (sound : frame.Sound)
    (admissible : ∀ edit ∈ edits, edit.Admissible) (scales : ∀ edit ∈ edits, edit.Scales) :
    ∃ last, frame.editAll edits = .ok last ∧ last.Sound ∧
      (last.width, last.height) = edits.foldl Edit.size (frame.width, frame.height) := by
  induction edits generalizing frame with
  | nil => exact ⟨frame, rfl, sound, rfl⟩
  | cons edit edits ih =>
    obtain ⟨next, runs, next_sound, size⟩ :=
      sound.edit_ok (admissible edit List.mem_cons_self) (scales edit List.mem_cons_self)
    obtain ⟨last, rest, last_sound, last_size⟩ := ih next_sound
      -- The frame that is left is sound again, so the rest of the list starts from there.
      (fun edit there => admissible edit (List.mem_cons_of_mem _ there))
      (fun edit there => scales edit (List.mem_cons_of_mem _ there))
    refine ⟨last, ?_, last_sound, ?_⟩
    · rw [editAll, List.foldlM_cons, runs]
      exact rest
    · rw [last_size, size, List.foldl_cons]

theorem scales_of_editAll {edits : List Edit} {last : Frame}
    (runs : frame.editAll edits = .ok last) : ∀ edit ∈ edits, edit.Scales := by
  induction edits generalizing frame with
  | nil => exact fun _ none => absurd none List.not_mem_nil
  | cons edit edits ih =>
    rw [editAll, List.foldlM_cons] at runs
    obtain ⟨next, first, rest⟩ := Checked.bind_eq_ok_iff.1 runs
    exact List.forall_mem_cons.2 ⟨scales_of_edit first, ih rest⟩

/-- However a frame is made, resized, drawn on and copied to, from frames that are well-formed and
never with more than `2 ^ 32` points: only a picture whose enlarged size is no word puts an end to
it.  After any of it the frame is a grid of the size that was asked for last. -/
theorem edits_keep_grid (encoding : PixelEncoding) (edits : List Edit)
    (admissible : ∀ edit ∈ edits, edit.Admissible) :
    ((∃ frame, (empty encoding).editAll edits = .ok frame) ↔ ∀ edit ∈ edits, edit.Scales) ∧
    ∀ frame, (empty encoding).editAll edits = .ok frame →
      (frame.width, frame.height) = edits.foldl Edit.size (0, 0) ∧ frame.IsGrid := by
  have ok (scales : ∀ edit ∈ edits, edit.Scales) :=
    (sound_empty encoding).editAll_ok admissible scales
  refine ⟨⟨?_, fun scales => ?_⟩, fun frame runs => ?_⟩
  · rintro ⟨frame, runs⟩
    exact scales_of_editAll runs
  -- A list that scales runs to its end; one that ran to its end has scaled.
  · obtain ⟨frame, runs, -⟩ := ok scales
    exact ⟨frame, runs⟩
  · obtain ⟨again, reruns, sound, size⟩ := ok (scales_of_editAll runs)
    obtain rfl := Except.ok.inj (runs.symm.trans reruns)
    exact ⟨size, sound.grid⟩

/-- A frame of six points that a larger picture and too few bytes are copied to, and that loses its
last column. -/
def sketch : List Edit :=
  [.new 3 2 .argb, .setPixel 2 1 (.rgb 1 2 3), .blit ⟨2, 1, .rgba, #[7, 8]⟩ 2, .copyBytes #[1, 2],
    .resize 2 2]

/-- The second row of the narrower frame begins with what was the end of the first one. -/
theorem edits_keep_grid_of_sketch :
    (∀ edit ∈ sketch, edit.Admissible) ∧ ∃ frame, (empty .rgba).editAll sketch = .ok frame ∧
      (frame.width, frame.height) = (2, 2) ∧ frame.IsGrid ∧
      frame.getPixel 0 1 = .ok (some 8) ∧ frame.getPixel 2 0 = .ok none := by
  have admissible : ∀ edit ∈ sketch, edit.Admissible := by decide
  have runs : (empty .rgba).editAll sketch = .ok ⟨2, 2, .argb, #[7, 7, 8, 7]⟩ := rfl
  obtain ⟨size, grid⟩ := (edits_keep_grid .rgba sketch admissible).2 _ runs
  exact ⟨admissible, _, runs, size, grid, rfl, rfl⟩

end Handheld.Frame
