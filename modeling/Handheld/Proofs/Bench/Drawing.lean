import Handheld.Bench.Core
import Handheld.Proofs.Picture.Frame

/-!
# What the Bench Core Draws

A step of the bench core writes its picture behind the heap: four bytes for every point, row by
row.  The heap itself is left alone.  The proof counts the pixels that have been drawn so far;
the count goes on from one row to the next, so one invariant serves both loops.
-/

namespace Handheld

/-! ## §1 Bytes in memory

Four bytes are stored at a time.  A pixel is read back where it was stored, and pixels elsewhere
stay. -/

namespace Memory

theorem size_storeBytes (memory : Bytes) (start : Nat) (b₀ b₁ b₂ b₃ : UInt8) :
    (storeBytes memory start b₀ b₁ b₂ b₃).size = memory.size := by
  simp [storeBytes]

theorem getElem?_storeBytes_of_outside (memory : Bytes) {start place : Nat}
    (b₀ b₁ b₂ b₃ : UInt8) (outside : place < start ∨ start + 4 ≤ place) :
    (storeBytes memory start b₀ b₁ b₂ b₃)[place]? = memory[place]? := by
  unfold storeBytes
  rw [Array.getElem?_setIfInBounds_ne (by omega), Array.getElem?_setIfInBounds_ne (by omega),
    Array.getElem?_setIfInBounds_ne (by omega), Array.getElem?_setIfInBounds_ne (by omega)]

/-- Four bytes that have been stored are there. -/
theorem holdsPixel_storeBytes {memory : Bytes} {start : Nat} (b₀ b₁ b₂ b₃ : UInt8)
    (inside : start + 4 ≤ memory.size) :
    Frame.HoldsPixel (storeBytes memory start b₀ b₁ b₂ b₃) start b₀ b₁ b₂ b₃ := by
  -- Each of the four places has to be inside of memory for itself.
  have h₀ : start < memory.size := by omega
  have h₁ : start + 1 < memory.size := by omega
  have h₂ : start + 2 < memory.size := by omega
  have h₃ : start + 3 < memory.size := by omega
  constructor <;> simp [storeBytes, h₀, h₁, h₂, h₃]

/-- A pixel that does not meet the stored bytes stays. -/
theorem holdsPixel_of_apart {memory : Bytes} {start place : Nat} {red green blue alpha : UInt8}
    (b₀ b₁ b₂ b₃ : UInt8) (old : Frame.HoldsPixel memory place red green blue alpha)
    (apart : place + 4 ≤ start ∨ start + 4 ≤ place) :
    Frame.HoldsPixel (storeBytes memory start b₀ b₁ b₂ b₃) place red green blue alpha := by
  constructor
  -- None of its four places is among those that have been written.
  all_goals rw [getElem?_storeBytes_of_outside memory b₀ b₁ b₂ b₃ (by omega)]
  · exact old.red
  · exact old.green
  · exact old.blue
  · exact old.alpha

theorem size_grow (memory : Bytes) (size : Nat) :
    (grow memory size).size = max memory.size size := by
  unfold grow
  rw [Array.size_append, Array.size_replicate]
  omega

end Memory

namespace Bench

/-! ## §2 The picture

`Drawn` is the invariant of both loops: so many pixels of the picture have been drawn, counted row
by row, and everything in front of the picture is as before. -/

/-- The first pixels of the current picture have been drawn on a memory. -/
structure Drawn (bench : Bench) (before : Bytes) (count : Nat) (memory : Bytes) : Prop where
  size : memory.size = before.size
  /-- The heap is left alone. -/
  heap : ∀ place < bench.heapSize.toNat, memory[place]? = before[place]?
  pixels : ∀ x y, x < bench.screen.width.toNat → y * bench.screen.width.toNat + x < count →
    Frame.HoldsPixel memory
      (bench.heapSize.toNat + 4 * (y * bench.screen.width.toNat + x))
      bench.frames.toUInt8 (UInt8.ofNat x) (UInt8.ofNat y) 0xFF

variable {bench : Bench} {before memory : Bytes} {x y : Nat}

/-- Storing one more pixel in its place. -/
theorem Drawn.store (hx : x < bench.screen.width.toNat)
    (room : bench.heapSize.toNat + 4 * (y * bench.screen.width.toNat + x) + 4 ≤ before.size)
    (drawn : Drawn bench before (y * bench.screen.width.toNat + x) memory) :
    Drawn bench before (y * bench.screen.width.toNat + (x + 1))
      (Memory.storeBytes memory (bench.heapSize.toNat + 4 * (y * bench.screen.width.toNat + x))
        bench.frames.toUInt8 (UInt8.ofNat x) (UInt8.ofNat y) 0xFF) := by
  obtain ⟨hsize, hheap, hpixels⟩ := drawn
  have inside := hsize ▸ room
  refine ⟨(Memory.size_storeBytes ..).trans hsize, ?_, ?_⟩
  -- The heap ends before the first pixel.
  · intro place hplace
    rw [Memory.getElem?_storeBytes_of_outside memory _ _ _ _ (by omega)]
    exact hheap place hplace
  · intro column row hcolumn hplace
    rcases Nat.lt_or_ge (row * bench.screen.width.toNat + column)
      (y * bench.screen.width.toNat + x) with earlier | latest
    · -- The pixels that have been drawn before lie in front of the new one.
      have old := hpixels column row hcolumn earlier
      exact Memory.holdsPixel_of_apart _ _ _ _ old (.inl (by omega))
    · -- The only other one is the new one itself.
      have same : row * bench.screen.width.toNat + column =
          y * bench.screen.width.toNat + x := by omega
      obtain ⟨rfl, rfl⟩ := Frame.place_injective hx hcolumn same
      exact Memory.holdsPixel_storeBytes _ _ _ _ inside

/-- The next pixel of a row. -/
theorem drawPixel_ok (area : pixelCount bench.screen.width bench.screen.height ≤ 2 ^ 32)
    (room : bench.heapSize.toNat + 4 * pixelCount bench.screen.width bench.screen.height ≤
      before.size)
    (hx : x < bench.screen.width.toNat) (hy : y < bench.screen.height.toNat)
    (drawn : Drawn bench before (y * bench.screen.width.toNat + x) memory) :
    ∃ next, bench.drawPixel (UInt32.ofNat y) memory x = .ok next ∧
      Drawn bench before (y * bench.screen.width.toNat + (x + 1)) next := by
  have column : (UInt32.ofNat x).toNat = x :=
    UInt32.toNat_ofNat_of_lt' (Nat.lt_trans hx bench.screen.width.toNat_lt)
  have row : (UInt32.ofNat y).toNat = y :=
    UInt32.toNat_ofNat_of_lt' (Nat.lt_trans hy bench.screen.height.toNat_lt)
  have place := Frame.place_lt hx hy
  unfold pixelCount at area room
  -- The place of the pixel is computed in words.
  have first_bound : (UInt32.ofNat y).toNat * bench.screen.width.toNat < 2 ^ 32 := by
    rw [row]
    omega
  obtain ⟨first, hfirst, first_eq⟩ := Checked.mul32_ok first_bound
  have index_bound : first.toNat + (UInt32.ofNat x).toNat < 2 ^ 32 := by
    rw [column, first_eq, row]
    omega
  obtain ⟨index, hindex, index_eq⟩ := Checked.add32_ok index_bound
  rw [column, first_eq, row] at index_eq
  have start : bench.heapSize.toNat + index.toNat * bytesPerPixel =
      bench.heapSize.toNat + 4 * (y * bench.screen.width.toNat + x) := by
    rw [index_eq, bytesPerPixel, Nat.mul_comm]
  have inside : bench.heapSize.toNat + 4 * (y * bench.screen.width.toNat + x) + 4 ≤
      before.size := by omega
  refine ⟨_, ?_, drawn.store hx inside⟩
  -- What the code computes is this place, so its bounds check passes.
  unfold drawPixel
  rw [hfirst]
  show (do
    let place ← Checked.add32 first (UInt32.ofNat x)
    _) = _
  rw [hindex]
  show (if bench.heapSize.toNat + index.toNat * bytesPerPixel + bytesPerPixel ≤ memory.size
    then pure (Memory.storeBytes memory (bench.heapSize.toNat + index.toNat * bytesPerPixel)
      bench.frames.toUInt8 (UInt8.ofNat x) (UInt32.ofNat y).toUInt8 0xFF)
    else throw Fault.outOfRange : Faulty Bytes) = _
  have byte : (UInt32.ofNat y).toUInt8 = UInt8.ofNat y := by
    simp
  rw [start, byte, if_pos (by rw [drawn.size]; exact inside)]
  rfl

/-- The next row. -/
theorem drawRow_ok (area : pixelCount bench.screen.width bench.screen.height ≤ 2 ^ 32)
    (room : bench.heapSize.toNat + 4 * pixelCount bench.screen.width bench.screen.height ≤
      before.size)
    (hy : y < bench.screen.height.toNat)
    (drawn : Drawn bench before (y * bench.screen.width.toNat) memory) :
    ∃ next, bench.drawRow memory y = .ok next ∧
      Drawn bench before ((y + 1) * bench.screen.width.toNat) next := by
  rw [Nat.succ_mul]
  -- The invariant of the loop over a row counts on from the pixels of the rows before.
  apply Checked.loop_ok _ fun x => Drawn bench before (y * bench.screen.width.toNat + x)
  · exact drawn
  · intro x memory hx drawn
    exact drawPixel_ok area room hx hy drawn

/-- The product of the axes is always a size; only that with the bytes of a pixel may be none. -/
theorem frameBytes_eq (bench : Bench) :
    bench.frameBytes =
      Checked.size (4 * pixelCount bench.screen.width bench.screen.height) := by
  have points : bench.screen.width.toNat * bench.screen.height.toNat ≤ Checked.maxSize := by
    have product : bench.screen.width.toNat * bench.screen.height.toNat ≤
        (2 ^ 32 - 1) * (2 ^ 32 - 1) :=
      Nat.mul_le_mul (Nat.le_pred_of_lt (UInt32.toNat_lt _)) (Nat.le_pred_of_lt (UInt32.toNat_lt _))
    rw [Checked.maxSize_eq]
    omega
  unfold frameBytes Checked.mulSize
  rw [Checked.size_ok points, Nat.mul_comm 4]
  rfl

/-- The length of memory in which the picture fits behind the heap. -/
def pictureEnd (bench : Bench) : Nat :=
  bench.heapSize.toNat + 4 * pixelCount bench.screen.width bench.screen.height

/-- A picture of at most `2 ^ 32` points is drawn completely. -/
theorem drawFrame_ok (memory : Bytes)
    (area : pixelCount bench.screen.width bench.screen.height ≤ 2 ^ 32) :
    ∃ next, bench.drawFrame memory = .ok next ∧
      Drawn bench (Memory.grow memory bench.pictureEnd)
        (bench.screen.height.toNat * bench.screen.width.toNat) next := by
  have loop : ∃ next, (List.range bench.screen.height.toNat).foldlM bench.drawRow
        (Memory.grow memory bench.pictureEnd) = .ok next ∧
      Drawn bench (Memory.grow memory bench.pictureEnd)
        (bench.screen.height.toNat * bench.screen.width.toNat) next := by
    -- The invariant of the loop over the rows is that of the pixels, at the beginning of a row.
    apply Checked.loop_ok _ fun y => Drawn bench (Memory.grow memory bench.pictureEnd)
      (y * bench.screen.width.toNat)
    · -- No pixel has been drawn before the first row.
      refine ⟨rfl, fun _ _ => rfl, fun x y _ none => ?_⟩
      omega
    · intro y memory' hy drawn
      refine drawRow_ok area ?_ hy drawn
      rw [Memory.size_grow]
      exact Nat.le_max_right ..
  obtain ⟨next, hloop, drawn⟩ := loop
  refine ⟨next, ?_, drawn⟩
  -- The end of the picture is a size, and a buffer can be that long.
  have needed : Checked.addSize bench.heapSize.toNat
      (4 * pixelCount bench.screen.width bench.screen.height) = .ok bench.pictureEnd := by
    apply Checked.size_ok
    have := bench.heapSize.toNat_lt
    rw [Checked.maxSize_eq]
    omega
  have capacity : Checked.capacity bench.pictureEnd = .ok () := by
    apply Checked.capacity_ok
    have := bench.heapSize.toNat_lt
    unfold pictureEnd
    rw [Checked.maxBufferBytes_eq]
    omega
  unfold drawFrame
  rw [frameBytes_eq, Checked.size_ok (by rw [Checked.maxSize_eq]; omega)]
  show (Checked.addSize bench.heapSize.toNat _ >>= fun _ => _) = _
  rw [needed]
  show (Checked.capacity bench.pictureEnd >>= fun _ => _) = _
  rw [capacity]
  exact hloop

end Bench

end Handheld
