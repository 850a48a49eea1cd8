import Handheld.Core.Memory
import Handheld.Session.Lifecycle

/-!
# Ranges of Native Memory

An access to native memory succeeds exactly if its range lies inside of the memory.
-/

namespace Handheld

namespace Memory

/-- A range is accepted exactly if it lies inside of memory. -/
theorem range_eq_ok_iff {size len start stop : Nat} {addr : UInt32} :
    range size addr len = .ok (start, stop) ↔
      addr.toNat + len ≤ Checked.maxSize ∧ addr.toNat + len ≤ size ∧
        start = addr.toNat ∧ stop = addr.toNat + len := by
  unfold range rangeEnd?
  -- The end of the range may be no size, or it may lie outside of memory.
  by_cases sized : addr.toNat + len ≤ Checked.maxSize
  · rw [if_pos sized]
    by_cases inside : addr.toNat + len ≤ size
    · simp [sized, inside, eq_comm]
    · simp [inside]
  · rw [if_neg sized]
    simp [sized]

/-- A range that lies inside of memory can be viewed. -/
theorem view_ok {memory : Bytes} {addr : UInt32} {len : Nat}
    (sized : addr.toNat + len ≤ Checked.maxSize) (inside : addr.toNat + len ≤ memory.size) :
    ∃ bytes, view memory addr len = .ok bytes ∧ bytes.size = len ∧
      ∀ place < len, bytes[place]? = memory[addr.toNat + place]? := by
  have accepted := range_eq_ok_iff.2 ⟨sized, inside, rfl, rfl⟩
  refine ⟨memory.extract addr.toNat (addr.toNat + len), ?_, ?_, ?_⟩
  · unfold view
    rw [accepted]
  · rw [Array.size_extract]
    omega
  · intro place hplace
    rw [Array.getElem?_extract, if_pos (by omega)]

theorem view_eq_ok_iff {memory bytes : Bytes} {addr : UInt32} {len : Nat} :
    view memory addr len = .ok bytes ↔
      addr.toNat + len ≤ Checked.maxSize ∧ addr.toNat + len ≤ memory.size ∧
        bytes = memory.extract addr.toNat (addr.toNat + len) := by
  constructor
  · intro views
    unfold view at views
    split at views
    · next accepted =>
      obtain ⟨sized, inside, rfl, rfl⟩ := range_eq_ok_iff.1 accepted
      exact ⟨sized, inside, (Except.ok.inj views).symm⟩
    · cases views
  · rintro ⟨sized, inside, rfl⟩
    rw [view, range_eq_ok_iff.2 ⟨sized, inside, rfl, rfl⟩]

/-- A view depends on the size of memory and on the bytes of its range. -/
theorem view_congr {memory other : Bytes} {addr : UInt32} {len : Nat}
    (size : memory.size = other.size)
    (same : ∀ place, addr.toNat ≤ place → place < addr.toNat + len →
      memory[place]? = other[place]?) : view memory addr len = view other addr len := by
  unfold view
  rw [size]
  split
  · next accepted =>
    obtain ⟨-, inside, rfl, rfl⟩ := range_eq_ok_iff.1 accepted
    refine congrArg Except.ok (Array.ext_getElem? fun place => ?_)
    rw [Array.getElem?_extract, Array.getElem?_extract, size]
    -- Inside of the range both have the same byte, and beyond it neither has one.
    split
    · exact same _ (Nat.le_add_right ..) (by omega)
    · rfl
  · rfl

theorem inside_of_view {memory bytes : Bytes} {addr : UInt32} {len : Nat}
    (views : view memory addr len = .ok bytes) : addr.toNat + len ≤ memory.size :=
  (view_eq_ok_iff.1 views).2.1

/-- The bytes that a view gives are those of its range. -/
theorem bytes_of_view {memory bytes : Bytes} {addr : UInt32} {len : Nat}
    (views : view memory addr len = .ok bytes) :
    bytes.size = len ∧ ∀ place < len, bytes[place]? = memory[addr.toNat + place]? := by
  obtain ⟨sized, inside, -⟩ := view_eq_ok_iff.1 views
  obtain ⟨_, again, size, places⟩ := view_ok sized inside
  cases views.symm.trans again
  exact ⟨size, places⟩

/-- One memory is another with the bytes from `start` on replaced by `data`, which is all inside. -/
structure Patched (before : Bytes) (start : Nat) (data after : Bytes) : Prop where
  inside : start + data.size ≤ before.size
  size : after.size = before.size
  written : ∀ place < data.size, after[start + place]? = data[place]?
  kept : ∀ place, place < start ∨ start + data.size ≤ place → after[place]? = before[place]?

theorem patched_splice {memory data : Bytes} {start : Nat}
    (inside : start + data.size ≤ memory.size) :
    Patched memory start data (splice memory start data) where
  inside := inside
  size := by
    unfold splice
    simp only [Array.size_append, Array.size_extract]
    omega
  -- What is written begins where the part in front of it ends.
  written place hplace := by
    unfold splice
    rw [Array.getElem?_append_left (by simp only [Array.size_append, Array.size_extract]; omega),
      Array.getElem?_append_right (by simp only [Array.size_extract]; omega)]
    congr 1
    simp only [Array.size_extract]
    omega
  kept place hplace := by
    unfold splice
    rcases hplace with before | behind
    · rw [Array.getElem?_append_left (by simp only [Array.size_append, Array.size_extract]; omega),
        Array.getElem?_append_left (by simp only [Array.size_extract]; omega),
        Array.getElem?_extract, if_pos (by omega), Nat.zero_add]
    · rw [Array.getElem?_append_right
          (by simp only [Array.size_append, Array.size_extract]; omega)]
      simp only [Array.size_append, Array.size_extract, Array.getElem?_extract]
      -- The rest of the memory is behind what goes before it.
      by_cases within : place < memory.size
      · rw [if_pos (by omega)]
        congr 1
        omega
      · rw [if_neg (by omega), Array.getElem?_eq_none (by omega)]

/-- What is replaced and with what leaves nothing open. -/
theorem Patched.unique {before data after other : Bytes} {start : Nat}
    (patched : Patched before start data after) (alike : Patched before start data other) :
    after = other := by
  refine Array.ext_getElem? fun place => ?_
  -- A place is one of those that are kept or one of those that are written.
  by_cases outside : place < start ∨ start + data.size ≤ place
  · rw [patched.kept place outside, alike.kept place outside]
  · obtain ⟨offset, rfl⟩ := Nat.exists_eq_add_of_le (by omega : start ≤ place)
    rw [patched.written offset (by omega), alike.written offset (by omega)]

/-- What has been put into a memory can be seen there. -/
theorem Patched.view {before data after : Bytes} {addr : UInt32}
    (patched : Patched before addr.toNat data after)
    (sized : addr.toNat + data.size ≤ Checked.maxSize) :
    Memory.view after addr data.size = .ok data := by
  obtain ⟨bytes, views, size, places⟩ := view_ok sized (patched.size ▸ patched.inside)
  rw [views]
  refine congrArg Except.ok (Array.ext_getElem? fun place => ?_)
  -- Behind the data neither of the two has a byte.
  rcases Nat.lt_or_ge place data.size with inside | behind
  · rw [places place inside, patched.written place inside]
  · rw [Array.getElem?_eq_none (by omega), Array.getElem?_eq_none behind]

theorem write_eq_ok_iff {memory data next : Bytes} {addr : UInt32} :
    write memory addr data = .ok next ↔
      addr.toNat + data.size ≤ Checked.maxSize ∧ Patched memory addr.toNat data next := by
  constructor
  · intro written
    unfold write at written
    split at written
    · next start stop accepted =>
      obtain ⟨sized, inside, rfl, -⟩ := range_eq_ok_iff.1 accepted
      obtain rfl := Except.ok.inj written
      exact ⟨sized, patched_splice inside⟩
    · cases written
  · rintro ⟨sized, patched⟩
    unfold write
    rw [range_eq_ok_iff.2 ⟨sized, patched.inside, rfl, rfl⟩]
    exact congrArg Except.ok ((patched_splice patched.inside).unique patched)

/-- A range that lies inside of memory can be written. -/
theorem write_ok {memory data : Bytes} {addr : UInt32}
    (sized : addr.toNat + data.size ≤ Checked.maxSize)
    (inside : addr.toNat + data.size ≤ memory.size) :
    ∃ next, write memory addr data = .ok next :=
  ⟨_, write_eq_ok_iff.2 ⟨sized, patched_splice inside⟩⟩

theorem size_of_write {memory data next : Bytes} {addr : UInt32}
    (written : write memory addr data = .ok next) : next.size = memory.size :=
  (write_eq_ok_iff.1 written).2.size

/-- A range that does not lie inside of memory is refused. -/
theorem range_outside {size len : Nat} {addr : UInt32} (outside : size < addr.toNat + len) :
    range size addr len = .error (.outOfBounds addr len size) := by
  unfold range rangeEnd?
  -- It is refused at the sum if that is no size, and at the comparison otherwise.
  by_cases sized : addr.toNat + len ≤ Checked.maxSize
  · rw [if_pos sized]
    exact if_neg (Nat.not_le.2 outside)
  · rw [if_neg sized]

theorem view_outside {memory : Bytes} {addr : UInt32} {len : Nat}
    (outside : memory.size < addr.toNat + len) :
    view memory addr len = .error (.outOfBounds addr len memory.size) := by
  rw [view, range_outside outside]

theorem write_outside {memory data : Bytes} {addr : UInt32}
    (outside : memory.size < addr.toNat + data.size) :
    write memory addr data = .error (.outOfBounds addr data.size memory.size) := by
  rw [write, range_outside outside]

/-- Whatever the reason, the error names the range. -/
theorem of_range_error {size len : Nat} {addr : UInt32} {cause : Error}
    (refused : range size addr len = .error cause) : cause = .outOfBounds addr len size := by
  unfold range at refused
  split at refused
  · split at refused
    · cases refused
    · exact (Except.error.inj refused).symm
  · exact (Except.error.inj refused).symm

theorem of_view_error {memory : Bytes} {addr : UInt32} {len : Nat} {cause : Error}
    (refused : view memory addr len = .error cause) :
    cause = .outOfBounds addr len memory.size := by
  unfold view at refused
  split at refused
  · cases refused
  · next failed =>
    cases refused
    exact of_range_error failed

theorem of_write_error {memory data : Bytes} {addr : UInt32} {cause : Error}
    (refused : write memory addr data = .error cause) :
    cause = .outOfBounds addr data.size memory.size := by
  unfold write at refused
  split at refused
  · cases refused
  · next failed =>
    cases refused
    exact of_range_error failed

/-- What cannot be written does not lie inside of memory, or ends where no size reaches. -/
theorem beyond_of_write_error {memory data : Bytes} {addr : UInt32} {cause : Error}
    (refused : write memory addr data = .error cause) :
    min memory.size Checked.maxSize < addr.toNat + data.size := by
  refine Nat.lt_of_not_le fun inside => ?_
  obtain ⟨next, written⟩ := write_ok (Nat.le_trans inside (Nat.min_le_right ..))
    (Nat.le_trans inside (Nat.min_le_left ..))
  cases refused.symm.trans written

end Memory

/-- The length of a picture, if it is a size at all. -/
theorem Screen.frameBytes_eq {screen : Screen}
    (sized : 4 * pixelCount screen.width screen.height ≤ Checked.maxSize) :
    screen.frameBytes = 4 * pixelCount screen.width screen.height := by
  unfold Screen.frameBytes Checked.saturatingMul pixelCount bytesPerPixel at *
  rw [Nat.min_eq_left (by omega), Nat.min_eq_left (by omega), Nat.mul_comm]

/-- The length of a picture that a buffer can hold is exact. -/
theorem Screen.frameBytes_of_room {screen : Screen}
    (room : 4 * pixelCount screen.width screen.height ≤ Checked.maxBufferBytes) :
    screen.frameBytes = 4 * pixelCount screen.width screen.height :=
  frameBytes_eq (Nat.le_trans room (by decide))

end Handheld
