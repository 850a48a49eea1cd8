import Handheld.Proofs.Checked
import Handheld.Session.Lifecycle

/-!
# Which Screens Can Be Shown

The check of a screen computes with products that saturate and with products that need not exist.
What it decides is nevertheless what the unbounded products decide: `Screen.Showable` says so in
numbers, and `checked_of_showable` and `checked_of_not_showable` that the check goes by it.

Only a memory that is as long as the largest size could tell the two apart, and no host has one.
Where this matters it is the hypothesis `host`.
-/

namespace Handheld.Screen

/-! ## §1 The check -/

/-- The size of a surface for the screen, unless the screen cannot be shown. -/
def checked (screen : Screen) (scale : UInt32) (memory : Bytes) :
    Except Error (UInt32 × UInt32) :=
  if memory.size < screen.frameBytes then .error (.invalidResolution screen.width screen.height)
  else
    match screen.surfaceSize? scale with
    | none => .error (.invalidResolution screen.width screen.height)
    | some size => .ok size

/-! ## §2 What it computes

The check passes only with the exact products, as it computes them with overflow in mind. -/

variable {screen : Screen} {scale : UInt32} {size : UInt32 × UInt32} {memory : Bytes}

theorem of_scaleAxis? {axis scaled : UInt32} (h : scaleAxis? axis scale = some scaled) :
    scaled.toNat = axis.toNat * scale.toNat := by
  unfold scaleAxis? at h
  split at h
  · next fits =>
    obtain rfl := Option.some.inj h
    rw [UInt32.toNat_mul]
    exact Nat.mod_eq_of_lt fits
  · cases h

theorem of_surfaceSize? (h : screen.surfaceSize? scale = some size) :
    size.1.toNat = screen.width.toNat * scale.toNat ∧
      size.2.toNat = screen.height.toNat * scale.toNat ∧ size.1 ≠ 0 ∧ size.2 ≠ 0 := by
  obtain ⟨scaled, nonzero⟩ := Option.filter_eq_some_iff.1 h
  unfold scaled? at scaled
  obtain ⟨width, hwidth, scaled⟩ := Option.bind_eq_some_iff.1 scaled
  obtain ⟨height, hheight, scaled⟩ := Option.bind_eq_some_iff.1 scaled
  obtain rfl := Option.some.inj scaled
  have nonzero := of_decide_eq_true nonzero
  exact ⟨of_scaleAxis? hwidth, of_scaleAxis? hheight, nonzero.1, nonzero.2⟩

/-- The size that a screen is found to need. -/
theorem of_checked (h : screen.checked scale memory = .ok size) :
    screen.surfaceSize? scale = some size := by
  unfold checked at h
  split at h
  · cases h
  · split at h
    · cases h
    · next found =>
      obtain rfl := Except.ok.inj h
      exact found

/-! ## §3 What it decides

`Showable` says without the check when a screen can be shown.  The length of a picture saturates in
the check, which makes no difference for a memory that a host can have. -/

/-- A picture of the screen fits a memory of so many bytes, and each enlarged axis is a word other
than zero.  The products are those of the unbounded integers. -/
structure Showable (screen : Screen) (scale : UInt32) (size : Nat) : Prop where
  room : 4 * (screen.width.toNat * screen.height.toNat) ≤ size
  width_pos : 1 ≤ screen.width.toNat * scale.toNat
  width_lt : screen.width.toNat * scale.toNat < 2 ^ 32
  height_pos : 1 ≤ screen.height.toNat * scale.toNat
  height_lt : screen.height.toNat * scale.toNat < 2 ^ 32

/-- A product that saturates is not larger than the product itself, so a memory that is too short
for the one is too short for the other. -/
theorem lt_of_lt_frameBytes {length : Nat} (short : length < screen.frameBytes) :
    length < 4 * (screen.width.toNat * screen.height.toNat) := by
  unfold frameBytes Checked.saturatingMul bytesPerPixel at short
  generalize screen.width.toNat * screen.height.toNat = area at *
  omega

/-- A host has no memory whose length a saturated product could be mistaken for. -/
theorem lt_frameBytes_of_lt {length : Nat} (host : length ≤ Checked.maxBufferBytes)
    (short : length < 4 * (screen.width.toNat * screen.height.toNat)) :
    length < screen.frameBytes := by
  unfold frameBytes Checked.saturatingMul bytesPerPixel
  rw [Checked.maxSize_eq]
  rw [Checked.maxBufferBytes_eq] at host
  generalize screen.width.toNat * screen.height.toNat = area at *
  omega

theorem scaleAxis?_ok {axis : UInt32} (fits : axis.toNat * scale.toNat < 2 ^ 32) :
    ∃ scaled, scaleAxis? axis scale = some scaled := ⟨axis * scale, if_pos fits⟩

/-- A screen whose enlarged axes are words other than zero has a surface size. -/
theorem surfaceSize?_ok (showable : screen.Showable scale memory.size) :
    ∃ size, screen.surfaceSize? scale = some size := by
  obtain ⟨width, hwidth⟩ := scaleAxis?_ok showable.width_lt
  obtain ⟨height, hheight⟩ := scaleAxis?_ok showable.height_lt
  -- An axis that is scaled to zero would have been zero itself, or the scale would be.
  have nonzero {axis scaled : UInt32} (found : scaleAxis? axis scale = some scaled)
      (positive : 1 ≤ axis.toNat * scale.toNat) : scaled ≠ 0 := by
    rintro rfl
    rw [← of_scaleAxis? found] at positive
    exact Nat.not_lt_zero _ positive
  refine ⟨(width, height), Option.filter_eq_some_iff.2 ⟨?_, decide_eq_true ⟨?_, ?_⟩⟩⟩
  · rw [scaled?, hwidth, hheight]
    rfl
  · exact nonzero hwidth showable.width_pos
  · exact nonzero hheight showable.height_pos

/-- A screen that can be shown passes the check, which finds the exact size. -/
theorem checked_of_showable (showable : screen.Showable scale memory.size) :
    ∃ width height, screen.checked scale memory = .ok (width, height) ∧
      width.toNat = screen.width.toNat * scale.toNat ∧
      height.toNat = screen.height.toNat * scale.toNat := by
  obtain ⟨⟨width, height⟩, found⟩ := surfaceSize?_ok showable
  obtain ⟨hwidth, hheight, -⟩ := of_surfaceSize? found
  refine ⟨width, height, ?_, hwidth, hheight⟩
  unfold checked
  rw [if_neg (mt lt_of_lt_frameBytes (Nat.not_lt.2 showable.room)), found]

theorem showable_of_checked (host : memory.size ≤ Checked.maxBufferBytes)
    (h : screen.checked scale memory = .ok size) : screen.Showable scale memory.size := by
  obtain ⟨width_eq, height_eq, width_ne, height_ne⟩ := of_surfaceSize? (of_checked h)
  refine ⟨?_, width_eq ▸ Checked.toNat_pos width_ne, width_eq ▸ size.1.toNat_lt,
    height_eq ▸ Checked.toNat_pos height_ne, height_eq ▸ size.2.toNat_lt⟩
  unfold checked at h
  split at h
  · cases h
  · next room => exact Nat.not_lt.1 (mt (lt_frameBytes_of_lt host) room)

/-- A screen is refused for the one reason that there is.  This needs no bound of the memory. -/
theorem not_showable_of_checked {cause : Error} (h : screen.checked scale memory = .error cause) :
    cause = .invalidResolution screen.width screen.height ∧
      ¬ screen.Showable scale memory.size := by
  unfold checked at h
  split at h
  -- The memory is too short for the saturated length, hence for the exact one.
  · next short =>
    refine ⟨(Except.error.inj h).symm, fun showable => ?_⟩
    exact Nat.not_lt.2 showable.room (lt_of_lt_frameBytes short)
  · split at h
    -- There is no size for the surface, so one of the enlarged axes is zero or no word.
    · next none_found =>
      refine ⟨(Except.error.inj h).symm, fun showable => ?_⟩
      obtain ⟨size, found⟩ := surfaceSize?_ok showable
      cases none_found.symm.trans found
    · cases h

/-- Any other screen is refused. -/
theorem checked_of_not_showable (refused : ¬ screen.Showable scale memory.size)
    (host : memory.size ≤ Checked.maxBufferBytes) :
    screen.checked scale memory = .error (.invalidResolution screen.width screen.height) := by
  cases hchecked : screen.checked scale memory with
  | ok size => exact absurd (showable_of_checked host hchecked) refused
  | error cause => rw [(not_showable_of_checked hchecked).1]

end Handheld.Screen
