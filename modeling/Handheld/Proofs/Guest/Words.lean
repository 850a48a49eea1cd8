import Handheld.Proofs.Bench.Drawing
import Handheld.Proofs.Core.Memory

/-!
# Words and Areas of Memory

A word that has been stored can be loaded again.  Beyond that, all that matters of a change of
memory is the area it lies in: `Memory.Confined` says that memory has changed within an area only.
Words and ranges outside of the area are then as before.
-/

namespace Handheld

namespace Memory

variable {memory before after : Bytes} {start stop place : Nat}

/-! ## §1 Words

Words are loaded and stored byte by byte, the least significant first. -/

/-- The bytes of a word make up the word. -/
theorem packBytes_wordByte (word : UInt32) :
    packBytes (wordByte word 3) (wordByte word 2) (wordByte word 1) (wordByte word 0) = word := by
  -- Words are the same if all of their bits are.
  rw [← UInt32.toBitVec_inj]
  refine BitVec.eq_of_getLsbD_eq fun i hi => ?_
  -- Every bit of the word lies in one of its bytes.
  have byte : i < 8 ∨ 8 ≤ i ∧ i < 16 ∨ 16 ≤ i ∧ i < 24 ∨ 24 ≤ i := by omega
  rcases byte with first | ⟨low, high⟩ | ⟨low, high⟩ | last
  all_goals
    -- A byte is a row of bits here, and not a remainder.
    simp (disch := omega) [wordByte, packBytes, decide_eq_true, decide_eq_false,
      -UInt32.toUInt32_toUInt8]

theorem loadWord?_of_holdsPixel {b₀ b₁ b₂ b₃ : UInt8}
    (holds : Frame.HoldsPixel memory start b₀ b₁ b₂ b₃) :
    loadWord? memory start = some (packBytes b₃ b₂ b₁ b₀) := by
  unfold loadWord?
  rw [holds.red, holds.green, holds.blue, holds.alpha]
  rfl

theorem loadWord?_storeWord (word : UInt32) (inside : start + 4 ≤ memory.size) :
    loadWord? (storeWord memory start word) start = some word := by
  rw [storeWord, loadWord?_of_holdsPixel (holdsPixel_storeBytes _ _ _ _ inside),
    packBytes_wordByte]

/-- There is a word wherever there are four bytes. -/
theorem exists_loadWord? (inside : start + 4 ≤ memory.size) :
    ∃ word, loadWord? memory start = some word := by
  obtain ⟨b₀, b₁, b₂, b₃, holds⟩ := Frame.exists_holdsPixel inside
  exact ⟨_, loadWord?_of_holdsPixel holds⟩

theorem loadWord?_replicate {size : Nat} (inside : start + 4 ≤ size) :
    loadWord? (Array.replicate size 0) start = some 0 := by
  -- All four bytes are zero, and zeros make up the word zero.
  have zero : ∀ place < start + 4, (Array.replicate size (0 : UInt8))[place]? = some 0 := by
    intro place before
    rw [Array.getElem?_replicate, if_pos (by omega)]
  exact loadWord?_of_holdsPixel
    ⟨zero _ (by omega), zero _ (by omega), zero _ (by omega), zero _ (by omega)⟩

/-! ## §2 Areas

`Confined` says that bytes have changed in an area only.  It is the one fact about a write that
later proofs need: words, pixels and views outside of the area are as before. -/

/-- Memory keeps its size, and only bytes from `start` up to `stop` may have changed. -/
structure Confined (start stop : Nat) (before after : Bytes) : Prop where
  size : after.size = before.size
  bytes : ∀ place, place < start ∨ stop ≤ place → after[place]? = before[place]?

theorem Confined.refl (start stop : Nat) (memory : Bytes) : Confined start stop memory memory :=
  ⟨rfl, fun _ _ => rfl⟩

theorem Confined.trans {last : Bytes} (first : Confined start stop before after)
    (second : Confined start stop after last) : Confined start stop before last :=
  ⟨second.size.trans first.size, fun place outside =>
    (second.bytes place outside).trans (first.bytes place outside)⟩

theorem Confined.mono {lower upper : Nat} (confined : Confined start stop before after)
    (below : lower ≤ start) (above : stop ≤ upper) : Confined lower upper before after :=
  ⟨confined.size, fun place outside => confined.bytes place (by omega)⟩

theorem confined_storeWord (memory : Bytes) (start : Nat) (word : UInt32) :
    Confined start (start + 4) memory (storeWord memory start word) where
  size := size_storeBytes ..
  bytes _ outside := getElem?_storeBytes_of_outside memory _ _ _ _ outside

theorem Patched.confined {data : Bytes} (patched : Patched before start data after) :
    Confined start (start + data.size) before after := ⟨patched.size, patched.kept⟩

theorem Confined.holdsPixel {b₀ b₁ b₂ b₃ : UInt8} (confined : Confined start stop before after)
    (apart : place + 4 ≤ start ∨ stop ≤ place)
    (holds : Frame.HoldsPixel before place b₀ b₁ b₂ b₃) :
    Frame.HoldsPixel after place b₀ b₁ b₂ b₃ where
  red := (confined.bytes place (by omega)).trans holds.red
  green := (confined.bytes (place + 1) (by omega)).trans holds.green
  blue := (confined.bytes (place + 2) (by omega)).trans holds.blue
  alpha := (confined.bytes (place + 3) (by omega)).trans holds.alpha

theorem Confined.loadWord? (confined : Confined start stop before after)
    (apart : place + 4 ≤ start ∨ stop ≤ place) :
    loadWord? after place = loadWord? before place := by
  unfold Memory.loadWord?
  -- All four bytes of the word lie outside of the area.
  rw [confined.bytes (place + 3) (by omega), confined.bytes (place + 2) (by omega),
    confined.bytes (place + 1) (by omega), confined.bytes place (by omega)]

/-- Two words are stored side by side. -/
theorem confined_storeWord_storeWord (memory : Bytes) (start : Nat) (word next : UInt32) :
    Confined start (start + 8) memory
      (storeWord (storeWord memory start word) (start + 4) next) := by
  have first := confined_storeWord memory start word
  have second := confined_storeWord (storeWord memory start word) (start + 4) next
  exact (first.mono (Nat.le_refl _) (by omega)).trans (second.mono (by omega) (Nat.le_refl _))

/-- The first word stays when the second one is stored. -/
theorem loadWord?_storeWord_storeWord (word next : UInt32) (inside : start + 8 ≤ memory.size) :
    loadWord? (storeWord (storeWord memory start word) (start + 4) next) start = some word ∧
      loadWord? (storeWord (storeWord memory start word) (start + 4) next) (start + 4) =
        some next := by
  have sized := (confined_storeWord memory start word).size
  have kept := confined_storeWord (storeWord memory start word) (start + 4) next
  -- The second store does not reach the first word, because it begins behind it.
  refine ⟨(kept.loadWord? (.inl (Nat.le_refl _))).trans ?_, loadWord?_storeWord next ?_⟩
  · exact loadWord?_storeWord word (by omega)
  · rw [sized]
    omega

theorem Confined.view {addr : UInt32} {len : Nat} {bytes : Bytes}
    (confined : Confined start stop before after)
    (apart : addr.toNat + len ≤ start ∨ stop ≤ addr.toNat)
    (views : view before addr len = .ok bytes) : view after addr len = .ok bytes := by
  rw [← views]
  exact view_congr confined.size fun place _ _ => confined.bytes place (by omega)

end Memory

end Handheld
