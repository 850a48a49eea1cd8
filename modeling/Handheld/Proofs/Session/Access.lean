import Handheld.Proofs.Core.Memory
import Handheld.Session.Region

/-!
# Access to Memory Is Exact

The host reads and writes the memory of a core through `Region.viewMemory` and `Region.writeMemory`
only.  An address is a word and a length a size, and their sum may be neither.
`Region.access_exact` says that this does not matter: an access succeeds exactly if its range, in
unbounded numbers, lies inside of memory, and an access that fails has changed nothing.

What a write does is said by `Memory.Patched`.  All that a view depends on are the bytes of its
range (`Memory.view_congr`), so a write is seen by a view of its own range and by none that is apart
from it.
-/

namespace Handheld

namespace Memory

variable {before after memory data bytes : Bytes} {addr other : UInt32} {len : Nat}

/-- No place belongs to both ranges.  An empty range is apart from any other. -/
def Apart (start len start' len' : Nat) : Prop :=
  ∀ place, ¬ ((start ≤ place ∧ place < start + len) ∧ (start' ≤ place ∧ place < start' + len'))

/-- What has been written is not seen by a view of a range that is apart from it, also if the view
is refused. -/
theorem Patched.view_of_apart (patched : Patched before addr.toNat data after)
    (apart : Apart addr.toNat data.size other.toNat len) :
    Memory.view after other len = Memory.view before other len := by
  refine view_congr patched.size fun place behind inside => patched.kept place ?_
  have elsewhere := apart place
  omega

/-- A memory that a host can address is viewed exactly where the range lies inside of it. -/
theorem exists_view_iff (sized : memory.size ≤ Checked.maxSize) :
    (∃ bytes, view memory addr len = .ok bytes) ↔ addr.toNat + len ≤ memory.size := by
  constructor
  · rintro ⟨bytes, views⟩
    exact inside_of_view views
  · intro inside
    obtain ⟨bytes, views, -⟩ := view_ok (Nat.le_trans inside sized) inside
    exact ⟨bytes, views⟩

theorem exists_write_iff (sized : memory.size ≤ Checked.maxSize) :
    (∃ next, write memory addr data = .ok next) ↔ addr.toNat + data.size ≤ memory.size := by
  constructor
  · rintro ⟨next, written⟩
    exact (write_eq_ok_iff.1 written).2.inside
  · intro inside
    exact write_ok (Nat.le_trans inside sized) inside

end Memory

namespace Region

variable {σ τ : Type}

theorem run_viewMemory (addr : UInt32) (len : Nat) (rig : Rig σ τ) :
    (viewMemory addr len).run rig = .ok ⟨Memory.view rig.machine.memory addr len, rig, []⟩ := rfl

/-- A write that is granted puts the new memory in place of the old one. -/
theorem run_writeMemory {addr : UInt32} {data memory : Bytes} {rig : Rig σ τ}
    (written : Memory.write rig.machine.memory addr data = .ok memory) :
    (writeMemory addr data).run rig = .ok ⟨.ok (), { rig with machine.memory := memory }, []⟩ := by
  simp only [writeMemory, Act.run_bind, Act.memory, written]
  rfl

theorem run_writeMemory_refused {addr : UInt32} {data : Bytes} {rig : Rig σ τ} {cause : Error}
    (refused : Memory.write rig.machine.memory addr data = .error cause) :
    (writeMemory addr data).run rig = .ok ⟨.error cause, rig, []⟩ := by
  simp only [writeMemory, Act.run_bind, Act.memory, refused]
  rfl

/-- Memory that a host can address is viewed and written exactly where the range lies inside of it.
A view gives the bytes of its range and changes nothing.  A write replaces the bytes of its range by
the data and no others; a view of the range then gives the data, and a view of a range apart from it
gives what it gave before.  Any other access is answered with its range and the size of memory, and
has changed nothing. -/
theorem access_exact (rig : Rig σ τ) (sized : rig.machine.memory.size ≤ Checked.maxSize)
    (addr : UInt32) :
    (∀ len, ∃ answer, (viewMemory addr len).run rig = .ok ⟨answer, rig, []⟩ ∧
      ((∃ bytes, answer = .ok bytes) ↔ addr.toNat + len ≤ rig.machine.memory.size) ∧
      (∀ bytes, answer = .ok bytes →
        bytes.size = len ∧ ∀ place < len, bytes[place]? = rig.machine.memory[addr.toNat + place]?) ∧
      ∀ cause, answer = .error cause →
        cause = .outOfBounds addr len rig.machine.memory.size) ∧
    ∀ data : Bytes, ∃ answer after,
      (writeMemory addr data).run rig = .ok ⟨answer, after, []⟩ ∧
      (answer = .ok () ↔ addr.toNat + data.size ≤ rig.machine.memory.size) ∧
      (∀ cause, answer = .error cause →
        cause = .outOfBounds addr data.size rig.machine.memory.size ∧ after = rig) ∧
      (answer = .ok () →
        after = { rig with machine.memory := after.machine.memory } ∧
        Memory.Patched rig.machine.memory addr.toNat data after.machine.memory ∧
        (viewMemory addr data.size).run after = .ok ⟨.ok data, after, []⟩ ∧
        ∀ (other : UInt32) (len : Nat), Memory.Apart addr.toNat data.size other.toNat len →
          ∀ answer, (viewMemory other len).run rig = .ok ⟨answer, rig, []⟩ →
            (viewMemory other len).run after = .ok ⟨answer, after, []⟩) := by
  -- A view is one lookup; a write is decided by its range, and each answer has its own
  -- consequences.
  refine ⟨fun len => ⟨_, run_viewMemory addr len rig, Memory.exists_view_iff sized,
    fun _ views => ?_, fun _ refused => Memory.of_view_error refused⟩, fun data => ?_⟩
  · exact Memory.bytes_of_view views
  cases written : Memory.write rig.machine.memory addr data with
  | error cause =>
    -- A range inside of memory would have been written.
    have outside : ¬ addr.toNat + data.size ≤ rig.machine.memory.size := by
      intro inside
      obtain ⟨next, granted⟩ := (Memory.exists_write_iff sized).2 inside
      cases written.symm.trans granted
    refine ⟨_, _, run_writeMemory_refused written, ⟨nofun, fun inside => absurd inside outside⟩, ?_,
      nofun⟩
    rintro _ ⟨⟩
    exact ⟨Memory.of_write_error written, rfl⟩
  | ok memory =>
    obtain ⟨end_sized, patched⟩ := Memory.write_eq_ok_iff.1 written
    refine ⟨_, _, run_writeMemory written, ⟨fun _ => patched.inside, fun _ => rfl⟩, nofun,
      fun _ => ⟨rfl, patched, ?_, fun other len apart answer views => ?_⟩⟩
    · rw [run_viewMemory, patched.view end_sized]
    -- The view was answered out of the old memory, which differs from the new one elsewhere.
    · obtain rfl : Memory.view rig.machine.memory other len = answer :=
        (Outcome.mk.inj (Except.ok.inj views)).1
      rw [run_viewMemory, patched.view_of_apart apart]

/-- Eight bytes of memory of a core that does nothing. -/
def octet : Rig Unit Unit := ⟨⟨#[0, 1, 2, 3, 4, 5, 6, 7], ()⟩, (), {}⟩

/-- Three bytes are written in front of the last one.  The last one and an empty range right behind
memory are seen as before, and the longest range at the last address is refused. -/
theorem access_exact_of_octet :
    octet.machine.memory.size ≤ Checked.maxSize ∧
    (∃ after, (writeMemory 4 #[9, 9, 9]).run octet = .ok ⟨.ok (), after, []⟩ ∧
      after.machine.memory[5]? = some 9 ∧ after.machine.memory[7]? = some 7 ∧
      (viewMemory 7 1).run after = .ok ⟨.ok #[7], after, []⟩ ∧
      (viewMemory 8 0).run after = .ok ⟨.ok #[], after, []⟩) ∧
    (viewMemory 0xFFFFFFFF Checked.maxSize).run octet =
      .ok ⟨.error (.outOfBounds 0xFFFFFFFF Checked.maxSize 8), octet, []⟩ := by
  have sized : octet.machine.memory.size ≤ Checked.maxSize := by decide
  refine ⟨sized, ?_, ?_⟩
  · obtain ⟨answer, after, run, granted, -, writes⟩ := (access_exact octet sized 4).2 #[9, 9, 9]
    obtain rfl := granted.2 (by decide)
    obtain ⟨-, patched, -, apart⟩ := writes rfl
    -- Neither of the two ranges has a place with the written one in common.
    have last_byte : Memory.Apart 4 3 7 1 := fun place => by omega
    have no_byte : Memory.Apart 4 3 8 0 := fun place => by omega
    exact ⟨after, run, patched.written 1 (by decide), patched.kept 7 (.inr (by decide)),
      apart 7 1 last_byte _ rfl, apart 8 0 no_byte _ rfl⟩
  -- The end of this range is too large for a size.
  · obtain ⟨answer, run, granted, -, refused⟩ :=
      (access_exact octet sized 0xFFFFFFFF).1 Checked.maxSize
    cases answer with
    | ok bytes => exact absurd (granted.1 ⟨bytes, rfl⟩) (by decide)
    | error cause => rwa [refused cause rfl] at run

end Region

end Handheld
