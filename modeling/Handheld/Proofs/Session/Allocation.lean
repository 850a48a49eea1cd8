import Handheld.Proofs.Checked
import Handheld.Proofs.Core.Memory
import Handheld.Proofs.Session.Continuation
import Handheld.Proofs.Session.Moves

/-!
# Allocation

An allocation asks the core for a block and copies bytes into it.  It is exact: `Allocation` lists
what can come of it, for each case with the calls that were made and the rig that they leave, and
`Region.allocate_exact` says that nothing else can.  And it is all or nothing.  Either all of the
block is written and nothing outside of it, or the machine is left as the core left it; then a block
that was handed out in a wrong place has been given back.
-/

namespace Handheld.Region

open Act

variable {σ τ : Type} [NativeCore σ] {bytes : Bytes} {rig after : Rig σ τ}
  {value : Except Error Region} {calls : List Entry} {fault : Fault}

/-! ## §1 What can come of an allocation

An allocation makes two calls at most.  `Allocation` has one constructor for each outcome, and
`Breakdown` one for each call that may end in a fault; the cases of the proof are those of the
program. -/

/-- The outcomes of an allocation, each with the calls made for it. -/
inductive Allocation (bytes : Bytes) (rig : Rig σ τ) :
    Except Error Region → Rig σ τ → List Entry → Prop
  /-- No word can tell the length. -/
  | tooLong (long : UInt32.size ≤ bytes.size) :
      Allocation bytes rig (.error (.outOfMemory bytes.size)) rig []
  /-- The call for a block failed. -/
  | refused {cause : Error} {machine : Machine σ} (short : bytes.size < UInt32.size)
      (answered : NativeCore.answer (.malloc (.ofNat bytes.size)) rig.machine =
        .ok (.error cause, machine)) :
      Allocation bytes rig (.error cause) { rig with machine }
        [.native (.malloc (.ofNat bytes.size)) (.error cause)]
  /-- The core has no block of this length. -/
  | exhausted {machine : Machine σ} (short : bytes.size < UInt32.size)
      (answered : NativeCore.answer (.malloc (.ofNat bytes.size)) rig.machine =
        .ok (.ok 0, machine)) :
      Allocation bytes rig (.error (.outOfMemory bytes.size)) { rig with machine }
        [.native (.malloc (.ofNat bytes.size)) (.ok 0)]
  | filled {region : Region} {machine : Machine σ} {memory : Bytes}
      (answered : NativeCore.answer (.malloc (.ofNat bytes.size)) rig.machine =
        .ok (.ok region.addr, machine))
      (exact_len : region.len.toNat = bytes.size)
      (patched : Memory.Patched machine.memory region.addr.toNat bytes memory) :
      Allocation bytes rig (.ok region) { rig with machine := { machine with memory } }
        [.native (.malloc (.ofNat bytes.size)) (.ok region.addr)]
  /-- The block is not inside of memory.  It is given back, whatever is answered to that. -/
  | misplaced {addr : UInt32} {machine last : Machine σ} {answer : Except Error Unit}
      (short : bytes.size < UInt32.size)
      (answered : NativeCore.answer (.malloc (.ofNat bytes.size)) rig.machine =
        .ok (.ok addr, machine))
      (handed_out : addr ≠ 0) (outside : machine.memory.size < addr.toNat + bytes.size)
      (returned : NativeCore.answer (.free addr) machine = .ok (answer, last)) :
      Allocation bytes rig (.error (.outOfBounds addr bytes.size machine.memory.size))
        { rig with machine := last }
        [.native (.malloc (.ofNat bytes.size)) (.ok addr), .native (.free addr) answer]

/-- The calls of an allocation that the core does not survive. -/
inductive Breakdown (bytes : Bytes) (rig : Rig σ τ) (fault : Fault) : Prop
  | asking (short : bytes.size < UInt32.size)
      (cut : NativeCore.answer (.malloc (.ofNat bytes.size)) rig.machine = .error fault)
  | returning {addr : UInt32} {machine : Machine σ} (short : bytes.size < UInt32.size)
      (answered : NativeCore.answer (.malloc (.ofNat bytes.size)) rig.machine =
        .ok (.ok addr, machine))
      (handed_out : addr ≠ 0) (outside : machine.memory.size < addr.toNat + bytes.size)
      (cut : NativeCore.answer (.free addr) machine = .error fault)

/-- There is no other case. -/
theorem allocation_or_breakdown (bytes : Bytes) (rig : Rig σ τ) :
    (∃ value after calls, Allocation bytes rig value after calls) ∨
      ∃ fault, Breakdown bytes rig fault := by
  -- The cases follow the program: the length, the answer of the core, the address, the range.
  rcases Nat.lt_or_ge bytes.size UInt32.size with short | long
  · cases answered : NativeCore.answer (.malloc (.ofNat bytes.size)) rig.machine with
    | error fault => exact .inr ⟨fault, .asking short answered⟩
    | ok reply =>
      obtain ⟨_ | addr, machine⟩ := reply
      · exact .inl ⟨_, _, _, .refused short answered⟩
      · by_cases null : addr = 0
        · subst null
          exact .inl ⟨_, _, _, .exhausted short answered⟩
        · rcases Nat.lt_or_ge machine.memory.size (addr.toNat + bytes.size) with outside | inside
          -- A block outside of memory is given back, which the core may answer with a fault.
          · cases returned : NativeCore.answer (.free addr) machine with
            | error fault => exact .inr ⟨fault, .returning short answered null outside returned⟩
            | ok reply => exact .inl ⟨_, _, _, .misplaced short answered null outside returned⟩
          -- Any other address, with the length, is the block.
          · obtain ⟨region, rfl, exact_len⟩ :
                ∃ region : Region, region.addr = addr ∧ region.len.toNat = bytes.size :=
              ⟨⟨addr, .ofNat bytes.size, null⟩, rfl, UInt32.toNat_ofNat_of_lt' short⟩
            exact .inl ⟨_, _, _, .filled answered exact_len (Memory.patched_splice inside)⟩
  · exact .inl ⟨_, _, _, .tooLong long⟩

/-! ## §2 Each of them comes about

The listed outcomes are executed, and since an act gives one thing only, there are no others. -/

/-- The rest of an allocation for which a block has been handed out. -/
theorem allocate_comesTo_fill {addr : UInt32} {machine : Machine σ}
    (short : bytes.size < UInt32.size)
    (answered : NativeCore.answer (.malloc (.ofNat bytes.size)) rig.machine =
      .ok (.ok addr, machine)) (handed_out : addr ≠ 0) :
    (allocate bytes : Act σ τ _).ComesTo rig
      [.native (.malloc (.ofNat bytes.size)) (.ok addr)]
      (fill ⟨addr, .ofNat bytes.size, handed_out⟩ bytes) { rig with machine } := by
  have region : ofAddress? addr (.ofNat bytes.size) = some ⟨addr, .ofNat bytes.size, handed_out⟩ :=
    dif_neg handed_out
  unfold allocate
  rw [if_pos short]
  refine (gives_ask answered).bind_comesTo ?_
  dsimp only
  rw [region]
  exact comesTo_self _ _

/-- Where the bytes fit they are written. -/
theorem gives_fill {region : Region} {memory : Bytes}
    (written : Memory.write rig.machine.memory region.addr bytes = .ok memory) :
    (region.fill bytes : Act σ τ _).Gives rig (.ok region)
      { rig with machine.memory := memory } [] :=
  (gives_writeMemory written).quietly ((gives_note _ _).quietly (gives_pure _ _))

/-- Where they do not, the block is given back and nothing else is done. -/
theorem fill_comesTo_free {region : Region}
    (outside : rig.machine.memory.size < region.addr.toNat + bytes.size) :
    (region.fill bytes : Act σ τ _).ComesTo rig [] (do
      let freed ← ask (.free region.addr)
      noteError freed (.freeFailed region.addr)
      return .error (.outOfBounds region.addr bytes.size rig.machine.memory.size)) rig :=
  (gives_writeMemory_refused (Memory.write_outside outside)).bind_comesTo (comesTo_self _ _)

/-- The end of a block is a size, whatever its address and its length are. -/
theorem sized_of_len {region : Region} (exact_len : region.len.toNat = bytes.size) :
    region.addr.toNat + bytes.size ≤ Checked.maxSize := by
  have addr_lt := region.addr.toNat_lt
  have len_lt := region.len.toNat_lt
  rw [Checked.maxSize_eq]
  omega

theorem Allocation.gives (allocation : Allocation bytes rig value after calls) :
    (allocate bytes).Gives rig value after calls := by
  cases allocation with
  | tooLong long =>
    unfold allocate
    rw [if_neg (Nat.not_lt.2 long)]
    exact gives_pure _ _
  | refused short answered =>
    unfold allocate
    rw [if_pos short]
    exact (gives_ask answered).first (gives_pure _ _)
  | exhausted short answered =>
    unfold allocate
    rw [if_pos short]
    exact (gives_ask answered).first (gives_pure _ _)
  | @filled region machine memory answered exact_len patched =>
    -- The length of the block is the length of the bytes, hence a word.
    have short : bytes.size < UInt32.size := exact_len ▸ region.len.toNat_lt
    have same : (⟨region.addr, .ofNat bytes.size, region.addr_ne_zero⟩ : Region) = region := by
      rw [← exact_len, UInt32.ofNat_toNat]
    have comes := allocate_comesTo_fill short answered region.addr_ne_zero
    rw [same] at comes
    exact comes.gives (gives_fill (Memory.write_eq_ok_iff.2 ⟨sized_of_len exact_len, patched⟩))
  | misplaced short answered handed_out outside returned =>
    have comes := allocate_comesTo_fill short answered handed_out
    refine (comes.trans (fill_comesTo_free outside)).gives ?_
    exact (gives_ask returned).first ((gives_noteError _ _ _).quietly (gives_pure _ _))

theorem Breakdown.faults (breakdown : Breakdown bytes rig fault) :
    (allocate bytes).Faults rig fault := by
  cases breakdown with
  | asking short cut =>
    unfold allocate
    rw [if_pos short]
    exact (faults_ask cut).bind
  | returning short answered handed_out outside cut =>
    have comes := allocate_comesTo_fill short answered handed_out
    exact (comes.trans (fill_comesTo_free outside)).faults (faults_ask cut).bind

theorem allocation_of_gives (gives : (allocate bytes).Gives rig value after calls) :
    Allocation bytes rig value after calls := by
  rcases allocation_or_breakdown bytes rig with ⟨_, _, _, allocation⟩ | ⟨_, breakdown⟩
  · obtain ⟨rfl, rfl, rfl⟩ := gives.unique allocation.gives
    exact allocation
  · exact absurd breakdown.faults gives.not_faults

/-- What has been allocated holds the bytes. -/
theorem view_of_gives {region : Region}
    (gives : (allocate bytes).Gives rig (.ok region) after calls) :
    Memory.view after.machine.memory region.addr region.len.toNat = .ok bytes := by
  cases allocation_of_gives gives with
  | filled answered exact_len patched =>
    rw [exact_len]
    exact patched.view (sized_of_len exact_len)

theorem breakdown_of_faults (faults : (allocate bytes).Faults rig fault) :
    Breakdown bytes rig fault := by
  rcases allocation_or_breakdown bytes rig with ⟨_, _, _, allocation⟩ | ⟨_, breakdown⟩
  · exact absurd faults allocation.gives.not_faults
  · obtain rfl := faults.unique breakdown.faults
    exact breakdown

/-- An allocation gives what `Allocation` lists, and nothing else.  It has no outcome exactly if the
core does not survive one of the calls. -/
theorem allocate_exact (bytes : Bytes) (rig : Rig σ τ) :
    (∀ value after calls, (allocate bytes).Gives rig value after calls ↔
      Allocation bytes rig value after calls) ∧
    ∀ fault, (allocate bytes).Faults rig fault ↔ Breakdown bytes rig fault :=
  ⟨fun _ _ _ => ⟨allocation_of_gives, Allocation.gives⟩,
    fun _ => ⟨breakdown_of_faults, Breakdown.faults⟩⟩

end Handheld.Region
