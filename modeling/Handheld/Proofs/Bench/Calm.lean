import Handheld.Proofs.Bench.Stock

/-!
# Bench Cores That Are Not Told to Fail

The agreement of the stock with the phase says what the answers of the bench core may be.  A core
that is not told to fail has no choice: `Bench.Calm` is such a core in a phase of the protocol, and
for each call of a load there is one answer that it gives.

The one call that need not have an answer is the creation of an instance.  The core computes the
length of a picture there, and the product has to be a size.
-/

namespace Handheld.Bench

/-! ## §1 The length of memory

A picture is to fit behind the heap.  Its length may be no size, which is a fault, or its end may
have no address, and then memory stays as it is. -/

variable {bench : Bench} {memory : Bytes}

/-- Memory with room for a picture behind the heap, if its end has an address. -/
def reserved (bench : Bench) (memory : Bytes) : Bytes :=
  if bench.pictureEnd < UInt32.size then Memory.grow memory bench.pictureEnd else memory

theorem reserveScreen_ok (memory : Bytes)
    (sized : 4 * pixelCount bench.screen.width bench.screen.height < 2 ^ 64) :
    bench.reserveScreen memory = .ok (bench.reserved memory) := by
  unfold reserveScreen
  rw [frameBytes_eq, Checked.size_ok (by rw [Checked.maxSize_eq]; omega)]
  rfl

/-- The length of a picture is computed before anything is reserved. -/
theorem reserveScreen_overflow (memory : Bytes)
    (large : 2 ^ 64 ≤ 4 * pixelCount bench.screen.width bench.screen.height) :
    bench.reserveScreen memory = .error .overflow := by
  unfold reserveScreen
  rw [frameBytes_eq, Checked.size_error (by rw [Checked.maxSize_eq]; omega)]
  rfl

theorem size_reserved : (bench.reserved memory).size =
    if bench.pictureEnd < 2 ^ 32 then max memory.size bench.pictureEnd else memory.size := by
  unfold reserved
  show (if bench.pictureEnd < 2 ^ 32 then _ else _ : Bytes).size = _
  split
  · exact Memory.size_grow ..
  · rfl

/-! ## §2 Cores that are not told to fail

`Calm` is the agreement of the stock with the phase on a core that no failure has been planned for.
It fixes every answer, so the lemmas of the next sections give the machine that is left behind by
its invariant and not by its fields. -/

/-- A core whose calls are in a phase of the protocol and which has not been told to fail. -/
structure Calm (phase : Phase) (machine : Machine Bench) : Prop where
  stocked : machine.state.Stocked phase 0
  untroubled : machine.state.mischief = {}

variable {phase : Phase} {machine : Machine Bench} {rom : Region} {handle : Handle}

theorem Calm.logged (calm : Calm phase machine) (request : Request) :
    Calm phase (log machine request) := ⟨calm.stocked.log request, calm.untroubled⟩

/-- Nothing is in stock if nothing is in the controller's hands and nothing has been lost. -/
theorem Calm.nothing (calm : Calm .idle machine) :
    machine.state.blocks = [] ∧ machine.state.instances = [] := by
  obtain ⟨blocks, no_blocks, block_shelf⟩ := calm.stocked.blocks
  obtain ⟨instances, no_instances, instance_shelf⟩ := calm.stocked.instances
  obtain rfl := List.eq_nil_of_length_eq_zero no_blocks
  obtain rfl := List.eq_nil_of_length_eq_zero no_instances
  exact ⟨block_shelf.items, instance_shelf.items⟩

/-! ## §3 Giving back -/

theorem Calm.free (calm : Calm phase machine) (block : phase.block? = some rom)
    (alone : phase.handle? = none) :
    ∃ next, NativeCore.answer (.free rom.addr) machine = .ok (.ok (), next) ∧ Calm .idle next := by
  obtain ⟨state, frees, stocked⟩ := (calm.stocked.log (.free rom.addr)).free block alone
  -- To take a block back is nothing that could have been planned to fail.
  have kept : (Bench.free (log machine (.free rom.addr)).state rom.addr).2.mischief =
      machine.state.mischief := by
    unfold Bench.free
    split <;> rfl
  rw [frees] at kept
  refine ⟨⟨machine.memory, state⟩, ?_, stocked, kept.trans calm.untroubled⟩
  simp only [NativeCore.answer, answer, frees]
  rfl

theorem Calm.destroy (calm : Calm (.running rom handle) machine) :
    ∃ next, NativeCore.answer (.destroy handle) machine = .ok (.ok (), next) ∧
      Calm (.vacated rom) next := by
  -- An instance that is there is destroyed, as no failure has been planned.
  have logged := calm.stocked.log (.destroy handle)
  have obeys : (log machine (.destroy handle)).state.mischief.failDestroy = false :=
    congrArg Mischief.failDestroy calm.untroubled
  refine ⟨⟨machine.memory, _⟩, ?_, logged.destroy, calm.untroubled⟩
  simp only [NativeCore.answer, answer, Bench.destroy]
  rw [if_neg (by rw [obeys]; exact Bool.false_ne_true), if_pos logged.live]
  rfl

/-- What has been acquired is given back completely. -/
theorem Calm.tearDown {τ : Type} {rig : Rig Bench τ}
    (calm : Calm (.running rom handle) rig.machine) :
    ∃ after calls, (Lifecycle.tearDown handle rom).Gives rig (.ok ()) after calls ∧
      Calm .idle after.machine := by
  -- The instance first and then its block, each from the phase that the other has left.
  obtain ⟨destroyed, destroys, vacated⟩ := calm.destroy
  obtain ⟨freed, frees, idle⟩ := vacated.free rfl rfl
  have releases : rom.release.Gives { rig with machine := destroyed } (.ok ())
      { rig with machine := freed } _ := (Act.gives_note _ _).quietly (Act.gives_ask frees)
  exact ⟨_, _, (Act.gives_ask destroys).bind releases, idle⟩

/-! ## §4 Allocation

An allocation that goes through needs room in the heap and an address behind its end; without room
it gives none, and without an address it faults. -/

/-- An allocation that has not been told to fail or to misplace its block. -/
theorem malloc_of_calm {size : Nat} {len : UInt32} (calm : bench.mischief = {}) :
    bench.malloc size len = bench.bump len := by
  unfold malloc
  rw [calm]
  rfl

theorem malloc_answer {len : UInt32} (calm : machine.state.mischief = {}) :
    NativeCore.answer (.malloc len) machine = (do
      let (addr, state) ← (log machine (.malloc len)).state.bump len
      return (.ok addr, { machine with state })) := by
  have obeys : (log machine (.malloc len)).state.mischief = {} := calm
  show ((log machine (.malloc len)).state.malloc machine.memory.size len >>= fun _ => _) = _
  rw [malloc_of_calm obeys]
  rfl

/-- The next block is handed out if the heap has room for it and there are eight more addresses
behind it. -/
theorem bump_ok {len : UInt32}
    (room : bench.nextAlloc.toNat + len.toNat ≤ bench.heapSize.toNat)
    (addressed : bench.nextAlloc.toNat + len.toNat + 8 < 2 ^ 32) :
    ∃ nextAlloc, nextAlloc.toNat = (bench.nextAlloc.toNat + len.toNat + 7) / 8 * 8 ∧
      bench.bump len = .ok (bench.nextAlloc,
        { bench with nextAlloc, blocks := insertBlock bench.blocks ⟨bench.nextAlloc, len⟩ }) := by
  -- The sum is a word, since the heap ends at one.
  have stop := toNat_blockEnd room
  have aligned : (UInt32.ofNat ((bench.nextAlloc.toNat + len.toNat + 7) / 8 * 8)).toNat =
      (bench.nextAlloc.toNat + len.toNat + 7) / 8 * 8 := UInt32.toNat_ofNat_of_lt' (by
    show _ < 2 ^ 32
    omega)
  refine ⟨_, aligned, ?_⟩
  rw [← stop] at aligned addressed
  unfold bump
  rw [if_pos room, alignUp_eq_ok_iff.2 ⟨addressed, aligned⟩, stop]
  rfl

theorem bump_full {len : UInt32}
    (short : bench.heapSize.toNat < bench.nextAlloc.toNat + len.toNat) :
    bench.bump len = .ok (0, bench) := if_neg (Nat.not_le.2 short)

/-- The end of a block is rounded up before it is known that this can be done. -/
theorem bump_overflow {len : UInt32}
    (room : bench.nextAlloc.toNat + len.toNat ≤ bench.heapSize.toNat)
    (last : 2 ^ 32 ≤ bench.nextAlloc.toNat + len.toNat + 8) :
    bench.bump len = .error .overflow := by
  unfold bump
  rw [if_pos room, alignUp_overflow (by rwa [toNat_blockEnd room])]
  rfl

/-- The core hands out the next block if the heap has room for it. -/
theorem Calm.malloc_ok {len : UInt32} (calm : Calm .idle machine)
    (small : machine.state.heapSize.toNat < 2 ^ 31)
    (room : machine.state.nextAlloc.toNat + len.toNat ≤ machine.state.heapSize.toNat) :
    ∃ (rom : Region) (next : Machine Bench),
      NativeCore.answer (.malloc len) machine = .ok (.ok rom.addr, next) ∧
      rom.addr = machine.state.nextAlloc ∧ rom.len = len ∧ Calm (.holding rom) next ∧
      next.memory = machine.memory ∧ next.state.nextHandle = machine.state.nextHandle := by
  let logged := log machine (.malloc len)
  -- The next address behind the block exists because the heap is far from the end of all addresses.
  obtain ⟨nextAlloc, -, gives⟩ : ∃ nextAlloc : UInt32, _ ∧
      logged.state.bump len = .ok (machine.state.nextAlloc, { logged.state with
        nextAlloc
        blocks := insertBlock machine.state.blocks ⟨machine.state.nextAlloc, len⟩ }) :=
    bump_ok room (Nat.lt_of_le_of_lt (Nat.add_le_add_right room 8) (by
      show machine.state.heapSize.toNat + 8 < 2 ^ 32
      omega))
  have answered : NativeCore.answer (.malloc len) machine = .ok (.ok machine.state.nextAlloc,
      ⟨machine.memory, { logged.state with
        nextAlloc
        blocks := insertBlock machine.state.blocks ⟨machine.state.nextAlloc, len⟩ }⟩) := by
    rw [malloc_answer calm.untroubled, gives]
    rfl
  refine ⟨⟨machine.state.nextAlloc, len, calm.stocked.notNull⟩, _, answered, rfl, rfl, ?_, rfl, rfl⟩
  -- That the region is held follows from the answer, as for every core.
  rcases calm.stocked.answer_malloc answered with ⟨null, -⟩ | ⟨addr, same, -, holds⟩
  · exact absurd (Except.ok.inj null) calm.stocked.notNull
  · exact ⟨holds _ (Except.ok.inj same) rfl, calm.untroubled⟩

/-- It hands out none if the heap has no room. -/
theorem Calm.malloc_null {len : UInt32} (calm : Calm .idle machine)
    (full : machine.state.heapSize.toNat < machine.state.nextAlloc.toNat + len.toNat) :
    ∃ next, NativeCore.answer (.malloc len) machine = .ok (.ok 0, next) ∧ Calm .idle next := by
  have gives : (log machine (.malloc len)).state.bump len = .ok (0, _) := bump_full full
  refine ⟨log machine (.malloc len), ?_, calm.logged (.malloc len)⟩
  rw [malloc_answer calm.untroubled, gives]
  rfl

/-! ## §5 Instances -/

section Creation

variable (calm : Calm (.holding rom) machine) (nonempty : rom.len ≠ 0)
  (numbered : machine.state.nextHandle ≠ 0) (left : machine.state.nextHandle.toNat + 1 < 2 ^ 32)
include calm nonempty numbered left

/-- A rom in a block of its length becomes the next instance, if the core can say how long a picture
is. -/
theorem create_of_calm :
    ∃ (handle : Handle) (next : Bytes → Machine Bench),
      create machine rom.addr rom.len = (machine.state.reserveScreen machine.memory).map
        (fun memory => (some handle, next memory)) ∧
      ∀ memory, (next memory).memory = memory ∧ (next memory).state.mischief = {} := by
  -- The rom is accepted, because its block is in stock with its length.
  have found : blockLen? machine.state.blocks rom.addr = some rom.len :=
    calm.stocked.blockLen?_eq rfl
  have accepted : ¬ (machine.state.mischief.failCreate = true ∨ rom.len = 0 ∨
      blockLen? machine.state.blocks rom.addr ≠ some rom.len) := by
    rw [calm.untroubled, found]
    simp [nonempty]
  obtain ⟨nextHandle, counts, -⟩ := Checked.next32_ok left
  let handle : Handle := ⟨machine.state.nextHandle, numbered⟩
  have handles : Handle.ofRaw? machine.state.nextHandle = some handle := dif_neg numbered
  let spent : Bench := { machine.state with mischief.failCreate := false }
  have obeys : spent.mischief = {} := by
    show ({ machine.state.mischief with failCreate := false } : Mischief) = {}
    rw [calm.untroubled]
  refine ⟨handle, fun memory => ⟨memory, { spent with
    nextHandle
    instances := machine.state.instances ++ [handle] }⟩, ?_, fun memory => ⟨rfl, obeys⟩⟩
  simp only [create]
  rw [if_neg accepted, handles]
  dsimp only
  rw [counts]
  -- The failure that could have been planned does not bear on what is reserved.
  have same : spent.reserveScreen machine.memory = machine.state.reserveScreen machine.memory := rfl
  rw [← same]
  cases spent.reserveScreen machine.memory <;> rfl

theorem Calm.create_ok
    (sized : 4 * pixelCount machine.state.screen.width machine.state.screen.height < 2 ^ 64) :
    ∃ handle next,
      NativeCore.answer (.create rom.addr rom.len) machine = .ok (.ok (some handle), next) ∧
      Calm (.running rom handle) next ∧ next.memory = machine.state.reserved machine.memory := by
  let logged := log machine (.create rom.addr rom.len)
  obtain ⟨handle, next, creates, kept⟩ := create_of_calm (calm.logged _) nonempty numbered left
  have reserves : logged.state.reserveScreen logged.memory =
      .ok (machine.state.reserved machine.memory) := reserveScreen_ok _ sized
  have answered : NativeCore.answer (.create rom.addr rom.len) machine =
      .ok (.ok (some handle), next (machine.state.reserved machine.memory)) := by
    show (create logged rom.addr rom.len >>= fun _ => _) = _
    rw [creates, reserves]
    rfl
  refine ⟨handle, _, answered, ?_, (kept _).1⟩
  -- The core cannot have refused it, so it runs with the handle in the answer.
  rcases calm.stocked.answer_create answered with ⟨impossible, -⟩ | ⟨created, same, runs⟩
  · cases impossible
  · cases same
    exact ⟨runs, (kept _).2⟩

theorem Calm.create_overflow
    (large : 2 ^ 64 ≤ 4 * pixelCount machine.state.screen.width machine.state.screen.height) :
    NativeCore.answer (.create rom.addr rom.len) machine = .error .overflow := by
  let logged := log machine (.create rom.addr rom.len)
  obtain ⟨handle, next, creates, -⟩ := create_of_calm (calm.logged _) nonempty numbered left
  have stops : logged.state.reserveScreen logged.memory = .error .overflow :=
    reserveScreen_overflow _ large
  show (create logged rom.addr rom.len >>= fun _ => _) = _
  rw [creates, stops]
  rfl

end Creation

theorem Calm.look_ok (calm : Calm (.running rom handle) machine) :
    NativeCore.answer (.screenWidth handle) machine =
        .ok (.ok machine.state.screen.width, log machine (.screenWidth handle)) ∧
      NativeCore.answer (.screenHeight handle) machine =
        .ok (.ok machine.state.screen.height, log machine (.screenHeight handle)) := by
  constructor
  · exact forInstance_ok (calm.logged (.screenWidth handle)).stocked.live rfl
  · exact forInstance_ok (calm.logged (.screenHeight handle)).stocked.live rfl

end Handheld.Bench
