import Handheld.Proofs.Bench.Answers
import Handheld.Proofs.Protocol.Ledger
import Handheld.Proofs.Session.Moves

/-!
# The Stock of the Bench Core

The bench core keeps blocks and instances, and it may be told to fail at any time.  While its
calls keep to the protocol, what it has in stock is what the controller has in its hands and, for
every destruction that has failed, one block and one instance more.

`Bench.Stocked` says so of a core whose calls are in a phase of the protocol.  `Stocked.step` says
what a call that the phase allows makes of it, and that the call finds what it needs; from there
`Stocked.run` comes to every act that keeps to the protocol.
-/

namespace Handheld

/-! ## §1 Shelves

Blocks and instances are kept in the same way: under numbers that grow, so that a number is used
once.  A shelf is put upon, taken from and lost from at its top only, which is all that the protocol
allows. -/

/-- Things are kept under numbers below the next one.  Some are lost to the controller, and on top
of them is the one that it owns, if there is one; its number is no other's. -/
structure Shelf {α : Type} (number : α → UInt32) (next : UInt32) (lost : List α) (own? : Option α)
    (items : List α) : Prop where
  items : items = lost ++ own?.toList
  below : ∀ item ∈ lost, number item < next
  apart : ∀ item ∈ lost, ∀ own ∈ own?, number item ≠ number own

namespace Shelf

variable {α : Type} {number : α → UInt32} {next later : UInt32} {lost items : List α}
  {own? : Option α} {own : α}

theorem mem_own (shelf : Shelf number next lost (some own) items) : own ∈ items :=
  shelf.items ▸ List.mem_append_right _ (List.mem_singleton_self own)

/-- What the controller owns is found by its number. -/
theorem find_own (shelf : Shelf number next lost (some own) items) :
    items.find? (fun item => number item == number own) = some own := by
  -- Among the things that are lost none has its number, so the search reaches the top.
  have others : lost.find? (fun item => number item == number own) = none := by
    apply List.find?_eq_none.2
    intro item member same
    exact shelf.apart item member own rfl (eq_of_beq same)
  rw [shelf.items, List.find?_append, others]
  simp

/-- A new thing is put on top. -/
theorem put (shelf : Shelf number next lost none items) (numbered : number own = next)
    (grows : next ≤ later) : Shelf number later lost (some own) (items ++ [own]) where
  items := by rw [shelf.items, Option.toList_none, List.append_nil, Option.toList_some]
  below item member := UInt32.lt_of_lt_of_le (shelf.below item member) grows
  apart := by
    rintro item member _ ⟨⟩
    rw [numbered]
    exact UInt32.ne_of_lt (shelf.below item member)

/-- Nothing has the next number yet. -/
theorem filter_next (shelf : Shelf number next lost none items) :
    items.filter (fun item => number item != next) = items := by
  apply List.filter_eq_self.2
  intro item member
  rw [shelf.items, Option.toList_none, List.append_nil] at member
  exact bne_iff_ne.2 (UInt32.ne_of_lt (shelf.below item member))

/-- What the controller owns is taken away, and nothing else. -/
theorem take (shelf : Shelf number next lost (some own) items) :
    Shelf number next lost none (items.filter fun item => number item != number own) where
  items := by
    -- The number is no other's, so taking away all of that number takes away one thing.
    have others : lost.filter (fun item => number item != number own) = lost :=
      List.filter_eq_self.2 fun item member => bne_iff_ne.2 (shelf.apart item member own rfl)
    rw [shelf.items, List.filter_append, others]
    simp
  below := shelf.below
  apart _ _ _ impossible := nomatch impossible

/-- What the controller owns is lost to it. -/
theorem lose (shelf : Shelf number next lost (some own) items) (numbered : number own < next) :
    Shelf number next (lost ++ [own]) none items where
  items := by rw [shelf.items, Option.toList_none, List.append_nil, Option.toList_some]
  below item member := by
    rcases List.mem_append.1 member with before | last
    · exact shelf.below item before
    · rwa [List.mem_singleton.1 last]
  apart _ _ _ impossible := nomatch impossible

end Shelf

/-! ## §2 What the calls do to the stock

One equation or inversion for each function of the core, without a word about who calls it. -/

namespace Bench

variable {bench after : Bench} {machine next : Machine Bench} {handle : Handle}

/-- The same blocks and instances, the same numbers for the next ones, and no block is going to be
misplaced unless it was already. -/
structure SameStock (before after : Bench) : Prop where
  nextAlloc : after.nextAlloc = before.nextAlloc
  blocks : after.blocks = before.blocks
  nextHandle : after.nextHandle = before.nextHandle
  instances : after.instances = before.instances
  misplaces : after.mischief.misplaceMalloc = before.mischief.misplaceMalloc

/-- Clearing the three lowest bits of a word. -/
theorem and_mask (n : Nat) (word : n < 2 ^ 32) : n &&& 0xFFFFFFF8 = n / 8 * 8 := by
  have mask : 0xFFFFFFF8 = (2 ^ 29 - 1) <<< 3 := by decide
  -- A division is a shift, and the bits of a shift can be compared place by place.
  have eighths : n / 8 * 8 = (n >>> 3) <<< 3 := by
    rw [Nat.shiftLeft_eq, Nat.shiftRight_eq_div_pow]
  rw [mask, eighths]
  apply Nat.eq_of_testBit_eq
  intro i
  rw [Nat.testBit_and, Nat.testBit_shiftLeft, Nat.testBit_shiftLeft, Nat.testBit_two_pow_sub_one,
    Nat.testBit_shiftRight]
  by_cases low : 3 ≤ i
  · have place : 3 + (i - 3) = i := by omega
    by_cases high : i < 32
    · simp [low, place, show i - 3 < 29 by omega]
    · -- Above the word there are no bits.
      have none : n.testBit i = false := Nat.testBit_lt_two_pow
        (Nat.lt_of_lt_of_le word (Nat.pow_le_pow_right (by decide) (by omega)))
      simp [place, none]
  · simp [low]

/-- The first multiple of eight at or behind an address, if eight more addresses are behind it. -/
theorem alignUp_eq_ok_iff {addr aligned : UInt32} :
    alignUp addr = .ok aligned ↔
      addr.toNat + 8 < 2 ^ 32 ∧ aligned.toNat = (addr.toNat + 7) / 8 * 8 := by
  -- Whatever the address is, the word that is made of its sum with eight is this one.
  have masked {stop : UInt32} (sum : stop.toNat = addr.toNat + 8) :
      ((stop - 1) &&& 0xFFFFFFF8).toNat = (addr.toNat + 7) / 8 * 8 := by
    have before : (stop - 1).toNat = addr.toNat + 7 := by
      rw [UInt32.toNat_sub_of_le _ _ (UInt32.le_iff_toNat_le.2 (by rw [sum]; simp)), sum]
      rfl
    rw [UInt32.toNat_and, before]
    exact and_mask _ (before ▸ UInt32.toNat_lt _)
  constructor
  · intro h
    obtain ⟨stop, hstop, made⟩ := Checked.bind_eq_ok_iff.1 h
    obtain ⟨room, sum⟩ := Checked.add32_eq_ok_iff.1 hstop
    obtain rfl := Except.ok.inj made
    exact ⟨room, masked sum⟩
  · rintro ⟨room, multiple⟩
    obtain ⟨stop, adds, sum⟩ : ∃ stop, Checked.add32 addr 8 = .ok stop ∧
        stop.toNat = addr.toNat + 8 := Checked.add32_ok room
    refine Checked.bind_eq_ok_iff.2 ⟨stop, adds, congrArg Except.ok ?_⟩
    rw [← UInt32.toNat_inj, masked sum, multiple]

theorem alignUp_overflow {addr : UInt32} (last : 2 ^ 32 ≤ addr.toNat + 8) :
    alignUp addr = .error .overflow := by
  have adds : Checked.add32 addr 8 = .error .overflow := if_neg (Nat.not_lt.2 last)
  unfold alignUp
  rw [adds]
  rfl

/-- A multiple of eight at or behind an address is not before it. -/
theorem le_of_alignUp {addr aligned : UInt32} (h : alignUp addr = .ok aligned) :
    addr.toNat ≤ aligned.toNat := by
  have multiple := (alignUp_eq_ok_iff.1 h).2
  omega

/-- The sum of the next address and a length that the heap has room for. -/
theorem toNat_blockEnd {len : UInt32}
    (room : bench.nextAlloc.toNat + len.toNat ≤ bench.heapSize.toNat) :
    (bench.nextAlloc + len).toNat = bench.nextAlloc.toNat + len.toNat := by
  rw [UInt32.toNat_add]
  exact Nat.mod_eq_of_lt (Nat.lt_of_le_of_lt room (UInt32.toNat_lt _))

/-- An allocation that is not told to misplace the block either gives none or the next one. -/
theorem of_malloc {size : Nat} {len addr : UInt32}
    (placed : bench.mischief.misplaceMalloc = false)
    (h : bench.malloc size len = .ok (addr, after)) :
    (addr = 0 ∧ SameStock bench after) ∨
      ∃ nextAlloc, addr = bench.nextAlloc ∧
        bench.nextAlloc.toNat + len.toNat ≤ bench.heapSize.toNat ∧
        bench.nextAlloc.toNat + len.toNat ≤ nextAlloc.toNat ∧
        after = { bench with
          nextAlloc
          blocks := insertBlock bench.blocks ⟨addr, len⟩ } := by
  unfold malloc at h
  rw [placed] at h
  split at h
  -- The allocation has been told to fail.
  · obtain ⟨rfl, rfl⟩ := Prod.mk.inj (Except.ok.inj h)
    exact .inl ⟨rfl, rfl, rfl, rfl, rfl, rfl⟩
  · simp only [Bool.false_eq_true, if_false] at h
    unfold bump at h
    split at h
    · next fits =>
      obtain ⟨nextAlloc, aligned, made⟩ := Checked.bind_eq_ok_iff.1 h
      obtain ⟨rfl, rfl⟩ := Prod.mk.inj (Except.ok.inj made)
      refine .inr ⟨nextAlloc, rfl, fits, ?_, rfl⟩
      exact toNat_blockEnd fits ▸ le_of_alignUp aligned
    -- The heap is too small for the block.
    · obtain ⟨rfl, rfl⟩ := Prod.mk.inj (Except.ok.inj h)
      exact .inl ⟨rfl, rfl, rfl, rfl, rfl, rfl⟩

/-- A rom is refused, or it runs as the next instance. -/
theorem instances_of_create {rom len : UInt32} {made : Option Handle}
    (h : create machine rom len = .ok (made, next)) :
    (made = none ∧ SameStock machine.state next.state) ∨
      ∃ handle nextHandle, made = some handle ∧ len ≠ 0 ∧
        handle.raw = machine.state.nextHandle ∧ handle.raw < nextHandle ∧
        SameStock { machine.state with
          nextHandle
          instances := machine.state.instances ++ [handle] } next.state := by
  simp only [create] at h
  split at h
  -- The rom is refused, because it has been planned so or because of its block.
  · obtain ⟨rfl, rfl⟩ := Prod.mk.inj (Except.ok.inj h)
    exact .inl ⟨rfl, rfl, rfl, rfl, rfl, rfl⟩
  · next accepted =>
    split at h
    -- All handles have been used up.
    · obtain ⟨rfl, rfl⟩ := Prod.mk.inj (Except.ok.inj h)
      exact .inl ⟨rfl, rfl, rfl, rfl, rfl, rfl⟩
    · next handle numbered =>
      obtain ⟨nextHandle, counts, h⟩ := Checked.bind_eq_ok_iff.1 h
      obtain ⟨memory, -, h⟩ := Checked.bind_eq_ok_iff.1 h
      obtain ⟨rfl, rfl⟩ := Prod.mk.inj (Except.ok.inj h)
      -- The raw number of a handle is read back from the way in which it is made.
      have raw : handle.raw = machine.state.nextHandle := by
        unfold Handle.ofRaw? at numbered
        split at numbered
        · cases numbered
        · obtain rfl := Option.some.inj numbered
          rfl
      refine .inr ⟨handle, nextHandle, rfl, fun empty => accepted (.inr (.inl empty)), raw, ?_,
        rfl, rfl, rfl, rfl, rfl⟩
      rw [raw, UInt32.lt_iff_toNat_lt, (Checked.add32_eq_ok_iff.1 counts).2]
      exact Nat.lt_succ_self _

/-- An instance that is there is destroyed, or the core has been told to fail. -/
theorem of_destroy (live : handle ∈ bench.instances) :
    ((bench.destroy handle).1 = .error (.native "destroy trapped") ∧
        SameStock bench (bench.destroy handle).2) ∨
      ((bench.destroy handle).1 = .ok () ∧
        (bench.destroy handle).2 =
          { bench with instances := bench.instances.filter (· ≠ handle) }) := by
  unfold destroy
  split
  · exact .inl ⟨rfl, rfl, rfl, rfl, rfl, rfl⟩
  · exact .inr ⟨rfl, rfl⟩

/-- A call for an instance that is there is answered. -/
theorem of_forInstance_live {α : Type} {answer : Faulty (α × Machine Bench)}
    {result : Except Error α} (live : handle ∈ machine.state.instances)
    (h : forInstance machine handle answer = .ok (result, next)) :
    ∃ value, answer = .ok (value, next) ∧ result = .ok value := by
  unfold forInstance at h
  rw [if_pos live] at h
  obtain ⟨⟨value, reached⟩, answered, made⟩ := Checked.bind_eq_ok_iff.1 h
  obtain ⟨rfl, rfl⟩ := Prod.mk.inj (Except.ok.inj made)
  exact ⟨value, answered, rfl⟩

theorem sameStock_of_step {status : Int32} (h : step machine = .ok (status, next)) :
    SameStock machine.state next.state := by
  unfold step at h
  obtain ⟨frames, -, h⟩ := Checked.bind_eq_ok_iff.1 h
  obtain ⟨memory, -, made⟩ := Checked.bind_eq_ok_iff.1 h
  obtain ⟨-, rfl⟩ := Prod.mk.inj (Except.ok.inj made)
  exact ⟨rfl, rfl, rfl, rfl, rfl⟩

/-- No use of an instance that is there fails or changes the stock. -/
theorem of_use {request : Request} {answer : Except Error request.Answer}
    (live : handle ∈ machine.state.instances) (carried : request.handle? = some handle)
    (kept : request.function ≠ .destroy)
    (h : NativeCore.answer request machine = .ok (answer, next)) :
    (∃ value, answer = .ok value) ∧ SameStock machine.state next.state := by
  have logged : SameStock machine.state (log machine request).state := ⟨rfl, rfl, rfl, rfl, rfl⟩
  -- The log is written before the instance is looked up, and it does not change the instances.
  have live : handle ∈ (log machine request).state.instances := live
  cases request with
  | malloc | free | create => cases carried
  | destroy => exact absurd rfl kept
  | step _ mode =>
    cases carried
    obtain ⟨status, steps, rfl⟩ := of_forInstance_live live h
    obtain ⟨nextAlloc, blocks, nextHandle, instances, misplaces⟩ := sameStock_of_step steps
    exact ⟨⟨status, rfl⟩, nextAlloc, blocks, nextHandle, instances, misplaces⟩
  | screenPointer =>
    cases carried
    obtain ⟨value, -, rfl⟩ := of_forInstance_live live h
    obtain ⟨rfl, -⟩ := of_look _ h
    exact ⟨⟨value, rfl⟩, logged⟩
  | screenWidth | screenHeight | setButtonState =>
    cases carried
    obtain ⟨value, -, rfl⟩ := of_forInstance_live live h
    obtain ⟨rfl, -⟩ := of_look (.ok _) h
    exact ⟨⟨value, rfl⟩, logged⟩

end Bench

/-- An instance is known by its number. -/
theorem Handle.beq_raw (first second : Handle) :
    (first.raw == second.raw) = decide (first = second) := by
  cases first
  cases second
  rw [Bool.eq_iff_iff, beq_iff_eq, decide_eq_true_iff, Handle.mk.injEq]

/-! ## §3 The agreement

`Stocked` gives the stock for each phase of the protocol.  A lemma for each way in which the stock
changes leads from one phase to the next. -/

/-- A region as the bench core keeps it. -/
def Region.block (region : Region) : Block := ⟨region.addr, region.len⟩

/-- The call has been answered, or the core has been told to fail it. -/
def Bench.Serves (call : NativeCall) : Prop :=
  ∀ cause, call.answer = .error cause → cause = .native "destroy trapped"

theorem Bench.serves_ok {request : Request} (value : request.Answer) :
    Serves ⟨request, .ok value⟩ := fun _ impossible => nomatch impossible

/-- What the bench core has in stock while its calls are in a phase and so many destructions have
failed. -/
structure Bench.Stocked (phase : Phase) (failed : Nat) (bench : Bench) : Prop where
  placed : bench.mischief.misplaceMalloc = false
  notNull : bench.nextAlloc ≠ 0
  blocks : ∃ lost, lost.length = failed ∧
    Shelf Block.addr bench.nextAlloc lost (phase.block?.map Region.block) bench.blocks
  instances : ∃ lost, lost.length = failed ∧
    Shelf Handle.raw bench.nextHandle lost phase.handle? bench.instances
  /-- The block in the controller's hands ends before the next one. -/
  ends : ∀ region ∈ phase.block?,
    region.addr.toNat + region.len.toNat ≤ bench.nextAlloc.toNat
  numbered : ∀ handle ∈ phase.handle?, handle.raw < bench.nextHandle
  /-- No instance runs from an empty block. -/
  occupied : ∀ region handle, phase = .running region handle → region.len ≠ 0

namespace Bench

variable {phase before after : Phase} {failed : Nat} {bench next : Bench}
  {machine reached : Machine Bench} {region : Region} {handle : Handle}

theorem Stocked.of_sameStock (stocked : Stocked phase failed bench)
    (same : SameStock bench next) : Stocked phase failed next := by
  obtain ⟨placed, notNull, blocks, instances, ends, numbered, occupied⟩ := stocked
  refine ⟨same.misplaces.trans placed, ?_, ?_, ?_, ?_, ?_, occupied⟩
  · rwa [same.nextAlloc]
  · rwa [same.nextAlloc, same.blocks]
  -- Only the phase differs, and both have the same block and no instance.
  · rwa [same.nextHandle, same.instances]
  · rwa [same.nextAlloc]
  · rwa [same.nextHandle]

/-- The log is not part of the stock. -/
theorem Stocked.log (stocked : Stocked phase failed machine.state) (request : Request) :
    Stocked phase failed (log machine request).state :=
  stocked.of_sameStock ⟨rfl, rfl, rfl, rfl, rfl⟩

/-- The rom is refused, and its block is still in the controller's hands. -/
theorem Stocked.refuse (stocked : Stocked (.holding region) failed bench) :
    Stocked (.vacated region) failed bench := by
  obtain ⟨placed, notNull, blocks, instances, ends, numbered, -⟩ := stocked
  exact ⟨placed, notNull, blocks, instances, ends, numbered, by simp⟩

/-- A block is handed out. -/
theorem Stocked.give {nextAlloc : UInt32} (stocked : Stocked .idle failed bench)
    (at_next : region.addr = bench.nextAlloc)
    (fits : bench.nextAlloc.toNat + region.len.toNat ≤ nextAlloc.toNat) :
    Stocked (.holding region) failed
      { bench with
        nextAlloc
        blocks := insertBlock bench.blocks region.block } := by
  obtain ⟨placed, notNull, ⟨lost, length, shelf⟩, instances, -, numbered, -⟩ := stocked
  have grows : bench.nextAlloc ≤ nextAlloc := UInt32.le_iff_toNat_le.2 (by omega)
  refine ⟨placed, ?_, ⟨lost, length, ?_⟩, instances, ?_, numbered, by simp⟩
  -- The counter has not run over, because the block is not at address zero.
  · intro null
    rw [← at_next] at grows
    exact region.addr_ne_zero (UInt32.le_zero_iff.1 (null ▸ grows))
  · -- Nothing that is there lies at the next address, so nothing is replaced.
    have none_there : eraseBlock bench.blocks region.addr = bench.blocks :=
      at_next ▸ shelf.filter_next
    unfold insertBlock
    rw [show region.block.addr = region.addr from rfl, none_there]
    exact shelf.put at_next grows
  -- The block ends where the counter has been moved to, or before.
  · rintro _ ⟨⟩
    rwa [at_next]

/-- The block in the controller's hands is there with its length. -/
theorem Stocked.blockLen?_eq (stocked : Stocked phase failed bench)
    (block : phase.block? = some region) :
    blockLen? bench.blocks region.addr = some region.len := by
  obtain ⟨lost, -, shelf⟩ := stocked.blocks
  rw [block] at shelf
  unfold blockLen?
  rw [show region.addr = region.block.addr from rfl, shelf.find_own]
  rfl

/-- A block that no instance uses is given back, and the core takes it. -/
theorem Stocked.free (stocked : Stocked phase failed bench) (block : phase.block? = some region)
    (alone : phase.handle? = none) :
    ∃ next, bench.free region.addr = (.ok (), next) ∧ Stocked .idle failed next := by
  -- The core looks the block up by its address, and it is the one on top of the shelf.
  have found := stocked.blockLen?_eq block
  obtain ⟨placed, notNull, ⟨lost, length, shelf⟩, instances, -, -, -⟩ := stocked
  rw [block] at shelf
  rw [alone] at instances
  refine ⟨{ bench with blocks := eraseBlock bench.blocks region.addr }, ?_, placed, notNull,
    ⟨lost, length, shelf.take⟩, instances, by simp [Phase.block?], by simp [Phase.handle?], by simp⟩
  unfold Bench.free
  rw [found]

/-- An instance is created from the block in the controller's hands. -/
theorem Stocked.create {nextHandle : UInt32} (stocked : Stocked (.holding region) failed bench)
    (nonempty : region.len ≠ 0) (raw : handle.raw = bench.nextHandle)
    (counts : handle.raw < nextHandle) :
    Stocked (.running region handle) failed
      { bench with
        nextHandle
        instances := bench.instances ++ [handle] } := by
  obtain ⟨placed, notNull, blocks, ⟨lost, length, shelf⟩, ends, -, -⟩ := stocked
  refine ⟨placed, notNull, blocks, ⟨lost, length, ?_⟩, ends, ?_, ?_⟩
  -- The counter of handles has moved past the handle, so that its number is fresh.
  · exact shelf.put raw (UInt32.le_of_lt (raw ▸ counts))
  · rintro _ ⟨⟩
    exact counts
  · rintro _ _ ⟨⟩
    exact nonempty

theorem Stocked.live (stocked : Stocked (.running region handle) failed bench) :
    handle ∈ bench.instances := by
  obtain ⟨lost, -, shelf⟩ := stocked.instances
  exact shelf.mem_own

/-- The instance is gone, and its block is still in the controller's hands. -/
theorem Stocked.destroy (stocked : Stocked (.running region handle) failed bench) :
    Stocked (.vacated region) failed
      { bench with instances := bench.instances.filter (· ≠ handle) } := by
  obtain ⟨placed, notNull, blocks, ⟨lost, length, shelf⟩, ends, -, -⟩ := stocked
  refine ⟨placed, notNull, blocks, ⟨lost, length, ?_⟩, ends, by simp [Phase.handle?], by simp⟩
  -- The core compares whole handles, the shelf their numbers.
  have by_number : bench.instances.filter (· ≠ handle) =
      bench.instances.filter fun item => item.raw != handle.raw := by
    refine List.filter_congr fun item _ => ?_
    rw [bne, Handle.beq_raw, ← decide_not]
  show Shelf _ _ _ _ (bench.instances.filter (· ≠ handle))
  rw [by_number]
  exact shelf.take

/-- The instance and its block are lost to the controller. -/
theorem Stocked.lose (stocked : Stocked (.running region handle) failed bench) :
    Stocked .idle (failed + 1) bench := by
  obtain ⟨placed, notNull, ⟨lost, length, blocks⟩, ⟨stuck, count, instances⟩, ends, numbered,
    occupied⟩ := stocked
  -- The block is not empty, so the next one lies behind its address.
  have positive : 0 < region.len.toNat := Checked.toNat_pos (occupied region handle rfl)
  have below : region.addr < bench.nextAlloc := by
    have ends := ends region rfl
    exact UInt32.lt_iff_toNat_lt.2 (by omega)
  refine ⟨placed, notNull, ⟨lost ++ [region.block], ?_, blocks.lose below⟩,
    ⟨stuck ++ [handle], ?_, instances.lose (numbered handle rfl)⟩, by simp [Phase.block?],
    by simp [Phase.handle?], by simp⟩
  · rw [List.length_append, length, List.length_singleton]
  · rw [List.length_append, count, List.length_singleton]

/-! ## §4 One call

Here the phases and the answers meet: in every phase that allows a call, the call finds what it
needs. -/

/-- The core hands out a block that nobody has had, or none. -/
theorem Stocked.answer_malloc {len : UInt32} {answer : Except Error UInt32}
    (stocked : Stocked .idle failed machine.state)
    (answered : NativeCore.answer (.malloc len) machine = .ok (answer, reached)) :
    (answer = .ok 0 ∧ Stocked .idle failed reached.state) ∨
      ∃ addr, answer = .ok addr ∧ addr ≠ 0 ∧ ∀ region : Region, region.addr = addr →
        region.len = len → Stocked (.holding region) failed reached.state := by
  have logged := stocked.log (.malloc len)
  obtain ⟨⟨addr, state⟩, hmalloc, made⟩ := Checked.bind_eq_ok_iff.1 answered
  obtain ⟨rfl, rfl⟩ := Prod.mk.inj (Except.ok.inj made)
  -- In both cases the region is known only now: it is any that has the answer as its address.
  rcases of_malloc logged.placed hmalloc with ⟨rfl, same⟩ | ⟨nextAlloc, at_next, -, fits, rfl⟩
  · exact .inl ⟨rfl, logged.of_sameStock same⟩
  · refine .inr ⟨addr, rfl, at_next ▸ logged.notNull, ?_⟩
    rintro region rfl rfl
    exact logged.give at_next fits

/-- The core takes every block that the controller gives back. -/
theorem Stocked.answer_free {answer : Except Error Unit}
    (stocked : Stocked phase failed machine.state)
    (block : phase.block? = some region) (alone : phase.handle? = none)
    (answered : NativeCore.answer (.free region.addr) machine = .ok (answer, reached)) :
    Stocked .idle failed reached.state ∧ Serves ⟨.free region.addr, answer⟩ := by
  obtain ⟨next, takes, stays⟩ := (stocked.log (.free region.addr)).free block alone
  simp only [NativeCore.answer, Bench.answer, takes] at answered
  cases answered
  exact ⟨stays, serves_ok _⟩

/-- The core makes an instance of the block in the controller's hands, or it refuses the rom. -/
theorem Stocked.answer_create {answer : Except Error (Option Handle)}
    (stocked : Stocked (.holding region) failed machine.state)
    (answered : NativeCore.answer (.create region.addr region.len) machine =
      .ok (answer, reached)) :
    (answer = .ok none ∧ Stocked (.vacated region) failed reached.state) ∨
      ∃ handle, answer = .ok (some handle) ∧
        Stocked (.running region handle) failed reached.state := by
  have logged := stocked.log (.create region.addr region.len)
  obtain ⟨⟨made, machine'⟩, creates, pair⟩ := Checked.bind_eq_ok_iff.1 answered
  obtain ⟨rfl, rfl⟩ := Prod.mk.inj (Except.ok.inj pair)
  rcases instances_of_create creates with
    ⟨rfl, same⟩ | ⟨handle, nextHandle, rfl, nonempty, raw, counts, same⟩
  · exact .inl ⟨rfl, logged.refuse.of_sameStock same⟩
  · exact .inr ⟨handle, rfl, (logged.create nonempty raw counts).of_sameStock same⟩

/-- The core destroys the running instance, or it has been told to fail. -/
theorem Stocked.answer_destroy {answer : Except Error Unit}
    (stocked : Stocked (.running region handle) failed machine.state)
    (answered : NativeCore.answer (.destroy handle) machine = .ok (answer, reached)) :
    (answer = .ok () ∧ Stocked (.vacated region) failed reached.state) ∨
      answer = .error (.native "destroy trapped") ∧ Stocked .idle (failed + 1) reached.state := by
  have logged := stocked.log (.destroy handle)
  -- The answer and the machine are both read off the pair that the core computes.
  obtain ⟨rfl, rfl⟩ := Prod.mk.inj (Except.ok.inj answered)
  rcases of_destroy logged.live with ⟨trapped, same⟩ | ⟨gone, without⟩
  · exact .inr ⟨trapped, logged.lose.of_sameStock same⟩
  · refine .inl ⟨gone, ?_⟩
    show Stocked _ _ (Bench.destroy _ handle).2
    rw [without]
    exact logged.destroy

/-- A call that a phase allows finds what it needs in stock and keeps the agreement. -/
theorem Stocked.step {request : Request} {answer : Except Error request.Answer}
    (stocked : Stocked before failed machine.state)
    (step : Phase.Step before ⟨request, answer⟩ after)
    (answered : NativeCore.answer request machine = .ok (answer, reached)) :
    Stocked after (failed + if NativeCall.isFailed .destroy ⟨request, answer⟩ then 1 else 0)
        reached.state ∧
      Serves ⟨request, answer⟩ := by
  cases step with
  | exhausted len =>
    rcases stocked.answer_malloc answered with ⟨-, next⟩ | ⟨addr, same, nonzero, -⟩
    · exact ⟨next, serves_ok _⟩
    · exact absurd (Except.ok.inj same).symm nonzero
  | mallocFailed len cause =>
    -- The bench core runs out of blocks, but its allocator does not trap.
    rcases stocked.answer_malloc answered with ⟨impossible, -⟩ | ⟨addr, impossible, -⟩
    all_goals cases impossible
  | given block =>
    rcases stocked.answer_malloc answered with ⟨null, -⟩ | ⟨addr, same, -, holds⟩
    · exact absurd (Except.ok.inj null) block.addr_ne_zero
    · exact ⟨holds block (Except.ok.inj same) rfl, serves_ok _⟩
  | returned block | freed block => exact stocked.answer_free rfl rfl answered
  | refused block =>
    rcases stocked.answer_create answered with ⟨-, next⟩ | ⟨handle, impossible, -⟩
    · exact ⟨next, serves_ok _⟩
    · cases impossible
  | createFailed block cause =>
    -- It refuses roms without an error as well.
    rcases stocked.answer_create answered with ⟨impossible, -⟩ | ⟨handle, impossible, -⟩
    all_goals cases impossible
  | created block handle =>
    rcases stocked.answer_create answered with ⟨impossible, -⟩ | ⟨other, same, next⟩
    · cases impossible
    · cases same
      exact ⟨next, serves_ok _⟩
  | used block _ carried kept =>
    -- An instance is used, and the use is not its destruction.
    obtain ⟨⟨value, rfl⟩, same⟩ := of_use stocked.live carried kept answered
    have unfailed : NativeCall.isFailed .destroy ⟨request, .ok value⟩ = false := by
      simp [NativeCall.isFailed, kept]
    rw [unfailed]
    exact ⟨stocked.of_sameStock same, serves_ok _⟩
  | destroyed block handle =>
    rcases stocked.answer_destroy answered with ⟨-, next⟩ | ⟨impossible, -⟩
    · exact ⟨next, serves_ok _⟩
    · cases impossible
  | destroyFailed block handle cause =>
    rcases stocked.answer_destroy answered with ⟨impossible, -⟩ | ⟨trapped, next⟩
    · cases impossible
    · -- The one error that the core makes, because it has been told to.
      refine ⟨next, fun first same => ?_⟩
      cases same
      exact Except.error.inj trapped

/-! ## §5 Runs

From one call to the calls of an act, by induction on the way from one rig to another. -/

/-- A core that has done nothing yet has nothing in stock. -/
theorem stocked_new (heapSize : UInt32) (screen : Screen) (stepStatus : Int32)
    (screenPastEnd : Bool) : Stocked .idle 0 { heapSize, screen, stepStatus, screenPastEnd } where
  placed := rfl
  notNull := show (16 : UInt32) ≠ 0 by decide
  blocks := ⟨[], rfl, rfl, by simp, by simp⟩
  instances := ⟨[], rfl, rfl, by simp, by simp⟩
  ends := by simp [Phase.block?]
  numbered := by simp [Phase.handle?]
  occupied := by simp

/-- What leads from one rig to another, while the calls lead from one phase to another, keeps the
agreement of the stock with the phase. -/
theorem Stocked.moves {τ : Type} [Surface τ] {calls : Request → Prop}
    {shows : SurfaceRequest → Prop} {rig last : Rig Bench τ} {made : List Entry}
    (moves : rig.Moves calls shows made last) (stocked : Stocked before failed rig.machine.state)
    (steps : Phase.Steps before (Journal.calls made) after) :
    Stocked after (failed + failures .destroy (Journal.calls made)) last.machine.state ∧
      ∀ call ∈ Journal.calls made, Serves call := by
  -- The induction is on the way that has been gone; a call in it is a step of the protocol, and
  -- what the surface and memory do is none.
  induction moves generalizing before failed with
  | refl =>
    cases steps
    exact ⟨stocked, fun _ impossible => nomatch impossible⟩
  | @call rig last made request answer machine _ answered _ ih =>
    cases steps with
    | cons step steps =>
      obtain ⟨kept, served⟩ := stocked.step step answered
      obtain ⟨final, rest⟩ := ih kept steps
      have counted : failures .destroy (⟨request, answer⟩ :: Journal.calls made) =
          (if NativeCall.isFailed .destroy ⟨request, answer⟩ then 1 else 0) +
            failures .destroy (Journal.calls made) := by
        unfold failures
        rw [List.countP_cons, Nat.add_comm]
      refine ⟨?_, List.forall_mem_cons.2 ⟨served, rest⟩⟩
      show Stocked after (failed + failures .destroy (⟨request, answer⟩ :: Journal.calls made)) _
      rwa [counted, ← Nat.add_assoc]
  | present _ _ _ ih => exact ih stocked steps
  | write _ _ _ ih => exact ih stocked steps
  | glance _ _ ih => exact ih stocked steps

end Bench

/-- What is no exchange is no call. -/
theorem Journal.calls_exchanges (journal : Journal) :
    Journal.calls journal.exchanges = journal.calls := by
  unfold calls exchanges
  rw [List.filterMap_filter]
  congr 1
  funext entry
  cases entry <;> rfl

/-- A call is made where the journal has it. -/
theorem Journal.mem_calls_iff {journal : Journal} {request : Request}
    {answer : Except Error request.Answer} :
    ⟨request, answer⟩ ∈ journal.calls ↔ .native request answer ∈ journal.exchanges := by
  rw [← calls_exchanges]
  unfold calls
  constructor
  -- Of the entries of a journal only exchanges with the core are read as calls.
  · intro called
    obtain ⟨entry, listed, same⟩ := List.mem_filterMap.1 called
    cases entry with
    | native =>
      cases same
      exact listed
    | surface | host | diagnostic => cases same
  · intro listed
    exact List.mem_filterMap.2 ⟨_, listed, rfl⟩

/-- An act that keeps to the protocol keeps the agreement. -/
theorem Bench.Stocked.run {τ α : Type} [Surface τ] {act : Act Bench τ α} {before : Phase}
    {after : α → Phase} {calls : Request → Prop} {shows : SurfaceRequest → Prop} {failed : Nat}
    {rig : Rig Bench τ} {outcome : Outcome Bench τ α} (moves : act.MovesBy calls shows)
    (abides : act.Abides before after) (stocked : Stocked before failed rig.machine.state)
    (run : act.run rig = .ok outcome) :
    Stocked (after outcome.value) (failed + failures .destroy outcome.journal.calls)
        outcome.rig.machine.state ∧
      ∀ call ∈ outcome.journal.calls, Serves call := by
  have steps := abides.steps_of_run run
  rw [← Journal.calls_exchanges] at steps ⊢
  exact stocked.moves (moves.of_run run) steps

end Handheld
