import Handheld.Proofs.Bench.Heap
import Handheld.Proofs.Session.Allocation

/-!
# A Block that Holds an Image

The heap of the bench core, the picture that it draws behind the heap on every step and the zeros
that memory grows by are one array of bytes.  `Bench.Holds` says of a block of the heap that an
image is in it.  Every answer of the core keeps this, but that to the release of the block
(`Holds.answer`).  Of what the controller does only an allocation writes to native memory, and it
writes behind all blocks that have been handed out before (`Holds.allocate`).
-/

namespace Handheld

/-! ## §1 The bytes of the heap

What is drawn, reserved or written behind a place leaves the bytes before it alone.  The lemmas
follow the functions of the core that change memory: growing, storing a pixel, drawing a frame,
creating an instance. -/

/-- Up to a place, memory is as before; nothing has been cut off. -/
structure Memory.SameBelow (limit : Nat) (before after : Bytes) : Prop where
  size : before.size ≤ after.size
  bytes : ∀ place < limit, after[place]? = before[place]?

namespace Memory

variable {limit : Nat} {memory before after : Bytes}

theorem SameBelow.refl (limit : Nat) (memory : Bytes) : SameBelow limit memory memory :=
  ⟨Nat.le_refl _, fun _ _ => rfl⟩

theorem sameBelow_grow (inside : limit ≤ memory.size) (size : Nat) :
    SameBelow limit memory (grow memory size) where
  size := by
    rw [size_grow]
    exact Nat.le_max_left ..
  bytes place below := Array.getElem?_append_left (Nat.lt_of_lt_of_le below inside)

theorem SameBelow.storeBytes {start : Nat} (same : SameBelow limit before memory)
    (behind : limit ≤ start) (b₀ b₁ b₂ b₃ : UInt8) :
    SameBelow limit before (storeBytes memory start b₀ b₁ b₂ b₃) where
  size := by
    rw [size_storeBytes]
    exact same.size
  bytes place below := by
    rw [getElem?_storeBytes_of_outside _ _ _ _ _ (.inl (by omega))]
    exact same.bytes place below

/-- What is written behind the place is not written before it. -/
theorem Patched.sameBelow {start : Nat} {data : Bytes} (patched : Patched before start data after)
    (behind : limit ≤ start) : SameBelow limit before after where
  size := Nat.le_of_eq patched.size.symm
  bytes place below := patched.kept place (.inl (Nat.lt_of_lt_of_le below behind))

theorem SameBelow.view {addr : UInt32} {len : Nat} {bytes : Bytes}
    (same : SameBelow limit before after) (below : addr.toNat + len ≤ limit)
    (views : Memory.view before addr len = .ok bytes) :
    Memory.view after addr len = .ok bytes := by
  obtain ⟨sized, inside, rfl⟩ := view_eq_ok_iff.1 views
  refine view_eq_ok_iff.2 ⟨sized, Nat.le_trans inside same.size, Array.ext_getElem? fun place => ?_⟩
  have wider := Nat.le_trans inside same.size
  rw [Array.getElem?_extract, Array.getElem?_extract, Nat.min_eq_left inside,
    Nat.min_eq_left wider]
  split
  · rw [same.bytes _ (by omega)]
  · rfl

end Memory

namespace Bench

open Memory (SameBelow)

variable {bench : Bench} {memory next : Bytes}

/-- A picture is drawn behind the heap, however large it is. -/
theorem sameBelow_of_drawFrame (roomy : bench.heapSize.toNat ≤ memory.size)
    (draws : bench.drawFrame memory = .ok next) :
    SameBelow bench.heapSize.toNat memory next := by
  unfold drawFrame at draws
  obtain ⟨bytes, -, draws⟩ := Checked.bind_eq_ok_iff.1 draws
  obtain ⟨needed, -, draws⟩ := Checked.bind_eq_ok_iff.1 draws
  obtain ⟨-, -, rows⟩ := Checked.bind_eq_ok_iff.1 draws
  -- All rows and all pixels of a row are drawn behind the place, so what holds of one pixel holds
  -- of the picture.
  refine Checked.loop_keeps (SameBelow _ memory) (fun row same => ?_) rows
    (Memory.sameBelow_grow roomy needed)
  refine Checked.loop_keeps (SameBelow _ memory) (fun pixel same => ?_) row same
  unfold drawPixel at pixel
  obtain ⟨_, -, pixel⟩ := Checked.bind_eq_ok_iff.1 pixel
  obtain ⟨place, -, pixel⟩ := Checked.bind_eq_ok_iff.1 pixel
  dsimp only at pixel
  -- A pixel behind the end of memory is a panic; any other is four bytes behind the heap.
  split at pixel
  · obtain rfl := Except.ok.inj pixel
    exact same.storeBytes (Nat.le_add_right ..) _ _ _ _
  · cases pixel

/-- Memory is made longer where a screen is reserved. -/
theorem sameBelow_of_create {machine after : Machine Bench} {rom len : UInt32}
    {made : Option Handle} (roomy : machine.state.heapSize.toNat ≤ machine.memory.size)
    (creates : create machine rom len = .ok (made, after)) :
    SameBelow machine.state.heapSize.toNat machine.memory after.memory := by
  simp only [create] at creates
  split at creates
  -- Where the rom is refused memory is as it was.
  · obtain ⟨-, rfl⟩ := Prod.mk.inj (Except.ok.inj creates)
    exact .refl ..
  · split at creates
    · obtain ⟨-, rfl⟩ := Prod.mk.inj (Except.ok.inj creates)
      exact .refl ..
    -- The screen is reserved, or memory cannot grow so far and stays.
    · obtain ⟨nextHandle, -, creates⟩ := Checked.bind_eq_ok_iff.1 creates
      obtain ⟨memory, reserves, creates⟩ := Checked.bind_eq_ok_iff.1 creates
      obtain ⟨-, rfl⟩ := Prod.mk.inj (Except.ok.inj creates)
      unfold reserveScreen at reserves
      obtain ⟨bytes, -, reserved⟩ := Checked.bind_eq_ok_iff.1 reserves
      obtain rfl := Except.ok.inj reserved
      split
      · exact Memory.sameBelow_grow roomy _
      · exact .refl ..

/-! ## §2 One answer

Apart from a release, no answer takes a block out of stock or moves one:  `sparing_of_answer` says
so for all requests at once, by cases on the request. -/

/-- No block is going to be misplaced, and all of the heap is in memory. -/
structure Tidy (machine : Machine Bench) : Prop where
  placed : machine.state.mischief.misplaceMalloc = false
  roomy : machine.state.heapSize.toNat ≤ machine.memory.size

/-- What the answer to a request leaves alone: the set-up of the heap and all that is in it, but for
a block that is released. -/
structure Sparing (request : Request) (before after : Machine Bench) : Prop where
  placed : after.state.mischief.misplaceMalloc = before.state.mischief.misplaceMalloc
  heapSize : after.state.heapSize = before.state.heapSize
  next : before.state.nextAlloc.toNat ≤ after.state.nextAlloc.toNat
  blocks : ∀ addr, addr.toNat < before.state.nextAlloc.toNat → request ≠ .free addr →
    blockLen? after.state.blocks addr = blockLen? before.state.blocks addr
  memory : SameBelow before.state.heapSize.toNat before.memory after.memory

theorem blockLen?_eraseBlock_of_ne {blocks : List Block} {addr other : UInt32}
    (ne : addr ≠ other) : blockLen? (eraseBlock blocks other) addr = blockLen? blocks addr := by
  unfold blockLen? eraseBlock
  rw [List.find?_filter]
  congr 2
  funext block
  by_cases same : block.addr = addr
  · simp [same, ne]
  · simp [same]

theorem blockLen?_insertBlock_of_ne {blocks : List Block} {addr : UInt32} {block : Block}
    (ne : addr ≠ block.addr) :
    blockLen? (insertBlock blocks block) addr = blockLen? blocks addr := by
  have other : (block.addr == addr) = false := beq_eq_false_iff_ne.2 ne.symm
  -- The new block is the last one of the list and not at the address.
  refine Eq.trans ?_ (blockLen?_eraseBlock_of_ne ne)
  unfold insertBlock blockLen?
  rw [List.find?_append, List.find?_cons_of_neg (by simpa using other)]
  simp

theorem blockLen?_insertBlock (blocks : List Block) (block : Block) :
    blockLen? (insertBlock blocks block) block.addr = some block.len := by
  have absent : (eraseBlock blocks block.addr).find? (fun other => other.addr == block.addr) =
      none := by
    refine List.find?_eq_none.2 fun other member same => ?_
    exact (mem_eraseBlock.1 member).2 (eq_of_beq same)
  unfold insertBlock blockLen?
  rw [List.find?_append, absent]
  simp

variable {machine after : Machine Bench} {request : Request}
  {reply : Except Error request.Answer}

theorem Sparing.of_blocks (placed : after.state.mischief.misplaceMalloc =
      machine.state.mischief.misplaceMalloc)
    (heapSize : after.state.heapSize = machine.state.heapSize)
    (nextAlloc : after.state.nextAlloc = machine.state.nextAlloc)
    (blocks : after.state.blocks = machine.state.blocks)
    (memory : SameBelow machine.state.heapSize.toNat machine.memory after.memory) :
    Sparing request machine after :=
  ⟨placed, heapSize, Nat.le_of_eq (congrArg UInt32.toNat nextAlloc.symm),
    fun _ _ _ => by rw [blocks], memory⟩

theorem sparing_of_malloc {len : UInt32} {answer : Except Error UInt32} (tidy : Tidy machine)
    (answered : NativeCore.answer (.malloc len) machine = .ok (answer, after)) :
    Sparing (.malloc len) machine after := by
  obtain ⟨⟨addr, state⟩, mallocs, made⟩ := Checked.bind_eq_ok_iff.1 answered
  obtain ⟨-, rfl⟩ := Prod.mk.inj (Except.ok.inj made)
  have heapSize := (sameSetup_of_malloc mallocs).heapSize
  have placed : (log machine (.malloc len)).state.mischief.misplaceMalloc = false := tidy.placed
  -- No block is put in stock, or the next one is.
  rcases of_malloc placed mallocs with ⟨-, same⟩ | ⟨nextAlloc, at_next, -, behind, rfl⟩
  · exact .of_blocks same.misplaces heapSize same.nextAlloc same.blocks (.refl ..)
  · have grows : machine.state.nextAlloc.toNat ≤ nextAlloc.toNat :=
      Nat.le_trans (Nat.le_add_right ..) behind
    refine ⟨rfl, rfl, grows, fun other before _ => ?_, SameBelow.refl _ _⟩
    -- The block is inserted at an address that is not before the next one.
    have ne : other ≠ addr := by
      rintro rfl
      rw [at_next] at before
      exact Nat.lt_irrefl _ before
    exact blockLen?_insertBlock_of_ne ne

/-- The log is not part of the heap. -/
theorem Sparing.of_log {entry : Request} (sparing : Sparing request (log machine entry) after) :
    Sparing request machine after :=
  ⟨sparing.placed, sparing.heapSize, sparing.next, sparing.blocks, sparing.memory⟩

theorem sparing_of_step {status : Int32} (tidy : Tidy machine)
    (steps : step machine = .ok (status, after)) : Sparing request machine after := by
  -- The frame is counted before the picture is drawn, and it has no part in the heap.
  have same := sameStock_of_step steps
  unfold step at steps
  obtain ⟨frames, -, steps⟩ := Checked.bind_eq_ok_iff.1 steps
  obtain ⟨memory, draws, made⟩ := Checked.bind_eq_ok_iff.1 steps
  have roomy : ({ machine.state with frames } : Bench).heapSize.toNat ≤ machine.memory.size :=
    tidy.roomy
  have below := sameBelow_of_drawFrame roomy draws
  obtain ⟨-, rfl⟩ := Prod.mk.inj (Except.ok.inj made)
  exact .of_blocks same.misplaces rfl same.nextAlloc same.blocks below

/-- Every answer leaves the heap alone. -/
theorem sparing_of_answer (tidy : Tidy machine)
    (answered : NativeCore.answer request machine = .ok (reply, after)) :
    Sparing request machine after := by
  -- Most calls only write to the log.
  have looked : Sparing request machine (log machine request) :=
    .of_blocks rfl rfl rfl rfl (.refl ..)
  cases request with
  | malloc len => exact sparing_of_malloc tidy answered
  | free addr =>
    obtain ⟨-, rfl⟩ := Prod.mk.inj (Except.ok.inj answered)
    show Sparing _ _ ⟨_, ((log machine (.free addr)).state.free addr).2⟩
    unfold Bench.free
    split
    -- The other blocks are those that were there, since the one at the address is gone.
    · refine ⟨rfl, rfl, Nat.le_refl _, fun other _ spared => ?_, .refl ..⟩
      exact blockLen?_eraseBlock_of_ne fun same => spared (same ▸ rfl)
    · exact looked
  | create rom len =>
    obtain ⟨⟨made, reached⟩, creates, pair⟩ := Checked.bind_eq_ok_iff.1 answered
    obtain ⟨-, rfl⟩ := Prod.mk.inj (Except.ok.inj pair)
    have heapSize := (of_create creates).1.heapSize
    have roomy : (log machine (.create rom len)).state.heapSize.toNat ≤
        (log machine (.create rom len)).memory.size := tidy.roomy
    have memory := sameBelow_of_create roomy creates
    rcases instances_of_create creates with ⟨-, same⟩ | ⟨_, _, -, -, -, -, same⟩
    all_goals exact .of_blocks same.misplaces heapSize same.nextAlloc same.blocks memory
  | destroy handle =>
    -- No instance has a part in the heap, whether it is destroyed or not.
    obtain ⟨-, rfl⟩ := Prod.mk.inj (Except.ok.inj answered)
    show Sparing _ _ ⟨_, (Bench.destroy _ handle).2⟩
    unfold Bench.destroy
    split
    · exact .of_blocks rfl rfl rfl rfl (.refl ..)
    · split <;> exact .of_blocks rfl rfl rfl rfl (.refl ..)
  | step handle mode =>
    -- Without the instance nothing is drawn.
    rcases of_forInstance answered with ⟨status, steps, -⟩ | ⟨-, rfl⟩
    · have logged : Tidy (log machine (.step handle mode)) := ⟨tidy.placed, tidy.roomy⟩
      exact (sparing_of_step logged steps).of_log
    · exact looked
  | screenPointer handle =>
    obtain ⟨rfl, -⟩ := of_look _ answered
    exact looked
  | screenWidth handle | screenHeight handle | setButtonState handle _ _ =>
    obtain ⟨rfl, -⟩ := of_look (.ok _) answered
    exact looked

/-! ## §3 A block that holds an image

A block holds its image as long as it is in stock, lies in front of the next block, and its bytes
are those of the image.  Calls keep this by §2, and a write of the host keeps it because a new block
lies behind all others. -/

/-- The block is in stock and lies in the heap, in front of the next one, and the image is in it. -/
structure Holds (block : Block) (image : Bytes) (machine : Machine Bench) : Prop
    extends Tidy machine where
  live : blockLen? machine.state.blocks block.addr = some block.len
  nonempty : block.len ≠ 0
  behind : block.stop ≤ machine.state.nextAlloc.toNat
  inside : block.stop ≤ machine.state.heapSize.toNat
  view : Memory.view machine.memory block.addr block.len.toNat = .ok image

variable {block : Block} {image bytes : Bytes} {len addr : UInt32}

/-- What the core says about the block. -/
theorem Holds.block?_eq (holds : Holds block image machine) :
    -- The core adds the ends up in words, and the heap is no longer than a word.
    block? machine block.addr = .ok (some image) := by
  obtain ⟨-, inside, contents⟩ := Memory.view_eq_ok_iff.1 holds.view
  have word : block.addr.toNat + block.len.toNat < 2 ^ 32 :=
    Nat.lt_of_le_of_lt holds.inside (UInt32.toNat_lt _)
  obtain ⟨stop, adds, sum⟩ := Checked.add32_ok word
  have seen : (if stop.toNat ≤ machine.memory.size then
      (.ok (some (machine.memory.extract block.addr.toNat stop.toNat)) : Faulty _)
    else .ok none) = .ok (some image) := by rw [sum, if_pos inside, contents]
  simp only [block?, holds.live, adds]
  exact seen

/-- The block is in front of the next one also with its address, because it is not empty. -/
theorem Holds.addr_lt (holds : Holds block image machine) :
    block.addr.toNat < machine.state.nextAlloc.toNat := by
  have positive : 0 < block.len.toNat := Checked.toNat_pos holds.nonempty
  have behind := holds.behind
  unfold Block.stop at behind
  omega

theorem Tidy.answer (tidy : Tidy machine)
    -- The heap is as large as before, and memory has not become smaller.
    (answered : NativeCore.answer request machine = .ok (reply, after)) : Tidy after := by
  have sparing := sparing_of_answer tidy answered
  refine ⟨sparing.placed.trans tidy.placed, ?_⟩
  rw [sparing.heapSize]
  exact Nat.le_trans tidy.roomy sparing.memory.size

/-- Only the release of the block takes it away. -/
theorem Holds.answer (holds : Holds block image machine)
    (answered : NativeCore.answer request machine = .ok (reply, after))
    (kept : request ≠ .free block.addr) : Holds block image after := by
  -- The block lies before the next one, so it is among those that are spared.
  have sparing := sparing_of_answer holds.toTidy answered
  refine ⟨holds.toTidy.answer answered, ?_, holds.nonempty, ?_, ?_, ?_⟩
  · rw [sparing.blocks _ holds.addr_lt kept, holds.live]
  · exact Nat.le_trans holds.behind sparing.next
  · exact sparing.heapSize ▸ holds.inside
  · exact sparing.memory.view holds.inside holds.view

theorem Tidy.write {memory : Bytes} (tidy : Tidy machine)
    (written : Memory.write machine.memory addr bytes = .ok memory) :
    Tidy { machine with memory } where
  placed := tidy.placed
  roomy := (Memory.size_of_write written) ▸ tidy.roomy

/-- What is written behind the block does not reach it. -/
theorem Holds.patched {memory : Bytes} {start : Nat} (holds : Holds block image machine)
    (patched : Memory.Patched machine.memory start bytes memory) (behind : block.stop ≤ start) :
    Holds block image { machine with memory } where
  placed := holds.placed
  roomy := patched.size ▸ holds.roomy
  live := holds.live
  nonempty := holds.nonempty
  behind := holds.behind
  inside := holds.inside
  view := (patched.sameBelow behind).view (Nat.le_refl _) holds.view

/-- The core has handed out a block: the next one of the heap. -/
structure HandsOut (block : Block) (before after : Machine Bench) : Prop where
  at_next : block.addr = before.state.nextAlloc
  live : blockLen? after.state.blocks block.addr = some block.len
  behind : block.stop ≤ after.state.nextAlloc.toNat
  inside : block.stop ≤ after.state.heapSize.toNat

theorem handsOut_of_malloc (tidy : Tidy machine)
    (answered : NativeCore.answer (.malloc len) machine = .ok (.ok addr, after))
    (handed_out : addr ≠ 0) : HandsOut ⟨addr, len⟩ machine after := by
  obtain ⟨⟨given, state⟩, mallocs, made⟩ := Checked.bind_eq_ok_iff.1 answered
  obtain ⟨same, rfl⟩ := Prod.mk.inj (Except.ok.inj made)
  obtain rfl := Except.ok.inj same
  have placed : (log machine (.malloc len)).state.mischief.misplaceMalloc = false := tidy.placed
  -- The core has handed out a block, so it was not out of room.
  rcases of_malloc placed mallocs with ⟨null, -⟩ | ⟨nextAlloc, rfl, room, behind, rfl⟩
  · exact absurd null handed_out
  · exact ⟨rfl, blockLen?_insertBlock _ _, behind, room⟩

end Bench

/-- The request neither asks for a block nor releases the one at an address. -/
def Request.Spares (addr : UInt32) : Request → Prop
  | .malloc _ => False
  | .free other => other ≠ addr
  | .create _ _ | .destroy _ | .step _ _ | .screenPointer _ | .screenWidth _ | .screenHeight _
  | .setButtonState _ _ _ => True

namespace Request

variable {request : Request} {addr other : UInt32}

theorem Spares.ne_free (spares : request.Spares addr) : request ≠ .free addr := by
  rintro rfl
  exact spares rfl

theorem Minds.spares (minds : request.Minds other) (apart : other ≠ addr) :
    request.Spares addr := by
  cases request with
  | malloc => exact minds
  | free => exact fun same => apart (minds.symm.trans same)
  | _ => trivial

theorem IsFrame.spares (frame : request.IsFrame) : request.Spares addr := by
  cases request with
  | malloc | free => rcases frame with impossible | impossible <;> cases impossible
  | _ => trivial

theorem IsButton.spares (button : request.IsButton) : request.Spares addr := by
  cases request with
  | malloc | free => cases button
  | _ => trivial

end Request

namespace Bench

section Acts

open Act

variable {τ : Type} {rig last : Rig Bench τ} {made : List Entry} {block : Block}
  {image bytes : Bytes} {rom : Region}

/-- An allocation leaves the block alone, and it gives another one. -/
theorem Holds.allocate {value : Except Error Region} (holds : Holds block image rig.machine)
    (allocates : (Region.allocate bytes).Gives rig value last made) :
    Holds block image last.machine ∧ ∀ region, value = .ok region → region.addr ≠ block.addr := by
  cases Region.allocation_of_gives allocates with
  | tooLong => exact ⟨holds, nofun⟩
  | refused _ answered | exhausted _ answered => exact ⟨holds.answer answered nofun, nofun⟩
  | @filled region machine memory answered exact_len patched =>
    have handed_out := handsOut_of_malloc holds.toTidy answered region.addr_ne_zero
    have at_next : region.addr = rig.machine.state.nextAlloc := handed_out.at_next
    -- The image is written where the block ends or behind.
    refine ⟨(holds.answer answered nofun).patched patched ?_, ?_⟩
    · rw [at_next]
      exact holds.behind
    · rintro _ ⟨⟩ same
      exact Nat.ne_of_lt holds.addr_lt (by rw [← same, at_next])
  | @misplaced addr machine last answer _ answered some_block _ returned =>
    have handed_out := handsOut_of_malloc holds.toTidy answered some_block
    -- The block that is given back is the one that has just been handed out, and not this one.
    have at_next : addr = rig.machine.state.nextAlloc := handed_out.at_next
    have ne : (Request.free addr) ≠ .free block.addr := by
      rintro ⟨⟩
      exact Nat.ne_of_lt holds.addr_lt (congrArg UInt32.toNat at_next)
    exact ⟨(holds.answer answered nofun).answer returned ne, nofun⟩

variable [Surface τ] {calls : Request → Prop} {shows : SurfaceRequest → Prop}

/-- Whatever is called and written, no block is going to be misplaced. -/
theorem Tidy.moves (tidy : Tidy rig.machine) (moves : rig.Moves calls shows made last) :
    Tidy last.machine :=
  moves.invariant (fun _ answered tidy => tidy.answer answered)
    (fun _ written tidy => tidy.write written) tidy

/-- Where no block may be asked for, nothing is written. -/
theorem Holds.moves (holds : Holds block image rig.machine)
    (moves : rig.Moves (Request.Spares block.addr) shows made last) :
    Holds block image last.machine :=
  moves.invariant (fun spares answered holds => holds.answer answered spares.ne_free)
    (fun fills => fills.elim) holds

/-- An act that makes no calls leaves the block alone. -/
theorem Holds.silent {α : Type} {act : Act Bench τ α} {value : α}
    (holds : Holds block image rig.machine)
    (silent : act.MovesBy (fun _ => False) fun _ => False) (gives : act.Gives rig value last made) :
    Holds block image last.machine :=
  holds.moves ((silent.of_gives gives).mono (fun _ => False.elim) fun _ => id)

/-- What has been allocated is held. -/
theorem holds_of_allocate (tidy : Tidy rig.machine) (nonempty : bytes.size ≠ 0)
    (allocates : (Region.allocate bytes).Gives rig (.ok rom) last made) :
    Holds rom.block bytes last.machine := by
  have view := Region.view_of_gives allocates
  have moves : rig.Moves (fun _ => True) (fun _ => False) made last :=
    -- An allocation calls and writes, so that the set-up is all that is kept.
    (Region.allocate_moves bytes (fun _ => trivial) fun _ => trivial).of_gives allocates
  have tidied := tidy.moves moves
  cases Region.allocation_of_gives allocates with
  | filled answered exact_len patched =>
    have len : rom.len = .ofNat bytes.size := by rw [← exact_len, UInt32.ofNat_toNat]
    have handed_out := handsOut_of_malloc tidy answered rom.addr_ne_zero
    rw [← len] at handed_out
    -- An empty image would have made an empty block.
    refine ⟨tidied, handed_out.live, ?_, handed_out.behind, handed_out.inside, view⟩
    rintro empty
    have empty : rom.len = 0 := empty
    rw [empty] at exact_len
    exact nonempty exact_len.symm

end Acts

end Bench

end Handheld
