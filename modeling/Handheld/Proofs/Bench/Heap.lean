import Handheld.Proofs.Bench.Calm

/-!
# The Heap of the Bench Core

A history of the heap is a list of calls with their answers.  Which blocks are outstanding after a
history can be read off it: those that have been handed out and neither taken back nor handed out
again since.  `Bench.Lawful` says how each call is answered after the calls before it, and
`Bench.heap_allocates` that the bench core answers so and has the outstanding blocks in stock.

Two things are peculiar to it.  The address behind an empty block is the address of the empty block,
so that the next block takes its place.  And the end of a block is rounded up to the next address,
which has to be a word.
-/

namespace Handheld

/-- The first place behind the block. -/
def Block.stop (block : Block) : Nat := block.addr.toNat + block.len.toNat

/-! ## §1 Histories

Everything here is read off a list of calls and answers, without a core.  The lists grow at the end,
so `outstanding_concat_iff` is what later proofs use: which blocks one call more adds and takes
away. -/

/-- A call that concerns the heap only. -/
inductive HeapCall
  | malloc (len : UInt32)
  | free (addr : UInt32)
deriving DecidableEq, Repr

def HeapCall.request : HeapCall → Request
  | .malloc len => .malloc len
  | .free addr => .free addr

/-- Asks a core for one thing after another, and writes down the answers. -/
def askAll {σ : Type} [NativeCore σ] :
    List Request → Machine σ → Faulty (List NativeCall × Machine σ)
  | [], machine => return ([], machine)
  | request :: requests, machine => do
    let (answer, machine) ← NativeCore.answer request machine
    let (history, machine) ← askAll requests machine
    return (⟨request, answer⟩ :: history, machine)

namespace Bench

/-- The blocks that have been handed out. -/
def handedOut (history : List NativeCall) : List Block :=
  history.filterMap fun
    | ⟨.malloc len, .ok addr⟩ => if addr = 0 then none else some ⟨addr, len⟩
    | _ => none

/-- The addresses of the blocks that have been taken back. -/
def returned (history : List NativeCall) : List UInt32 :=
  history.filterMap fun
    | ⟨.free addr, .ok ()⟩ => some addr
    | _ => none

/-- The block has been handed out, and since then no block at its address has been taken back or
handed out. -/
def Outstanding (history : List NativeCall) (block : Block) : Prop :=
  ∃ before call after, history = before ++ call :: after ∧ block ∈ handedOut [call] ∧
    (∀ other ∈ handedOut after, other.addr ≠ block.addr) ∧ block.addr ∉ returned after

/-- No block has been handed out behind an empty one. -/
def NoneBehindEmpty (history : List NativeCall) : Prop :=
  (handedOut history).Pairwise fun earlier _ => earlier.len ≠ 0

variable {history : List NativeCall} {call : NativeCall} {block : Block} {len addr : UInt32}

theorem handedOut_append (first second : List NativeCall) :
    handedOut (first ++ second) = handedOut first ++ handedOut second :=
  List.filterMap_append ..

theorem returned_append (first second : List NativeCall) :
    returned (first ++ second) = returned first ++ returned second :=
  List.filterMap_append ..

theorem handedOut_malloc (some_block : addr ≠ 0) :
    handedOut [⟨.malloc len, .ok addr⟩] = [⟨addr, len⟩] := by
  simp [handedOut, some_block]

theorem outstanding_concat_iff :
    Outstanding (history ++ [call]) block ↔
      block ∈ handedOut [call] ∨
        (Outstanding history block ∧ (∀ other ∈ handedOut [call], other.addr ≠ block.addr) ∧
          block.addr ∉ returned [call]) := by
  constructor
  · rintro ⟨before, given, after, split, hands_out, unreplaced, unreturned⟩
    rcases List.eq_nil_or_concat after with rfl | ⟨between, last, rfl⟩
    · -- The last call has handed it out.
      obtain ⟨-, same⟩ := List.append_inj' split rfl
      obtain rfl := List.head_eq_of_cons_eq same
      exact .inl hands_out
    · rw [List.concat_eq_append] at split unreplaced unreturned
      rw [← List.cons_append, ← List.append_assoc] at split
      obtain ⟨rfl, same⟩ := List.append_inj' split rfl
      obtain rfl := List.head_eq_of_cons_eq same
      -- The call that has handed it out is among the earlier ones, and the last one leaves the
      -- block alone.
      rw [handedOut_append] at unreplaced
      rw [returned_append] at unreturned
      refine .inr ⟨⟨before, given, between, rfl, hands_out, ?_, ?_⟩, ?_, ?_⟩
      · exact fun other member => unreplaced other (List.mem_append_left _ member)
      · exact fun member => unreturned (List.mem_append_left _ member)
      · exact fun other member => unreplaced other (List.mem_append_right _ member)
      · exact fun member => unreturned (List.mem_append_right _ member)
  · rintro (hands_out |
      ⟨⟨before, given, after, rfl, hands_out, unreplaced, unreturned⟩, last, kept⟩)
    · exact ⟨history, call, [], rfl, hands_out, by simp [handedOut], by simp [returned]⟩
    -- The last call is put behind those that have left it alone.
    · refine ⟨before, given, after ++ [call], by simp, hands_out, ?_, ?_⟩
      · rw [handedOut_append]
        exact List.forall_mem_append.2 ⟨unreplaced, last⟩
      · rw [returned_append, List.mem_append]
        exact not_or.2 ⟨unreturned, kept⟩

theorem Outstanding.mem_handedOut (outstanding : Outstanding history block) :
    block ∈ handedOut history := by
  obtain ⟨before, given, after, rfl, hands_out, -⟩ := outstanding
  rw [List.append_cons, handedOut_append, handedOut_append]
  exact List.mem_append_left _ (List.mem_append_right _ hands_out)

/-! ## §2 The law of the heap

`Obeys` is the answer to one call after others, and `Lawful` says that every call of a history has
been answered so.  That the blocks of a lawful history lie one behind the other is a fact about
histories alone. -/

/-- What blocks take up, each rounded up to a multiple of eight. -/
def padded : List Block → Nat
  | [] => 0
  | block :: blocks => (block.len.toNat + 7) / 8 * 8 + padded blocks

/-- How a heap of the given size answers a call after others. -/
inductive Obeys (heapSize : UInt32) (before : List NativeCall) : NativeCall → Prop
  /-- There is no room behind the blocks that have been handed out. -/
  | full {len : UInt32} (short : heapSize.toNat < 16 + padded (handedOut before) + len.toNat) :
      Obeys heapSize before ⟨.malloc len, .ok 0⟩
  | given {addr len : UInt32} (behind : addr.toNat = 16 + padded (handedOut before))
      (room : addr.toNat + len.toNat ≤ heapSize.toNat) :
      Obeys heapSize before ⟨.malloc len, .ok addr⟩
  | taken {block : Block} (outstanding : Outstanding before block) :
      Obeys heapSize before ⟨.free block.addr, .ok ()⟩
  | unknown {addr : UInt32} (none_there : ∀ block, Outstanding before block → block.addr ≠ addr) :
      Obeys heapSize before
        ⟨.free addr, .error (.native ("free of unallocated block " ++ Text.address addr))⟩

/-- A history in which every call is answered as the heap answers after the calls before. -/
inductive Lawful (heapSize : UInt32) : List NativeCall → Prop
  | nil : Lawful heapSize []
  | concat {history : List NativeCall} {call : NativeCall} (lawful : Lawful heapSize history)
      (obeys : Obeys heapSize history call) : Lawful heapSize (history ++ [call])

theorem padded_append (first second : List Block) :
    padded (first ++ second) = padded first + padded second := by
  induction first with
  | nil => exact (Nat.zero_add _).symm
  | cons block first ih => rw [List.cons_append, padded, padded, ih, Nat.add_assoc]

theorem dvd_padded (blocks : List Block) : 8 ∣ padded blocks := by
  induction blocks with
  | nil => exact Nat.dvd_zero 8
  | cons block blocks ih => exact Nat.dvd_add (Nat.dvd_mul_left ..) ih

/-- Blocks that lie in a heap one behind the other. -/
structure Laid (heapSize : UInt32) (blocks : List Block) : Prop where
  start : ∀ block ∈ blocks, 16 ≤ block.addr.toNat
  aligned : ∀ block ∈ blocks, 8 ∣ block.addr.toNat
  inside : ∀ block ∈ blocks, block.stop ≤ heapSize.toNat
  ordered : blocks.Pairwise fun earlier later => earlier.stop ≤ later.addr.toNat
  covered : ∀ block ∈ blocks, block.stop ≤ 16 + padded blocks

variable {heapSize : UInt32} {blocks : List Block}

theorem Laid.put (laid : Laid heapSize blocks) (behind : block.addr.toNat = 16 + padded blocks)
    (room : block.stop ≤ heapSize.toNat) : Laid heapSize (blocks ++ [block]) where
  start := List.forall_mem_append.2 ⟨laid.start, by simp [behind]⟩
  aligned := by
    refine List.forall_mem_append.2 ⟨laid.aligned, List.forall_mem_singleton.2 ?_⟩
    rw [behind]
    -- All blocks before it are padded to multiples of eight.
    exact Nat.dvd_add (by decide) (dvd_padded blocks)
  inside := List.forall_mem_append.2 ⟨laid.inside, List.forall_mem_singleton.2 room⟩
  ordered := by
    refine List.pairwise_append.2 ⟨laid.ordered, List.pairwise_singleton .., ?_⟩
    -- It begins where the padded blocks end, and those are no shorter than the blocks.
    intro earlier member later last
    rw [List.mem_singleton.1 last, behind]
    exact laid.covered earlier member
  covered := by
    rw [padded_append]
    refine List.forall_mem_append.2 ⟨fun earlier member => ?_, List.forall_mem_singleton.2 ?_⟩
    · exact Nat.le_trans (laid.covered earlier member) (by omega)
    · simp only [Block.stop, padded] at *
      omega

theorem Lawful.laid (lawful : Lawful heapSize history) : Laid heapSize (handedOut history) := by
  -- The induction is on the history: only a block that is given lies in the heap, the others change
  -- nothing.
  induction lawful with
  | nil => exact ⟨by simp [handedOut], by simp [handedOut], by simp [handedOut], .nil,
      by simp [handedOut]⟩
  | @concat history call _ obeys ih =>
    rw [handedOut_append]
    cases obeys with
    | @given addr len behind room =>
      -- The block lies behind the first sixteen places, so its address is not null.
      have some_block : addr ≠ 0 := by
        rintro rfl
        simp at behind
        omega
      rw [handedOut_malloc some_block]
      exact ih.put behind room
    | full | taken | unknown =>
      show Laid heapSize (handedOut history ++ [])
      rwa [List.append_nil]

/-- Blocks that lie one behind the other and are not empty, the last one apart, have different
addresses. -/
theorem Laid.fresh (laid : Laid heapSize (handedOut history)) (solid : NoneBehindEmpty history) :
    ((handedOut history).map Block.addr).Nodup := by
  -- Had two of them one address, the earlier would have to be empty.
  refine List.pairwise_map.2 ((laid.ordered.and solid).imp ?_)
  rintro earlier later ⟨behind, nonempty⟩ same
  have positive : 0 < earlier.len.toNat := Checked.toNat_pos nonempty
  rw [← same, Block.stop] at behind
  omega

/-! ## §3 The blocks in stock

`Keeps` ties a core to a history: its next address lies behind the padded blocks, and its blocks
are the outstanding ones.  There are three ways in which a call can go on from there: it touches
no block, it hands one out, or it takes one back. -/

/-- The core has kept the law so far, and it has the outstanding blocks in stock. -/
structure Keeps (heapSize : UInt32) (history : List NativeCall) (bench : Bench) : Prop where
  untroubled : bench.mischief = {}
  size : bench.heapSize = heapSize
  next : bench.nextAlloc.toNat = 16 + padded (handedOut history)
  lawful : Lawful heapSize history
  live : ∀ block, block ∈ bench.blocks ↔ Outstanding history block
  apart : bench.blocks.Pairwise fun lower upper =>
    lower.addr ≠ upper.addr ∧ lower.stop ≤ upper.addr.toNat
  /-- What has been handed out has been taken back or is in stock. -/
  settled : NoneBehindEmpty history →
    ((handedOut history).map Block.addr).Perm (returned history ++ bench.blocks.map Block.addr)

theorem mem_eraseBlock {blocks : List Block} :
    block ∈ eraseBlock blocks addr ↔ block ∈ blocks ∧ block.addr ≠ addr := by
  simp [eraseBlock]

theorem mem_insertBlock {blocks : List Block} {new : Block} :
    block ∈ insertBlock blocks new ↔ (block ∈ blocks ∧ block.addr ≠ new.addr) ∨ block = new := by
  simp [insertBlock, mem_eraseBlock]

theorem eraseBlock_of_absent {blocks : List Block} (absent : addr ∉ blocks.map Block.addr) :
    eraseBlock blocks addr = blocks := by
  refine List.filter_eq_self.2 fun block member => bne_iff_ne.2 ?_
  rintro rfl
  exact absent (List.mem_map_of_mem member)

theorem blockLen?_isSome_iff {blocks : List Block} :
    (blockLen? blocks addr).isSome ↔ addr ∈ blocks.map Block.addr := by
  simp [blockLen?]

variable {bench : Bench}

theorem keeps_new (heapSize : UInt32) (screen : Screen) (stepStatus : Int32)
    (screenPastEnd : Bool) :
    Keeps heapSize [] { heapSize, screen, stepStatus, screenPastEnd } where
  untroubled := rfl
  size := rfl
  next := rfl
  lawful := .nil
  live block := by simp [Outstanding]
  apart := .nil
  settled _ := .nil

/-- The log is not part of the heap. -/
theorem Keeps.log {machine : Machine Bench} (keeps : Keeps heapSize history machine.state)
    (request : Request) : Keeps heapSize history (log machine request).state :=
  ⟨keeps.untroubled, keeps.size, keeps.next, keeps.lawful, keeps.live, keeps.apart, keeps.settled⟩

theorem NoneBehindEmpty.before (solid : NoneBehindEmpty (history ++ [call])) :
    NoneBehindEmpty history := by
  rw [NoneBehindEmpty, handedOut_append] at solid
  exact (List.pairwise_append.1 solid).1

theorem Keeps.nextAlloc_ne_zero (keeps : Keeps heapSize history bench) : bench.nextAlloc ≠ 0 := by
  intro null
  have next := keeps.next
  rw [null] at next
  simp at next
  omega

/-- No block is handed out or taken back. -/
theorem Keeps.idle (keeps : Keeps heapSize history bench) (obeys : Obeys heapSize history call)
    (none_given : handedOut [call] = []) (none_taken : returned [call] = []) :
    Keeps heapSize (history ++ [call]) bench where
  untroubled := keeps.untroubled
  size := keeps.size
  next := by rw [handedOut_append, none_given, List.append_nil, keeps.next]
  lawful := keeps.lawful.concat obeys
  live block := by
    rw [outstanding_concat_iff, none_given, none_taken, keeps.live]
    simp
  apart := keeps.apart
  settled solid := by
    rw [handedOut_append, returned_append, none_given, none_taken, List.append_nil,
      List.append_nil]
    exact keeps.settled solid.before

/-- The next block is handed out. -/
theorem Keeps.give {nextAlloc : UInt32} (keeps : Keeps heapSize history bench)
    (room : bench.nextAlloc.toNat + len.toNat ≤ bench.heapSize.toNat)
    (rounded : nextAlloc.toNat = (bench.nextAlloc.toNat + len.toNat + 7) / 8 * 8) :
    Keeps heapSize (history ++ [⟨.malloc len, .ok bench.nextAlloc⟩])
      { bench with nextAlloc, blocks := insertBlock bench.blocks ⟨bench.nextAlloc, len⟩ } := by
  have given : handedOut [⟨.malloc len, .ok bench.nextAlloc⟩] = [⟨bench.nextAlloc, len⟩] :=
    handedOut_malloc keeps.nextAlloc_ne_zero
  have lawful := keeps.lawful.concat (.given keeps.next (keeps.size ▸ room))
  refine ⟨keeps.untroubled, keeps.size, ?_, lawful, fun block => ?_, ?_, fun solid => ?_⟩
  -- The next address is a multiple of eight, so that only the length of the block is rounded.
  · have whole := dvd_padded (handedOut history)
    have next := keeps.next
    rw [handedOut_append, given, padded_append, rounded]
    simp only [padded] at *
    omega
  -- At its address the new block takes the place of any other.
  · rw [mem_insertBlock, outstanding_concat_iff, given, keeps.live, List.mem_singleton,
      List.forall_mem_singleton]
    simp [returned, eq_comm, or_comm]
  · -- What is in stock has been handed out before, and so it ends before the new block.
    refine List.pairwise_append.2 ⟨keeps.apart.filter _, List.pairwise_singleton .., ?_⟩
    intro lower member upper last
    obtain ⟨member, other⟩ := mem_eraseBlock.1 member
    rw [List.mem_singleton.1 last]
    refine ⟨other, ?_⟩
    rw [keeps.next]
    exact keeps.lawful.laid.covered lower ((keeps.live lower).1 member).mem_handedOut
  -- No block lies at the new address yet, so none is replaced and the new one adds to the sum.
  · have fresh := lawful.laid.fresh solid
    rw [handedOut_append, given, List.map_append] at fresh
    have unused : bench.nextAlloc ∉ (handedOut history).map Block.addr := fun used =>
      (List.nodup_append.1 fresh).2.2 _ used _ (List.mem_singleton_self _) rfl
    have absent : bench.nextAlloc ∉ bench.blocks.map Block.addr := fun used =>
      unused ((keeps.settled solid.before).mem_iff.2 (List.mem_append_right _ used))
    show List.Perm _ (_ ++ List.map Block.addr (eraseBlock bench.blocks bench.nextAlloc ++ [_]))
    rw [eraseBlock_of_absent absent, handedOut_append, given, returned_append, List.map_append,
      List.map_append, ← List.append_assoc]
    exact ((keeps.settled solid.before).append_right _).trans (by simp [returned])

theorem perm_eraseBlock {blocks : List Block} (distinct : (blocks.map Block.addr).Nodup)
    (member : addr ∈ blocks.map Block.addr) :
    (blocks.map Block.addr).Perm (addr :: (eraseBlock blocks addr).map Block.addr) := by
  have erased : (eraseBlock blocks addr).map Block.addr = (blocks.map Block.addr).erase addr := by
    rw [distinct.erase_eq_filter, List.filter_map]
    rfl
  rw [erased]
  exact List.perm_cons_erase member

/-- A block is taken back. -/
theorem Keeps.take (keeps : Keeps heapSize history bench) (member : block ∈ bench.blocks) :
    Keeps heapSize (history ++ [⟨.free block.addr, .ok ()⟩])
      { bench with blocks := eraseBlock bench.blocks block.addr } := by
  have obeys : Obeys heapSize history ⟨.free block.addr, .ok ()⟩ :=
    .taken ((keeps.live block).1 member)
  have none_given : handedOut [⟨.free block.addr, .ok ()⟩] = [] := rfl
  have taken : returned [⟨.free block.addr, .ok ()⟩] = [block.addr] := rfl
  refine ⟨keeps.untroubled, keeps.size, ?_, keeps.lawful.concat obeys, fun other => ?_,
    keeps.apart.filter _, fun solid => ?_⟩
  · rw [handedOut_append, none_given, List.append_nil]
    exact keeps.next
  -- The block is the only one at its address.
  · rw [mem_eraseBlock, outstanding_concat_iff, none_given, taken, keeps.live]
    simp
  -- Taking the block away takes its address away once.
  · have distinct : (bench.blocks.map Block.addr).Nodup :=
      List.pairwise_map.2 (keeps.apart.imp And.left)
    rw [handedOut_append, none_given, List.append_nil, returned_append, taken, List.append_assoc]
    exact (keeps.settled solid.before).trans
      ((perm_eraseBlock distinct (List.mem_map_of_mem member)).append_left _)

/-! ## §4 Runs

`Keeps.answer` takes the cases of one call together, and `Keeps.askAll` carries them through a list
of calls by induction. -/

variable {machine next : Machine Bench}

theorem Keeps.malloc_full (keeps : Keeps heapSize history machine.state)
    (short : machine.state.heapSize.toNat < machine.state.nextAlloc.toNat + len.toNat) :
    ∃ next, NativeCore.answer (.malloc len) machine = .ok (.ok 0, next) ∧
      Keeps heapSize (history ++ [⟨.malloc len, .ok 0⟩]) next.state := by
  have gives : (Bench.log machine (.malloc len)).state.bump len = .ok (0, _) := bump_full short
  -- What the counter says is what the law says, in terms of the history.
  rw [keeps.next, keeps.size] at short
  refine ⟨Bench.log machine (.malloc len), ?_, (keeps.log _).idle (.full short) rfl rfl⟩
  rw [malloc_answer keeps.untroubled, gives]
  rfl

theorem Keeps.malloc_given (keeps : Keeps heapSize history machine.state)
    (room : machine.state.nextAlloc.toNat + len.toNat ≤ machine.state.heapSize.toNat)
    (addressed : machine.state.nextAlloc.toNat + len.toNat + 8 < 2 ^ 32) :
    ∃ next, NativeCore.answer (.malloc len) machine = .ok (.ok machine.state.nextAlloc, next) ∧
      Keeps heapSize (history ++ [⟨.malloc len, .ok machine.state.nextAlloc⟩]) next.state := by
  obtain ⟨nextAlloc, rounded, gives⟩ :
      ∃ nextAlloc : UInt32, _ ∧ (Bench.log machine (.malloc len)).state.bump len = _ :=
    bump_ok room addressed
  refine ⟨⟨machine.memory, _⟩, ?_, (keeps.log _).give room rounded⟩
  rw [malloc_answer keeps.untroubled, gives]
  rfl

theorem malloc_overflow (keeps : Keeps heapSize history machine.state)
    (room : machine.state.nextAlloc.toNat + len.toNat ≤ machine.state.heapSize.toNat)
    (last : 2 ^ 32 ≤ machine.state.nextAlloc.toNat + len.toNat + 8) :
    NativeCore.answer (.malloc len) machine = .error .overflow := by
  have stops : (Bench.log machine (.malloc len)).state.bump len = .error .overflow :=
    bump_overflow room last
  rw [malloc_answer keeps.untroubled, stops]
  rfl

theorem free_of_mem (member : addr ∈ bench.blocks.map Block.addr) :
    bench.free addr = (.ok (), { bench with blocks := eraseBlock bench.blocks addr }) := by
  obtain ⟨len, found⟩ := Option.isSome_iff_exists.1 (blockLen?_isSome_iff.2 member)
  unfold Bench.free
  rw [found]

theorem free_of_not_mem (absent : addr ∉ bench.blocks.map Block.addr) :
    bench.free addr =
      (.error (.native ("free of unallocated block " ++ Text.address addr)), bench) := by
  have none_there : blockLen? bench.blocks addr = none :=
    Option.not_isSome_iff_eq_none.1 (mt blockLen?_isSome_iff.1 absent)
  unfold Bench.free
  rw [none_there]

theorem Keeps.free_taken (keeps : Keeps heapSize history machine.state)
    (member : block ∈ machine.state.blocks) :
    ∃ next, NativeCore.answer (.free block.addr) machine = .ok (.ok (), next) ∧
      Keeps heapSize (history ++ [⟨.free block.addr, .ok ()⟩]) next.state := by
  have takes : (Bench.log machine (.free block.addr)).state.free block.addr = _ :=
    free_of_mem (List.mem_map_of_mem member)
  refine ⟨⟨machine.memory, _⟩, ?_, (keeps.log (.free block.addr)).take member⟩
  simp only [NativeCore.answer, answer, takes]
  rfl

theorem Keeps.free_unknown (keeps : Keeps heapSize history machine.state)
    (absent : addr ∉ machine.state.blocks.map Block.addr) :
    ∃ next, NativeCore.answer (.free addr) machine =
        .ok (.error (.native ("free of unallocated block " ++ Text.address addr)), next) ∧
      Keeps heapSize (history ++ [⟨.free addr,
        .error (.native ("free of unallocated block " ++ Text.address addr))⟩]) next.state := by
  have refuses : (Bench.log machine (.free addr)).state.free addr = _ := free_of_not_mem absent
  have none_there : ∀ block, Outstanding history block → block.addr ≠ addr := by
    rintro block outstanding rfl
    exact absent (List.mem_map_of_mem ((keeps.live block).2 outstanding))
  refine ⟨Bench.log machine (.free addr), ?_, (keeps.log _).idle (.unknown none_there) rfl rfl⟩
  simp only [NativeCore.answer, answer, refuses]
  rfl

/-- Every call is answered as the law says, unless the end of its block cannot be rounded up. -/
theorem Keeps.answer (keeps : Keeps heapSize history machine.state) (call : HeapCall) :
    (∃ answer next, NativeCore.answer call.request machine = .ok (answer, next) ∧
        Keeps heapSize (history ++ [⟨call.request, answer⟩]) next.state) ∨
      (NativeCore.answer call.request machine = .error .overflow ∧
        2 ^ 32 ≤ heapSize.toNat + 8) := by
  -- The call meets its law in one of five ways: there is room or there is none, and a block is in
  -- stock or not; with room, there is a next address or there is none.
  cases call with
  | malloc len =>
    by_cases room : machine.state.nextAlloc.toNat + len.toNat ≤ machine.state.heapSize.toNat
    · rcases Nat.lt_or_ge (machine.state.nextAlloc.toNat + len.toNat + 8) (2 ^ 32) with
        addressed | last
      · exact .inl ⟨_, keeps.malloc_given room addressed⟩
      · refine .inr ⟨malloc_overflow keeps room last, ?_⟩
        rw [keeps.size] at room
        omega
    · exact .inl ⟨_, keeps.malloc_full (Nat.not_le.1 room)⟩
  | free addr =>
    by_cases member : addr ∈ machine.state.blocks.map Block.addr
    · obtain ⟨block, live, rfl⟩ := List.mem_map.1 member
      exact .inl ⟨_, keeps.free_taken live⟩
    · exact .inl ⟨_, keeps.free_unknown member⟩

theorem Keeps.askAll (keeps : Keeps heapSize history machine.state) (calls : List HeapCall) :
    (∃ more next, askAll (calls.map HeapCall.request) machine = .ok (more, next) ∧
        Keeps heapSize (history ++ more) next.state) ∨
      (askAll (calls.map HeapCall.request) machine = .error .overflow ∧
        2 ^ 32 ≤ heapSize.toNat + 8) := by
  -- The induction is on the calls, for every history that has been kept so far.
  induction calls generalizing history machine with
  | nil => exact .inl ⟨[], machine, rfl, by rwa [List.append_nil]⟩
  | cons call calls ih =>
    simp only [List.map_cons, Handheld.askAll]
    rcases keeps.answer call with ⟨answer, next, answered, kept⟩ | ⟨cut, large⟩
    · rw [answered]
      rcases ih kept with ⟨more, last, goes_on, final⟩ | ⟨cut, large⟩
      · refine .inl ⟨⟨call.request, answer⟩ :: more, last, ?_, ?_⟩
        -- What the first call hands on is what the others start from.
        · show (Handheld.askAll _ next >>= fun _ => _) = _
          rw [goes_on]
          rfl
        · rwa [List.append_assoc] at final
      · refine .inr ⟨?_, large⟩
        show (Handheld.askAll _ next >>= fun _ => _) = _
        rw [cut]
        rfl
    · rw [cut]
      exact .inr ⟨rfl, large⟩

/-! ## §5 The heap allocates -/

/-- A block can be given back if it is in stock, and not if there is none at its address. -/
theorem Keeps.free_iff (keeps : Keeps heapSize history machine.state) :
    (∃ next, NativeCore.answer (.free addr) machine = .ok (.ok (), next)) ↔
      addr ∈ machine.state.blocks.map Block.addr := by
  constructor
  · rintro ⟨next, answered⟩
    -- A refusal is an answer too, and the answers cannot both be given.
    refine Classical.byContradiction fun absent => ?_
    obtain ⟨_, refused, -⟩ := keeps.free_unknown absent
    cases answered.symm.trans refused
  · intro member
    obtain ⟨block, live, rfl⟩ := List.mem_map.1 member
    obtain ⟨next, answered, -⟩ := keeps.free_taken live
    exact ⟨next, answered⟩

/-- A heap has an answer to everything exactly if the address eight places behind it is a word. -/
theorem Keeps.askAll_ok_iff (keeps : Keeps heapSize [] machine.state) :
    (∀ calls : List HeapCall, ∃ history next,
        Handheld.askAll (calls.map HeapCall.request) machine = .ok (history, next)) ↔
      heapSize.toNat + 8 < 2 ^ 32 := by
  constructor
  · -- A block that ends where a larger heap ends has no next address behind it.
    refine fun runs => Nat.lt_of_not_le fun large => ?_
    have next : machine.state.nextAlloc.toNat = 16 := keeps.next
    have length : (heapSize - 16).toNat = heapSize.toNat - 16 :=
      UInt32.toNat_sub_of_le _ _ (UInt32.le_iff_toNat_le.2 (by simp; omega))
    have fits : machine.state.nextAlloc.toNat + (heapSize - 16).toNat = heapSize.toNat := by omega
    have overflows : NativeCore.answer (.malloc (heapSize - 16)) machine = .error .overflow := by
      refine malloc_overflow keeps (Nat.le_of_eq ?_) (by omega)
      rw [fits, keeps.size]
    obtain ⟨history, last, run⟩ := runs [.malloc (heapSize - 16)]
    simp only [List.map_cons, HeapCall.request, Handheld.askAll] at run
    rw [overflows] at run
    cases run
  · intro small calls
    rcases keeps.askAll calls with ⟨more, next, run, -⟩ | ⟨-, large⟩
    · exact ⟨more, next, run⟩
    · exact absurd small (Nat.not_lt.2 large)

/-- Every sequence of calls is answered exactly if the address eight places behind the heap is a
word.  Whatever has been answered is lawful; the blocks that have been handed out lie in the heap
one behind the other, at multiples of eight and not before address 16.  The outstanding ones are in
stock, apart from each other, and they are those that can be given back.  As long as nothing has
been handed out behind an empty block no address comes up twice, and each of them has either been
taken back, once, or is that of a block in stock. -/
theorem heap_allocates (heapSize : UInt32) (screen : Screen) (stepStatus : Int32)
    (screenPastEnd : Bool) :
    ((∀ calls : List HeapCall, ∃ history machine, askAll (calls.map HeapCall.request)
        (Bench.machine { heapSize, screen, stepStatus, screenPastEnd }) = .ok (history, machine)) ↔
      heapSize.toNat + 8 < 2 ^ 32) ∧
    ∀ (calls : List HeapCall) (history : List NativeCall) (machine : Machine Bench),
      askAll (calls.map HeapCall.request)
          (Bench.machine { heapSize, screen, stepStatus, screenPastEnd }) = .ok (history, machine) →
        Lawful heapSize history ∧ Laid heapSize (handedOut history) ∧
        (∀ block, block ∈ machine.state.blocks ↔ Outstanding history block) ∧
        (machine.state.blocks.Pairwise fun lower upper =>
          lower.addr ≠ upper.addr ∧ lower.stop ≤ upper.addr.toNat) ∧
        (∀ addr, (∃ next, NativeCore.answer (.free addr) machine = .ok (.ok (), next)) ↔
          addr ∈ machine.state.blocks.map Block.addr) ∧
        (NoneBehindEmpty history →
          ((handedOut history).map Block.addr).Nodup ∧
          ((handedOut history).map Block.addr).Perm
            (returned history ++ machine.state.blocks.map Block.addr) ∧
          machine.state.blocks.length + (returned history).length =
            (handedOut history).length) := by
  have start : Keeps heapSize []
      (Bench.machine { heapSize, screen, stepStatus, screenPastEnd }).state :=
    keeps_new heapSize screen stepStatus screenPastEnd
  refine ⟨start.askAll_ok_iff, fun calls history machine run => ?_⟩
  rcases start.askAll calls with ⟨more, next, same, keeps⟩ | ⟨cut, -⟩
  · cases run.symm.trans same
    -- The history began empty, so it is the answers themselves.
    rw [List.nil_append] at keeps
    have laid := keeps.lawful.laid
    refine ⟨keeps.lawful, laid, keeps.live, keeps.apart, fun addr => keeps.free_iff,
      fun solid => ⟨laid.fresh solid, keeps.settled solid, ?_⟩⟩
    -- The lengths are those of the two sides of the permutation.
    have lengths := (keeps.settled solid).length_eq
    simp only [List.length_map, List.length_append] at lengths
    omega
  · cases run.symm.trans cut

/-- Two blocks and, last of all, an empty one are handed out.  The first two are taken back; the
first is not taken back again, and there is no room for a block of 100 bytes. -/
theorem heap_allocates_of_empty_block :
    ∃ history machine,
      askAll ([.malloc 5, .malloc 11, .free 16, .malloc 100, .free 16, .malloc 0, .free 24].map
          HeapCall.request) (Bench.machine { heapSize := 64 }) = .ok (history, machine) ∧
        handedOut history = [⟨16, 5⟩, ⟨24, 11⟩, ⟨40, 0⟩] ∧ Lawful 64 history ∧
        machine.state.blocks.length + (returned history).length = 3 ∧
        Outstanding history ⟨40, 0⟩ ∧
        ∃ next, NativeCore.answer (.free 40) machine = .ok (.ok (), next) := by
  -- The run is evaluated, and the theorem says the rest about it.
  obtain ⟨⟨history, machine⟩, run, given, stock⟩ : ∃ reply,
      askAll ([.malloc 5, .malloc 11, .free 16, .malloc 100, .free 16, .malloc 0, .free 24].map
          HeapCall.request) (Bench.machine { heapSize := 64 }) = .ok reply ∧
        handedOut reply.1 = [⟨16, 5⟩, ⟨24, 11⟩, ⟨40, 0⟩] ∧ ⟨40, 0⟩ ∈ reply.2.state.blocks :=
    Checked.exists_of_any (by decide +kernel)
  obtain ⟨lawful, -, live, -, takes, settled⟩ :=
    (heap_allocates 64 ⟨160, 144⟩ 0 false).2 _ history machine run
  -- The empty block is the last one that has been handed out.
  have solid : NoneBehindEmpty history := by
    rw [NoneBehindEmpty, given]
    decide
  obtain ⟨-, -, count⟩ := settled solid
  rw [given] at count
  exact ⟨history, machine, run, given, lawful, count, (live _).1 stock,
    (takes 40).2 (List.mem_map_of_mem stock)⟩

/-- Two empty blocks have one address, and there is one block in stock for both of them. -/
theorem empty_blocks_share_address :
    ∃ history machine,
      askAll ([.malloc 0, .malloc 0].map HeapCall.request) (Bench.machine { heapSize := 64 }) =
          .ok (history, machine) ∧
        handedOut history = [⟨16, 0⟩, ⟨16, 0⟩] ∧ returned history = [] ∧
        machine.state.blocks = [⟨16, 0⟩] := by
  obtain ⟨⟨history, machine⟩, run, share⟩ : ∃ reply,
      askAll ([.malloc 0, .malloc 0].map HeapCall.request) (Bench.machine { heapSize := 64 }) =
          .ok reply ∧
        handedOut reply.1 = [⟨16, 0⟩, ⟨16, 0⟩] ∧ returned reply.1 = [] ∧
        reply.2.state.blocks = [⟨16, 0⟩] := Checked.exists_of_any (by decide +kernel)
  exact ⟨history, machine, run, share⟩

end Bench

end Handheld
