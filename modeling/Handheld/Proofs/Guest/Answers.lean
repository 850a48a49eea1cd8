import Handheld.Proofs.Bench.Stock
import Handheld.Proofs.Guest.Linking
import Handheld.Proofs.Guest.Words

/-!
# What the Sample Core Answers

`Sample.Replies` lists what comes of a request to the sample core: the answer, and the machine that
is left behind.  The core answers every request and in no other way (`Intact.exists_replies`), as
long as the end of a block that it is asked for is a word.

Each function of the core keeps to an area of memory.  The screen is filled word by word, and so the
proof for a step goes by induction on the number of words.
-/

namespace Handheld

/-! ## §1 Calls of a linked core -/

namespace Linked

variable {σ : Type} {machine : Machine (Linked σ)} {memory : Bytes} {state : σ} {request : Request}

/-- A word that a function gives is the answer. -/
theorem answer_of_word [Sandbox] {word : UInt32}
    (call : machine.state.body request.function request.operands
      ⟨machine.memory, machine.state.state⟩ = (.ok word, ⟨memory, state⟩)) :
    NativeCore.answer request machine = .ok (.ok (request.ofWord word),
      ⟨memory, ⟨state, machine.state.body⟩⟩) := by
  simp only [NativeCore.answer, Linked.call, call]

/-- A trap is an error of the call; what has been done before it stays done. -/
theorem answer_of_trap [Sandbox] {trap : Trap}
    (call : machine.state.body request.function request.operands
      ⟨machine.memory, machine.state.state⟩ = (.error trap, ⟨memory, state⟩)) :
    NativeCore.answer request machine = .ok (.error (.native (Sandbox.trapText trap)),
      ⟨memory, ⟨state, machine.state.body⟩⟩) := by
  simp only [NativeCore.answer, Linked.call, call]

end Linked

namespace Sample

/-! ## §2 The functions

The functions of the core store words and fill the screen.  What they leave behind is said by place,
inside and outside of what they write; the screen is filled by induction on the number of words. -/

theorem store_ok {addr : Nat} {word : UInt32} {memory : Bytes} {state : Sample}
    (inside : addr + 4 ≤ memory.size) :
    store addr word ⟨memory, state⟩ = (.ok 0, ⟨Memory.storeWord memory addr word, state⟩) :=
  if_pos inside

/-- A word in memory, the least significant byte first. -/
def HoldsWord (memory : Bytes) (start : Nat) (word : UInt32) : Prop :=
  Frame.HoldsPixel memory start (Memory.wordByte word 0) (Memory.wordByte word 1)
    (Memory.wordByte word 2) (Memory.wordByte word 3)

/-- The first words of the screen are filled, and nothing else is written. -/
theorem fill_ok (word : UInt32) (state : Sample) {count : Nat} {before : Bytes}
    (inside : 0x800 + 4 * count ≤ before.size) :
    ∃ memory, fill word count ⟨before, state⟩ = (.ok 0, ⟨memory, state⟩) ∧
      Memory.Confined 0x800 (0x800 + 4 * count) before memory ∧
      ∀ place < count, HoldsWord memory (0x800 + 4 * place) word := by
  -- The induction is on the number of words; each of them is stored behind the ones before.
  induction count with
  | zero => exact ⟨before, rfl, .refl .., nofun⟩
  | succ count ih =>
    obtain ⟨memory, fills, confined, filled⟩ := ih (by omega)
    have room : 0x800 + 4 * count + 4 ≤ memory.size := by
      rw [confined.size]
      omega
    have last := Memory.confined_storeWord memory (0x800 + 4 * count) word
    refine ⟨Memory.storeWord memory (0x800 + 4 * count) word, ?_,
      (confined.mono (by omega) (by omega)).trans (last.mono (by omega) (by omega)), ?_⟩
    · simp only [fill, fills]
      exact store_ok room
    · intro place before_next
      rcases Nat.lt_succ_iff_lt_or_eq.1 before_next with earlier | rfl
      · exact last.holdsPixel (.inl (by omega)) (filled place earlier)
      · exact Memory.holdsPixel_storeBytes _ _ _ _ room

/-- The top of the heap is a sum that may wrap around, cut to a multiple of eight. -/
theorem toNat_top (heap len : UInt32) :
    ((heap + len + 7) &&& 0xFFFFFFF8).toNat = (heap.toNat + len.toNat + 7) % 2 ^ 32 / 8 * 8 := by
  have sum : (heap + len + 7).toNat = (heap.toNat + len.toNat + 7) % 2 ^ 32 := by
    rw [UInt32.toNat_add, UInt32.toNat_add, Nat.mod_add_mod]
    rfl
  rw [UInt32.toNat_and, sum]
  -- The mask clears the three lowest bits.
  exact Bench.and_mask _ (Nat.mod_lt _ (by decide))

/-! ## §3 Requests

One lemma for each request that does something, in the form of `Replies`.  The core is a function,
so once every request has an answer that is listed, no other answer can come
(`Intact.replies_of_answer`). -/

/-- The sample core has all of its memory and the functions of its own. -/
structure Intact (machine : Machine (Linked Sample)) : Prop where
  size : machine.memory.size = memorySize
  body : machine.state.body = Sample.body {}

/-- The handle of the only instance. -/
def onlyHandle : Handle := ⟨7, by decide⟩

variable [Sandbox]

/-- What comes of a request to the sample core. -/
inductive Replies (machine : Machine (Linked Sample)) :
    (request : Request) → Except Error request.Answer → Machine (Linked Sample) → Prop
  /-- The heap would have to end behind the end of memory. -/
  | full {len : UInt32}
      (short : memorySize < (machine.state.state.heap.toNat + len.toNat + 7) / 8 * 8) :
      Replies machine (.malloc len) (.ok 0) machine
  | given {len top : UInt32}
      (rounded : top.toNat = (machine.state.state.heap.toNat + len.toNat + 7) / 8 * 8)
      (room : top.toNat ≤ memorySize) :
      Replies machine (.malloc len) (.ok machine.state.state.heap)
        { machine with state.state.heap := top }
  | freed {addr count : UInt32} (found : Memory.loadWord? machine.memory 28 = some count) :
      Replies machine (.free addr) (.ok ())
        { machine with memory := Memory.storeWord machine.memory 28 (count + 1) }
  | refused {rom : UInt32} : Replies machine (.create rom 0) (.ok none) machine
  | created {rom len : UInt32} (nonempty : len ≠ 0) :
      Replies machine (.create rom len) (.ok (some onlyHandle))
        { machine with state.state.rom := rom, state.state.handle := 7 }
  | destroyed {handle : Handle} :
      Replies machine (.destroy handle) (.ok ()) { machine with state.state.handle := 0 }
  /-- Another instance than the running one cannot be stepped. -/
  | unknown {handle : Handle} {mode : StepMode} (other : handle.raw ≠ machine.state.state.handle) :
      Replies machine (.step handle mode) (.ok 1) machine
  /-- A step smaller than a frame cannot be made. -/
  | aborted {handle : Handle} (own : handle.raw = machine.state.state.handle) :
      Replies machine (.step handle .instruction)
        (.error (.native (Sandbox.trapText (.unknownImport "abort")))) machine
  /-- The rom that was given is not in memory. -/
  | lost {handle : Handle} (own : handle.raw = machine.state.state.handle)
      (outside : machine.memory.size ≤ machine.state.state.rom.toNat) :
      Replies machine (.step handle .vsync) (.error (.native (Sandbox.trapText .outOfBounds)))
        { machine with state.state.frames := machine.state.state.frames + 1 }
  /-- The screen is filled. -/
  | stepped {handle : Handle} {memory : Bytes} (own : handle.raw = machine.state.state.handle)
      (drawn : Memory.Confined 0x800 0x880 machine.memory memory) :
      Replies machine (.step handle .vsync) (.ok 0)
        { machine with memory, state.state.frames := machine.state.state.frames + 1 }
  | pointer {handle : Handle} : Replies machine (.screenPointer handle) (.ok 0x800) machine
  | width {handle : Handle} : Replies machine (.screenWidth handle) (.ok 8) machine
  | height {handle : Handle} : Replies machine (.screenHeight handle) (.ok 4) machine
  | noted {handle : Handle} {button : Button} {state : ButtonState} :
      Replies machine (.setButtonState handle button state) (.ok ())
        ⟨Memory.storeWord (Memory.storeWord machine.memory 16 button.id.toUInt32) 20
          state.id.toUInt32, machine.state⟩

variable {machine after : Machine (Linked Sample)} {request : Request}
  {reply : Except Error request.Answer}

/-- A call for a block that has no room is answered with null. -/
theorem Replies.malloc_cases {len : UInt32} {answer : Except Error UInt32}
    (replies : Replies machine (.malloc len) answer after) :
    (answer = .ok 0 ∧ after = machine ∧
        memorySize < (machine.state.state.heap.toNat + len.toNat + 7) / 8 * 8) ∨
      ∃ top : UInt32, answer = .ok machine.state.state.heap ∧
        after = { machine with state.state.heap := top } ∧
        top.toNat = (machine.state.state.heap.toNat + len.toNat + 7) / 8 * 8 ∧
        top.toNat ≤ memorySize := by
  cases replies with
  | full short => exact .inl ⟨rfl, rfl, short⟩
  | given rounded room => exact .inr ⟨_, rfl, rfl, rounded, room⟩

/-- An instance is created unless the rom is empty. -/
theorem Replies.create_cases {rom len : UInt32} {answer : Except Error (Option Handle)}
    (replies : Replies machine (.create rom len) answer after) :
    (answer = .ok none ∧ after = machine ∧ len = 0) ∨
      answer = .ok (some onlyHandle) ∧
        after = { machine with state.state.rom := rom, state.state.handle := 7 } := by
  cases replies with
  | refused => exact .inl ⟨rfl, rfl, rfl⟩
  | created => exact .inr ⟨rfl, rfl⟩

section Intact

variable (intact : Intact machine) {word : UInt32} {trap : Trap} {memory : Bytes} {state : Sample}
include intact

theorem Intact.answer_of_word
    (call : Sample.body {} request.function request.operands
      ⟨machine.memory, machine.state.state⟩ = (.ok word, ⟨memory, state⟩)) :
    NativeCore.answer request machine = .ok (.ok (request.ofWord word),
      ⟨memory, ⟨state, machine.state.body⟩⟩) :=
  Linked.answer_of_word (by rw [intact.body, call])

theorem Intact.answer_of_trap
    (call : Sample.body {} request.function request.operands
      ⟨machine.memory, machine.state.state⟩ = (.error trap, ⟨memory, state⟩)) :
    NativeCore.answer request machine = .ok (.error (.native (Sandbox.trapText trap)),
      ⟨memory, ⟨state, machine.state.body⟩⟩) :=
  Linked.answer_of_trap (by rw [intact.body, call])

/-- A frame of a rom that lies in memory fills the screen with the pixel of the frame. -/
theorem Intact.step_fills {handle : Handle} {romByte : UInt8}
    (own : handle.raw = machine.state.state.handle)
    (found : machine.memory[machine.state.state.rom.toNat]? = some romByte) :
    ∃ memory, NativeCore.answer (.step handle .vsync) machine = .ok (.ok 0,
        { machine with memory, state.state.frames := machine.state.state.frames + 1 }) ∧
      Memory.Confined 0x800 0x880 machine.memory memory ∧
      ∀ place < 32, HoldsWord memory (0x800 + 4 * place)
        (pixel (machine.state.state.frames + 1) romByte) := by
  -- The instance is the running one and the step is a frame, so the core draws.
  have draws : Sample.step [handle.raw, 0] ⟨machine.memory, machine.state.state⟩ =
      draw ⟨machine.memory,
        { machine.state.state with frames := machine.state.state.frames + 1 }⟩ :=
    (if_neg (not_not.2 own)).trans (if_neg (by decide))
  simp only [draw, found] at draws
  have inside : 0x800 + 4 * 32 ≤ machine.memory.size := by
    rw [intact.size]
    decide
  obtain ⟨memory, fills, drawn, filled⟩ := fill_ok (pixel (machine.state.state.frames + 1) romByte)
    { machine.state.state with frames := machine.state.state.frames + 1 } inside
  exact ⟨memory, intact.answer_of_word (draws.trans fills), drawn, filled⟩

theorem Intact.step (handle : Handle) (mode : StepMode) :
    ∃ reply after, NativeCore.answer (.step handle mode) machine = .ok (reply, after) ∧
      Replies machine (.step handle mode) reply after := by
  -- The core compares the instance first, then the kind of the step, and then it looks for the rom.
  by_cases other : handle.raw ≠ machine.state.state.handle
  · have call : Sample.step [handle.raw, mode.id] ⟨machine.memory, machine.state.state⟩ =
        (.ok 1, ⟨machine.memory, machine.state.state⟩) := if_pos other
    exact ⟨_, _, intact.answer_of_word call, .unknown other⟩
  have own : handle.raw = machine.state.state.handle := not_not.1 other
  cases mode with
  | instruction =>
    have call : Sample.step [handle.raw, 1] ⟨machine.memory, machine.state.state⟩ =
        abort ⟨machine.memory, machine.state.state⟩ := (if_neg other).trans (if_pos (by decide))
    exact ⟨_, _, intact.answer_of_trap call, .aborted own⟩
  | vsync =>
    cases found : machine.memory[machine.state.state.rom.toNat]? with
    | none =>
      have draws : Sample.step [handle.raw, 0] ⟨machine.memory, machine.state.state⟩ =
          draw ⟨machine.memory,
            { machine.state.state with frames := machine.state.state.frames + 1 }⟩ :=
        (if_neg other).trans (if_neg (by decide))
      simp only [draw, found] at draws
      exact ⟨_, _, intact.answer_of_trap draws, .lost own (Array.getElem?_eq_none_iff.1 found)⟩
    | some romByte =>
      obtain ⟨memory, answered, drawn, -⟩ := intact.step_fills own found
      exact ⟨_, _, answered, .stepped own drawn⟩

/-- A block is handed out at the top of the heap, unless its rounded end is behind the end of
memory. -/
theorem Intact.malloc_top (len : UInt32) :
    ∃ top : UInt32, top.toNat = (machine.state.state.heap.toNat + len.toNat + 7) % 2 ^ 32 / 8 * 8 ∧
      (memorySize < top.toNat ∧ NativeCore.answer (.malloc len) machine = .ok (.ok 0, machine) ∨
        top.toNat ≤ memorySize ∧ NativeCore.answer (.malloc len) machine =
          .ok (.ok machine.state.state.heap, { machine with state.state.heap := top })) := by
  refine ⟨_, toNat_top machine.state.state.heap len, ?_⟩
  -- The core compares the rounded end, which is what the sum leaves of it after the wrap.
  by_cases short : 0x20000 < (machine.state.state.heap + len + 7) &&& 0xFFFFFFF8
  · have call : Sample.malloc [len] ⟨machine.memory, machine.state.state⟩ =
        (.ok 0, ⟨machine.memory, machine.state.state⟩) := if_pos short
    exact .inl ⟨UInt32.lt_iff_toNat_lt.1 short, intact.answer_of_word call⟩
  · have call : Sample.malloc [len] ⟨machine.memory, machine.state.state⟩ =
        (.ok machine.state.state.heap, ⟨machine.memory, { machine.state.state with
          heap := (machine.state.state.heap + len + 7) &&& 0xFFFFFFF8 }⟩) := if_neg short
    exact .inr ⟨UInt32.le_iff_toNat_le.1 (UInt32.not_lt.1 short), intact.answer_of_word call⟩

theorem Intact.malloc {len : UInt32}
    (word : machine.state.state.heap.toNat + len.toNat + 7 < 2 ^ 32) :
    ∃ reply after, NativeCore.answer (.malloc len) machine = .ok (reply, after) ∧
      Replies machine (.malloc len) reply after := by
  obtain ⟨top, rounded, ⟨short, answered⟩ | ⟨room, answered⟩⟩ := intact.malloc_top len
  -- Where the sum is a word nothing has wrapped.
  all_goals rw [Nat.mod_eq_of_lt word] at rounded
  · exact ⟨_, _, answered, .full (rounded ▸ short)⟩
  · exact ⟨_, _, answered, .given rounded room⟩

theorem Intact.create (rom len : UInt32) :
    ∃ reply after, NativeCore.answer (.create rom len) machine = .ok (reply, after) ∧
      Replies machine (.create rom len) reply after := by
  by_cases empty : len = 0
  · subst empty
    have call : Sample.create [rom, 0] ⟨machine.memory, machine.state.state⟩ =
        (.ok 0, ⟨machine.memory, machine.state.state⟩) := rfl
    exact ⟨_, _, intact.answer_of_word call, .refused⟩
  · have call : Sample.create [rom, len] ⟨machine.memory, machine.state.state⟩ =
        (.ok 7, ⟨machine.memory, { machine.state.state with rom := rom, handle := 7 }⟩) :=
      if_neg empty
    exact ⟨_, _, intact.answer_of_word call, .created empty⟩

theorem Intact.free (addr : UInt32) :
    ∃ reply after, NativeCore.answer (.free addr) machine = .ok (reply, after) ∧
      Replies machine (.free addr) reply after := by
  have inside : 28 + 4 ≤ machine.memory.size := by
    rw [intact.size]
    decide
  -- The count is in memory, because the words lie at its beginning.
  obtain ⟨count, found⟩ := Memory.exists_loadWord? inside
  have call : Sample.free [addr] ⟨machine.memory, machine.state.state⟩ =
      (.ok 0, ⟨Memory.storeWord machine.memory 28 (count + 1), machine.state.state⟩) := by
    simp only [Sample.free, found]
    exact store_ok inside
  exact ⟨_, _, intact.answer_of_word call, .freed found⟩

theorem Intact.setButtonState (handle : Handle) (button : Button) (state : ButtonState) :
    ∃ reply after, NativeCore.answer (.setButtonState handle button state) machine =
        .ok (reply, after) ∧ Replies machine (.setButtonState handle button state) reply after := by
  have first : 16 + 4 ≤ machine.memory.size := by
    rw [intact.size]
    decide
  have second : 20 + 4 ≤ (Memory.storeWord machine.memory 16 button.id.toUInt32).size := by
    rw [(Memory.confined_storeWord ..).size, intact.size]
    decide
  have call : Sample.setButtonState [handle.raw, button.id.toUInt32, state.id.toUInt32]
      ⟨machine.memory, machine.state.state⟩ =
        (.ok 0, ⟨Memory.storeWord (Memory.storeWord machine.memory 16 button.id.toUInt32) 20
          state.id.toUInt32, machine.state.state⟩) := by
    simp only [Sample.setButtonState, store_ok first, store_ok second]
  exact ⟨_, _, intact.answer_of_word call, .noted⟩

/-- Every request is answered, in a way that is listed. -/
theorem Intact.exists_replies (request : Request)
    (word : ∀ len, request = .malloc len →
      machine.state.state.heap.toNat + len.toNat + 7 < 2 ^ 32) :
    ∃ reply after, NativeCore.answer request machine = .ok (reply, after) ∧
      Replies machine request reply after := by
  -- The functions that give a constant or change the instance alone compute by themselves.
  cases request with
  | malloc len => exact intact.malloc (word len rfl)
  | free addr => exact intact.free addr
  | create rom len => exact intact.create rom len
  | destroy handle =>
    have call : Sample.destroy [handle.raw] ⟨machine.memory, machine.state.state⟩ =
        (.ok 0, ⟨machine.memory, { machine.state.state with handle := 0 }⟩) := rfl
    exact ⟨_, _, intact.answer_of_word call, .destroyed⟩
  | step handle mode => exact intact.step handle mode
  | screenPointer handle =>
    have call : Sample.constant 0x800 [handle.raw] ⟨machine.memory, machine.state.state⟩ =
        (.ok 0x800, ⟨machine.memory, machine.state.state⟩) := rfl
    exact ⟨_, _, intact.answer_of_word call, .pointer⟩
  | screenWidth handle =>
    have call : Sample.constant 8 [handle.raw] ⟨machine.memory, machine.state.state⟩ =
        (.ok 8, ⟨machine.memory, machine.state.state⟩) := rfl
    exact ⟨_, _, intact.answer_of_word call, .width⟩
  | screenHeight handle =>
    have call : Sample.constant 4 [handle.raw] ⟨machine.memory, machine.state.state⟩ =
        (.ok 4, ⟨machine.memory, machine.state.state⟩) := rfl
    exact ⟨_, _, intact.answer_of_word call, .height⟩
  | setButtonState handle button state => exact intact.setButtonState handle button state

/-- A request is answered in no other way. -/
theorem Intact.replies_of_answer (word : ∀ len, request = .malloc len →
      machine.state.state.heap.toNat + len.toNat + 7 < 2 ^ 32)
    (answered : NativeCore.answer request machine = .ok (reply, after)) :
    Replies machine request reply after := by
  -- The core is a function, so the listed answer is the only one.
  obtain ⟨_, _, same, replies⟩ := intact.exists_replies request word
  cases answered.symm.trans same
  exact replies

end Intact

/-! ## §4 The linked core -/

/-- The sample core after its initializer has run. -/
def fresh : Machine (Linked Sample) :=
  ⟨Memory.storeWord (Array.replicate memorySize 0) 24 1, ⟨{}, body {}⟩⟩

/-- Nothing is missing. -/
theorem link_of_starts {notes : List Diagnostic} {memory : Bytes} {state : Sample}
    (starts : (image .plain {}).Starts notes (.ok ⟨memory, state⟩)) :
    (image .plain {}).link .plain = ⟨.ok ⟨memory, ⟨state, body {}⟩⟩, notes⟩ :=
  (Image.Links.linked starts rfl fun function => by cases function <;> rfl).link

theorem link_image : (image .plain {}).link .plain = ⟨.ok fresh, [.running "_initialize"]⟩ := by
  have room : 24 + 4 ≤ (Array.replicate memorySize (0 : UInt8)).size := by
    rw [Array.size_replicate]
    decide
  exact link_of_starts (.returned (.first rfl) (store_ok room))

end Sample

end Handheld
