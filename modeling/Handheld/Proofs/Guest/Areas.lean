import Handheld.Proofs.Bench.Heap
import Handheld.Proofs.Guest.Answers
import Handheld.Proofs.Session.Allocation
import Handheld.Proofs.Session.Launch

/-!
# The Areas of the Sample Core's Memory

The words, the screen and the heap of the sample core lie in one memory, into which the core and the
host write.  `Sample.Books` says what the words and the top of the heap tell about the calls so far,
and `Sample.Holds` that the bytes of an image lie in a region of the heap.

Whatever is called and allocated, the books are kept and every region goes on holding its image
(`Sample.Carries`).  The reason is the top of the heap.  It never goes down and never leaves memory,
all regions lie between the start of the heap and the top, and the next block lies at the top.
-/

namespace Handheld

/-! ## §1 What the calls come to

Everything that the words of the core can tell is read off the calls: the last setting, the number
of the releases and the blocks that have been handed out. -/

/-- The button that a request sets, and its state. -/
def Request.setting? : Request → Option (Button × ButtonState)
  | .setButtonState _ button state => some (button, state)
  | _ => none

/-- The last button that has been set, and the state it was set to. -/
def lastSetting? (history : List NativeCall) : Option (Button × ButtonState) :=
  (history.filterMap fun call => call.request.setting?).getLast?

/-- How often a block has been given back. -/
def freeCalls (history : List NativeCall) : Nat :=
  history.countP fun call => call.request.function = .free

section History

variable {history : List NativeCall} {call : NativeCall}

theorem lastSetting?_concat :
    lastSetting? (history ++ [call]) = call.request.setting?.or (lastSetting? history) := by
  unfold lastSetting?
  -- A setting is the last one from now on, and any other call leaves the last one as it was.
  cases set : call.request.setting? with
  | none => simp [set]
  | some setting => simp [set]

theorem freeCalls_concat :
    freeCalls (history ++ [call]) =
      freeCalls history + if call.request.function = .free then 1 else 0 := by
  simp [freeCalls, List.countP_append, List.countP_singleton]

theorem lastSetting?_concat_of_none (unset : call.request.setting? = none) :
    lastSetting? (history ++ [call]) = lastSetting? history := by
  rw [lastSetting?_concat, unset, Option.none_or]

theorem freeCalls_concat_of_kept (kept : call.request.function ≠ .free) :
    freeCalls (history ++ [call]) = freeCalls history := by
  rw [freeCalls_concat, if_neg kept, Nat.add_zero]

theorem Bench.handedOut_concat_of_none (none_given : handedOut [call] = []) :
    handedOut (history ++ [call]) = handedOut history := by
  rw [handedOut_append, none_given, List.append_nil]

end History

namespace Sample

/-! ## §2 The books

`Books` says that the words tell just this, and where the top of the heap is.  Its bounds keep the
three areas apart: the words lie in front of the screen, and the screen in front of the heap. -/

/-- What the memory and the heap of the sample core tell about the calls so far. -/
structure Books (history : List NativeCall) (machine : Machine (Linked Sample)) : Prop
    extends Intact machine where
  button : Memory.loadWord? machine.memory 16 =
    some (((lastSetting? history).map fun setting => setting.1.id.toUInt32).getD 0)
  state : Memory.loadWord? machine.memory 20 =
    some (((lastSetting? history).map fun setting => setting.2.id.toUInt32).getD 0)
  mark : Memory.loadWord? machine.memory 24 = some 1
  freed : Memory.loadWord? machine.memory 28 = some (.ofNat (freeCalls history))
  top : machine.state.state.heap.toNat = 0x1000 + Bench.padded (Bench.handedOut history)
  room : machine.state.state.heap.toNat ≤ memorySize

/-- The region lies in the heap, and the image is in it. -/
structure Holds (region : Region) (image : Bytes) (machine : Machine (Linked Sample)) : Prop where
  start : 0x1000 ≤ region.addr.toNat
  behind : region.addr.toNat + region.len.toNat ≤ machine.state.state.heap.toNat
  view : Memory.view machine.memory region.addr region.len.toNat = .ok image

variable {history : List NativeCall} {machine after : Machine (Linked Sample)}
  {request : Request} {reply : Except Error request.Answer} {region : Region} {image : Bytes}

theorem Books.start (books : Books history machine) : 0x1000 ≤ machine.state.state.heap.toNat := by
  rw [books.top]
  exact Nat.le_add_right ..

theorem Books.heap_ne_zero (books : Books history machine) : machine.state.state.heap ≠ 0 := by
  intro null
  have start := books.start
  rw [null] at start
  exact absurd start (by decide)

theorem books_of_marked {memory : Bytes}
    (marked : Memory.Confined 24 28 (Array.replicate memorySize 0) memory)
    (mark : Memory.loadWord? memory 24 = some 1) : Books [] ⟨memory, ⟨{}, body {}⟩⟩ := by
  -- The mark is written over zeros, and the other words are zero still.
  have zero {place : Nat} (apart : place + 4 ≤ 24 ∨ 28 ≤ place) (before : place < 0x1000) :
      Memory.loadWord? memory place = some 0 := by
    refine (marked.loadWord? apart).trans (Memory.loadWord?_replicate ?_)
    exact Nat.le_trans (by omega : place + 4 ≤ 0x1004) (by decide)
  refine ⟨⟨marked.size.trans Array.size_replicate, rfl⟩, ?_, ?_, mark, ?_, rfl,
    (by decide : 0x1000 ≤ 0x20000)⟩
  · exact zero (.inl (by decide)) (by decide)
  · exact zero (.inl (by decide)) (by decide)
  · exact zero (.inr (by decide)) (by decide)

/-- A core that has not been called yet. -/
theorem books_fresh : Books [] fresh := by
  have inside : 24 + 4 ≤ (Array.replicate memorySize (0 : UInt8)).size := by
    rw [Array.size_replicate]
    decide
  exact books_of_marked (Memory.confined_storeWord ..) (Memory.loadWord?_storeWord 1 inside)

/-- What is written to the screen or to the heap does not reach the words. -/
theorem Books.write {memory : Bytes} {start stop : Nat} (books : Books history machine)
    (confined : Memory.Confined start stop machine.memory memory) (behind : 0x20 ≤ start) :
    Books history { machine with memory } where
  size := confined.size.trans books.size
  body := books.body
  button := (confined.loadWord? (.inl (by omega))).trans books.button
  state := (confined.loadWord? (.inl (by omega))).trans books.state
  mark := (confined.loadWord? (.inl (by omega))).trans books.mark
  freed := (confined.loadWord? (.inl (by omega))).trans books.freed
  top := books.top
  room := books.room

/-- What is written in front of the region or behind it does not reach it. -/
theorem Holds.write {memory : Bytes} {start stop : Nat} (holds : Holds region image machine)
    (confined : Memory.Confined start stop machine.memory memory)
    (apart : stop ≤ 0x1000 ∨ region.addr.toNat + region.len.toNat ≤ start) :
    Holds region image { machine with memory } := by
  have start := holds.start
  exact ⟨start, holds.behind, confined.view (by omega) holds.view⟩

/-! ## §3 One answer

A request is noted in one place at most, and each kind has its lemma.  A region is never handed out
again, since no answer moves the top of the heap down. -/

/-- A call that neither gives back or hands out a block nor sets a button is not in the books. -/
theorem Books.idle (books : Books history machine)
    (confined : Memory.Confined 0x800 0x880 machine.memory after.memory)
    (body : after.state.body = machine.state.body)
    (heap : after.state.state.heap = machine.state.state.heap) (unset : request.setting? = none)
    (kept : request.function ≠ .free) (ungiven : Bench.handedOut [⟨request, reply⟩] = []) :
    Books (history ++ [⟨request, reply⟩]) after := by
  -- What may have been written is the screen, and the words lie in front of it.
  have written := books.write confined (by decide)
  refine ⟨⟨written.size, body.trans books.body⟩, ?_, ?_, written.mark, ?_, ?_, heap ▸ books.room⟩
  · rw [lastSetting?_concat_of_none unset]
    exact written.button
  · rw [lastSetting?_concat_of_none unset]
    exact written.state
  · rw [freeCalls_concat_of_kept kept]
    exact written.freed
  · rw [heap, Bench.handedOut_concat_of_none ungiven]
    exact books.top

theorem Books.free {addr count : UInt32} (books : Books history machine)
    (found : Memory.loadWord? machine.memory 28 = some count) :
    Books (history ++ [⟨.free addr, .ok ()⟩])
      { machine with memory := Memory.storeWord machine.memory 28 (count + 1) } := by
  have counted : freeCalls (history ++ [⟨.free addr, .ok ()⟩]) = freeCalls history + 1 :=
    freeCalls_concat
  have inside : 28 + 4 ≤ machine.memory.size := by
    rw [books.size]
    decide
  -- The word that has been found is the count of the calls before.
  have next : count + 1 = .ofNat (freeCalls history + 1) := by
    rw [Option.some.inj (found.symm.trans books.freed), UInt32.ofNat_add]
    rfl
  have confined := Memory.confined_storeWord machine.memory 28 (count + 1)
  have stored := Memory.loadWord?_storeWord (count + 1) inside
  generalize Memory.storeWord machine.memory 28 (count + 1) = memory at *
  refine ⟨⟨confined.size.trans books.size, books.body⟩, ?_, ?_, ?_, ?_, ?_, books.room⟩
  · rw [lastSetting?_concat_of_none rfl]
    exact (confined.loadWord? (.inl (by decide))).trans books.button
  · rw [lastSetting?_concat_of_none rfl]
    exact (confined.loadWord? (.inl (by decide))).trans books.state
  · exact (confined.loadWord? (.inl (by decide))).trans books.mark
  · rw [counted, ← next]
    exact stored
  · rw [Bench.handedOut_concat_of_none rfl]
    exact books.top

theorem Books.setButtonState {handle : Handle} {button : Button} {state : ButtonState}
    (books : Books history machine) :
    Books (history ++ [⟨.setButtonState handle button state, .ok ()⟩])
      ⟨Memory.storeWord (Memory.storeWord machine.memory 16 button.id.toUInt32) 20
        state.id.toUInt32, machine.state⟩ := by
  have setting : lastSetting? (history ++ [⟨.setButtonState handle button state, .ok ()⟩]) =
      some (button, state) := lastSetting?_concat
  have inside : 16 + 8 ≤ machine.memory.size := by
    rw [books.size]
    decide
  -- The two words are the ones at 16 and 20, and everything else in the area is as before.
  have confined := Memory.confined_storeWord_storeWord machine.memory 16 button.id.toUInt32
    state.id.toUInt32
  obtain ⟨first, second⟩ := Memory.loadWord?_storeWord_storeWord button.id.toUInt32
    state.id.toUInt32 inside
  -- Only what is confined to the two words is used of the new memory from here on.
  generalize Memory.storeWord (Memory.storeWord machine.memory 16 button.id.toUInt32) (16 + 4)
    state.id.toUInt32 = memory at *
  refine ⟨⟨confined.size.trans books.size, books.body⟩, ?_, ?_, ?_, ?_, ?_, books.room⟩
  · rw [setting]
    exact first
  · rw [setting]
    exact second
  · exact (confined.loadWord? (.inr (by decide))).trans books.mark
  · rw [freeCalls_concat_of_kept]
    · exact (confined.loadWord? (.inr (by decide))).trans books.freed
    · nofun
  · rw [Bench.handedOut_concat_of_none rfl]
    exact books.top

theorem Books.malloc {len top : UInt32} (books : Books history machine)
    (rounded : top.toNat = (machine.state.state.heap.toNat + len.toNat + 7) / 8 * 8)
    (room : top.toNat ≤ memorySize) :
    Books (history ++ [⟨.malloc len, .ok machine.state.state.heap⟩])
      { machine with state.state.heap := top } := by
  refine ⟨⟨books.size, books.body⟩, ?_, ?_, books.mark, ?_, ?_, room⟩
  · rw [lastSetting?_concat_of_none rfl]
    exact books.button
  · rw [lastSetting?_concat_of_none rfl]
    exact books.state
  · rw [freeCalls_concat_of_kept]
    · exact books.freed
    · nofun
  · have whole := Bench.dvd_padded (Bench.handedOut history)
    -- The lengths are rounded up one by one, so the sum grows by what the new one takes.
    have top_before := books.top
    rw [Bench.handedOut_append, Bench.handedOut_malloc books.heap_ne_zero, Bench.padded_append,
      rounded]
    simp only [Bench.padded]
    omega

/-- Every answer is in the books. -/
theorem Books.record [Sandbox] (books : Books history machine)
    (replies : Replies machine request reply after) :
    Books (history ++ [⟨request, reply⟩]) after := by
  -- A grant, a return and a setting are noted each in their own place; the others change nothing.
  cases replies with
  | given rounded room => exact books.malloc rounded room
  | freed found => exact books.free found
  | noted => exact books.setButtonState
  | stepped _ drawn => exact books.idle drawn rfl rfl rfl nofun rfl
  | full | refused | created | destroyed | unknown | aborted | lost | pointer | width | height =>
    exact books.idle (.refl ..) rfl rfl rfl nofun rfl

/-- No answer takes a region away: blocks are not handed out again. -/
theorem Holds.answer [Sandbox] (holds : Holds region image machine)
    (replies : Replies machine request reply after) : Holds region image after := by
  cases replies with
  | @given len top rounded room =>
    -- The top of the heap moves away from the region.
    have behind : region.addr.toNat + region.len.toNat ≤ top.toNat := by
      have behind := holds.behind
      omega
    exact ⟨holds.start, behind, holds.view⟩
  | @freed _ count _ =>
    -- The words lie in front of the heap, and so does the screen.
    have counted := Memory.confined_storeWord machine.memory 28 (count + 1)
    generalize Memory.storeWord machine.memory 28 (count + 1) = memory at *
    exact holds.write counted (.inl (by decide))
  | @noted _ button state =>
    have noted := Memory.confined_storeWord_storeWord machine.memory 16 button.id.toUInt32
      state.id.toUInt32
    generalize Memory.storeWord (Memory.storeWord machine.memory 16 button.id.toUInt32) (16 + 4)
      state.id.toUInt32 = memory at *
    exact holds.write noted (.inl (by decide))
  | stepped _ drawn =>
    have written := holds.write drawn (.inl (by decide))
    exact ⟨written.start, written.behind, written.view⟩
  | full | refused | created | destroyed | unknown | aborted | lost | pointer | width | height =>
    exact ⟨holds.start, holds.behind, holds.view⟩

/-! ## §4 Calls and writes in a row

`Carries` has the shape of a preorder on machines and calls.  So a load is carried if its parts are,
and the parts are those of the program: an unload, an allocation, a boot. -/

/-- The calls lead from one machine to another, and the books and all regions have been kept. -/
def Carries (before : Machine (Linked Sample)) (calls : List NativeCall)
    (after : Machine (Linked Sample)) : Prop :=
  ∀ ⦃history⦄, Books history before → Books (history ++ calls) after ∧
    ∀ region image, Holds region image before → Holds region image after

theorem Carries.refl (machine : Machine (Linked Sample)) : Carries machine [] machine := by
  intro history books
  rw [List.append_nil]
  exact ⟨books, fun _ _ => id⟩

theorem Carries.trans {middle : Machine (Linked Sample)} {calls more : List NativeCall}
    (first : Carries machine calls middle) (second : Carries middle more after) :
    Carries machine (calls ++ more) after := by
  intro history books
  obtain ⟨books, keeps⟩ := first books
  obtain ⟨books, keeps_on⟩ := second books
  rw [List.append_assoc] at books
  exact ⟨books, fun region image holds => keeps_on _ _ (keeps _ _ holds)⟩

/-- The end of a block that is not too long is a word. -/
theorem Books.word {len : UInt32} (books : Books history machine) (short : len.toNat < 2 ^ 31) :
    machine.state.state.heap.toNat + len.toNat + 7 < 2 ^ 32 := by
  have room : machine.state.state.heap.toNat ≤ 0x20000 := books.room
  omega

theorem carries_of_answer [Sandbox] (short : ∀ len, request = .malloc len → len.toNat < 2 ^ 31)
    (answered : NativeCore.answer request machine = .ok (reply, after)) :
    Carries machine [⟨request, reply⟩] after := by
  intro history books
  have replies := books.toIntact.replies_of_answer (fun len same => books.word (short len same))
    answered
  exact ⟨books.record replies, fun _ _ holds => holds.answer replies⟩

/-- A block that is handed out lies at the top of the heap, which goes behind the block. -/
theorem Books.block_of_malloc [Sandbox] {len addr : UInt32} (books : Books history machine)
    (short : len.toNat < 2 ^ 31)
    (answered : NativeCore.answer (.malloc len) machine = .ok (.ok addr, after))
    (handed_out : addr ≠ 0) :
    addr = machine.state.state.heap ∧ after.memory = machine.memory ∧
      addr.toNat + len.toNat ≤ after.state.state.heap.toNat ∧
      after.state.state.heap.toNat ≤ memorySize := by
  have replies := books.toIntact.replies_of_answer
    (by rintro _ ⟨⟩; exact books.word short) answered
  -- The block begins at the top, and the top is rounded up behind it.
  rcases replies.malloc_cases with ⟨null, -, -⟩ | ⟨top, same, rfl, rounded, room⟩
  · exact absurd (Except.ok.inj null) handed_out
  · obtain rfl := Except.ok.inj same
    have behind : machine.state.state.heap.toNat + len.toNat ≤ top.toNat := by omega
    exact ⟨rfl, rfl, behind, room⟩

section Acts

open Act

variable [Sandbox] {τ : Type} {rig last : Rig (Linked Sample) τ} {made : List Entry} {bytes : Bytes}
  {value : Except Error Region}

/-- The block for which an allocation asks lies at the top of the heap, and so it is in memory, and
filling it reaches nothing else. -/
theorem carries_of_allocate (short : bytes.size < 2 ^ 31)
    (allocates : (Region.allocate bytes).Gives rig value last made) :
    Carries rig.machine (Journal.calls made) last.machine ∧
      ∀ history, Books history rig.machine → ∀ region, value = .ok region →
        Holds region bytes last.machine := by
  have len : (UInt32.ofNat bytes.size).toNat = bytes.size :=
    UInt32.toNat_ofNat_of_lt' (Nat.lt_trans short (by decide))
  have short_len : ∀ len : UInt32, Request.malloc (.ofNat bytes.size) = .malloc len →
      len.toNat < 2 ^ 31 := by
    rintro _ ⟨⟩
    rwa [len]
  -- An image that is longer than a word is excluded, and a block at a wrong place does not occur.
  cases Region.allocation_of_gives allocates with
  | tooLong long => exact absurd (Nat.lt_of_lt_of_le short (by decide)) (Nat.not_lt.2 long)
  | refused _ answered | exhausted _ answered =>
    exact ⟨carries_of_answer short_len answered, fun _ _ _ => nofun⟩
  | @filled rom machine memory answered exact_len patched =>
    have word : (UInt32.ofNat bytes.size).toNat < 2 ^ 31 := len.symm ▸ short
    refine ⟨fun history books => ?_, fun history books => ?_⟩
    -- The older regions end where the block begins.
    · obtain ⟨recorded, keeps⟩ := carries_of_answer short_len answered books
      obtain ⟨at_top, -, -, -⟩ := books.block_of_malloc word answered rom.addr_ne_zero
      have start := at_top ▸ books.start
      refine ⟨recorded.write patched.confined (Nat.le_trans (by decide) start), ?_⟩
      intro region image holds
      exact (keeps region image holds).write patched.confined (.inr (at_top ▸ holds.behind))
    · rintro _ ⟨⟩
      obtain ⟨at_top, -, behind, -⟩ := books.block_of_malloc word answered rom.addr_ne_zero
      rw [len, ← exact_len] at behind
      refine ⟨at_top ▸ books.start, behind, ?_⟩
      rw [exact_len]
      exact patched.view (Region.sized_of_len exact_len)
  | @misplaced addr machine last answer _ answered handed_out outside returned =>
    -- This cannot happen: a block of the core ends before the top of its heap.
    refine ⟨fun history books => ?_, fun _ _ _ => nofun⟩
    have word : (UInt32.ofNat bytes.size).toNat < 2 ^ 31 := len.symm ▸ short
    obtain ⟨-, same, behind, room⟩ := books.block_of_malloc word answered handed_out
    rw [same, books.size] at outside
    omega

variable [Surface τ] {calls : Request → Prop} {shows : SurfaceRequest → Prop} {scale : UInt32}
  {lifecycle : Lifecycle}

/-- Where no block may be asked for, nothing is written either. -/
theorem carries_of_moves (moves : rig.Moves calls shows made last)
    (unasked : ∀ len, ¬ calls (.malloc len)) :
    Carries rig.machine (Journal.calls made) last.machine := by
  -- The induction is on the way that has been gone, and each call of it carries on from the one
  -- before.
  induction moves with
  | refl => exact .refl _
  | call allowed answered _ ih =>
    have first := carries_of_answer (fun len same => absurd (same ▸ allowed) (unasked len)) answered
    exact first.trans ih
  | write filling => exact absurd filling (unasked _)
  | present _ _ _ ih => exact ih
  | glance _ _ ih => exact ih

theorem carries_of_unload {unloaded : Except Error Unit × Lifecycle}
    (unloads : lifecycle.unload.Gives rig unloaded last made) :
    Carries rig.machine (Journal.calls made) last.machine := by
  have moves : (lifecycle.unload : Act (Linked Sample) τ _).MovesBy
      (fun request => request.function ≠ .malloc) fun _ => False := by
    -- To unload a rom is to destroy its instance and to give back its block.
    refine lifecycle.unload_moves fun current _ request minds asks => ?_
    cases request with
    | malloc => exact minds
    | _ => cases asks
  exact carries_of_moves (moves.of_gives unloads) fun _ asked => asked rfl

theorem carries_of_boot {rom : Region} {count : Nat} {launched : Except Error LoadedRom}
    (boots : (Lifecycle.boot rom scale count).Gives rig launched last made) :
    Carries rig.machine (Journal.calls made) last.machine := by
  have moves : (Lifecycle.boot rom scale count : Act (Linked Sample) τ _).MovesBy
      (fun request => request.function ≠ .malloc) SurfaceRequest.IsResize := by
    -- A boot creates and settles, and it does not ask for a block either.
    refine Lifecycle.boot_moves (fun request minds asks => ?_) nofun scale count
    cases request with
    | malloc => exact minds
    | _ => cases asks
  exact carries_of_moves (moves.of_gives boots) fun _ asked => asked rfl

theorem carries_of_launch {launched : Except Error LoadedRom} (short : image.size < 2 ^ 31)
    (launches : (Lifecycle.launch image scale).Gives rig launched last made) :
    Carries rig.machine (Journal.calls made) last.machine ∧
      ∀ history, Books history rig.machine → ∀ current, launched = .ok current →
        Holds current.rom image last.machine := by
  rcases Lifecycle.launch_cases launches with
    ⟨rom, middle, first, more, -, allocates, boots, rfl⟩ |
      ⟨⟨cause, rfl⟩, ⟨rfl, rfl⟩ | ⟨_, allocates⟩⟩
  · obtain ⟨allocated, holds⟩ := carries_of_allocate short allocates
    have booted := carries_of_boot boots
    -- The launch is an allocation and a boot, and the boot keeps what the allocation has filled.
    refine ⟨Journal.calls_append first more ▸ allocated.trans booted, fun history books => ?_⟩
    intro current running
    rw [Lifecycle.boot_ensures boots current running]
    exact (booted (allocated books).1).2 rom image (holds history books rom rfl)
  · exact ⟨.refl _, fun _ _ => nofun⟩
  · exact ⟨(carries_of_allocate short allocates).1, fun _ _ => nofun⟩

/-- The image of a rom that has just been loaded lies in its region. -/
theorem carries_of_load {value : Except Error Screen × Lifecycle} (short : image.size < 2 ^ 31)
    (loads : (lifecycle.load image scale).Gives rig value last made) :
    Carries rig.machine (Journal.calls made) last.machine ∧
      ∀ history, Books history rig.machine → ∀ current, value.2 = .loaded current →
        Holds current.rom image last.machine := by
  obtain ⟨_, middle, first, unloads, ⟨gone, rfl, rfl⟩ | ⟨launched, more, launches, rfl, rfl⟩⟩ :=
    Lifecycle.load_cases loads
  · refine ⟨carries_of_unload unloads, fun _ _ current running => ?_⟩
    cases gone.symm.trans running
  · have unloaded := carries_of_unload unloads
    obtain ⟨carries, holds⟩ := carries_of_launch short launches
    -- The old rom is given back before the new one is launched, and the books tell of both.
    refine ⟨Journal.calls_append first more ▸ unloaded.trans carries, fun history books => ?_⟩
    cases launched with
    | error cause => exact fun _ => nofun
    | ok current =>
      rintro _ ⟨⟩
      exact holds _ (unloaded books).1 current rfl

end Acts

end Sample

end Handheld
