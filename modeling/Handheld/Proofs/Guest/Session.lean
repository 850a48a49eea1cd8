import Handheld.Display.Canvas
import Handheld.Proofs.Guest.Areas
import Handheld.Proofs.Session.Capture
import Handheld.Proofs.Session.Operation
import Handheld.Proofs.Session.Validation
import Handheld.Rehearsal.Platform

/-!
# Sessions with the Sample Core

Whatever is done with a controller of the sample core, the areas of the core's memory do not
interfere (`Emulator.areas_apart`).

The invariant of a session is `Emulator.InUse`: the books of the core are kept, and if a rom is
running the image of the last load lies in its region.  What a load comes to follows from the top of
the heap alone: the old rom can always be unloaded, and a block for which there is room lies inside
of memory (`Sample.load_of_room`, `Sample.load_of_full`).
-/

namespace Handheld

/-! ## §1 The image that runs

The image that runs is read off the deeds: it is that of the last load that succeeded, with nothing
but quiet deeds behind it. -/

/-- The operation neither loads nor unloads a rom. -/
def Operation.IsQuiet : Operation → Prop
  | .loadRom _ | .unload => False
  | .tick | .press _ | .release _ | .key _ => True

/-- The image has been loaded, and since then no rom has been loaded or unloaded. -/
def LastLoaded (deeds : List Deed) (image : Bytes) : Prop :=
  ∃ before screen after, deeds = before ++ ⟨.loadRom image, .ok screen⟩ :: after ∧
    ∀ deed ∈ after, deed.operation.IsQuiet

theorem LastLoaded.concat {deeds : List Deed} {image : Bytes} {deed : Deed}
    (last : LastLoaded deeds image) (quiet : deed.operation.IsQuiet) :
    LastLoaded (deeds ++ [deed]) image := by
  obtain ⟨before, screen, after, rfl, calm⟩ := last
  refine ⟨before, screen, after ++ [deed], by simp, ?_⟩
  exact List.forall_mem_append.2 ⟨calm, List.forall_mem_singleton.2 quiet⟩

namespace Emulator

open Act Sample

variable {τ : Type} [Surface τ] {scale : UInt32} {deeds : List Deed} {history : List NativeCall}
  {emulator : Emulator} {rig last : Rig (Linked Sample) τ} {made : List Entry}
  {operation : Operation} {image : Bytes}

/-- A controller of the sample core after deeds that have come to calls. -/
structure InUse [Clockwork] (scale : UInt32) (deeds : List Deed) (history : List NativeCall)
    (emulator : Emulator) (rig : Rig (Linked Sample) τ) : Prop where
  books : Books history rig.machine
  factor : emulator.pipeline.scale = scale
  steady : emulator.pipeline.Steady
  running : ∀ current, emulator.lifecycle = .loaded current →
    ∃ image, LastLoaded deeds image ∧ Holds current.rom image rig.machine

/-! ## §2 Operations

Each operation calls and writes in the ways of `Carries`, so the books are kept.  Only a load
changes the image that runs. -/

omit [Surface τ] in
/-- An operation that neither loads nor unloads leaves the running rom and its image alone. -/
theorem InUse.quiet [Clockwork] {next : Emulator} {answer : Except Error operation.Answer}
    {calls : List NativeCall} (inUse : InUse scale deeds history emulator rig)
    (quiet : operation.IsQuiet) (carries : Carries rig.machine calls last.machine)
    (pipeline : next.pipeline.Steady ∧ next.pipeline.scale = emulator.pipeline.scale)
    (lifecycle : next.lifecycle = emulator.lifecycle) :
    InUse scale (deeds ++ [⟨operation, answer⟩]) (history ++ calls) next last := by
  obtain ⟨books, keeps⟩ := carries inUse.books
  refine ⟨books, pipeline.2.trans inUse.factor, pipeline.1, fun current loaded => ?_⟩
  -- The rom that is running now was running before.
  obtain ⟨image, last_loaded, holds⟩ := inUse.running current (lifecycle.symm.trans loaded)
  exact ⟨image, last_loaded.concat quiet, keeps _ _ holds⟩

variable [Sandbox]

/-- The rest of a load by the controller makes no calls. -/
theorem gives_load_of_loadRom {value : Except Error Screen × Emulator}
    (gives : (emulator.loadRom image).Gives rig value last made) :
    ∃ loaded, (emulator.lifecycle.load image emulator.pipeline.scale).Gives rig loaded last
      made := by
  obtain ⟨loaded, middle, first, more, loads, goes_on, rfl⟩ := gives_bind_iff.1 gives
  -- A failed load ends the operation, and after one that succeeds the pipeline is reset.
  obtain ⟨cause | screen, lifecycle⟩ := loaded
  · obtain ⟨-, rfl, rfl⟩ := gives_pure_iff.1 goes_on
    exact ⟨_, (List.append_nil first).symm ▸ loads⟩
  · obtain ⟨_, _, _, _, resets, returns, rfl⟩ := gives_bind_iff.1 goes_on
    obtain ⟨-, rfl, rfl⟩ := gives_ofFaulty_iff.1 resets
    obtain ⟨-, rfl, rfl⟩ := gives_pure_iff.1 returns
    rw [List.append_nil, List.append_nil]
    exact ⟨_, loads⟩

variable [Clockwork]

theorem InUse.loadRom {outcome : Outcome (Linked Sample) τ (Except Error Screen × Emulator)}
    (inUse : InUse scale deeds history emulator rig) (short : image.size < 2 ^ 31)
    (run : (emulator.loadRom image).run rig = .ok outcome) :
    InUse scale (deeds ++ [⟨.loadRom image, outcome.value.1⟩]) (history ++ outcome.journal.calls)
      outcome.value.2 outcome.rig := by
  obtain ⟨loading, load_run, same, ended⟩ := of_loadRom run
  obtain ⟨loaded, loads⟩ := gives_load_of_loadRom (.of_run run)
  -- The load of the operation and the load of the run are one and the same.
  obtain ⟨rfl, -, -⟩ := (Gives.of_run load_run).unique loads
  obtain ⟨carries, holds⟩ := carries_of_load short loads
  rw [Journal.calls_exchanges] at carries
  have books := (carries inUse.books).1
  rcases ended with ⟨cause, -, value⟩ | ⟨current, fresh, running, resets, value⟩
  · rw [value]
    exact ⟨books, inUse.factor, inUse.steady, nofun⟩
  · obtain ⟨steady, factor, -⟩ := inUse.steady.reset resets
    rw [value]
    refine ⟨books, factor.trans inUse.factor, steady, ?_⟩
    rintro _ ⟨⟩
    -- The deed of this load is the last one, and none has come after it.
    refine ⟨image, ⟨deeds, _, [], rfl, List.forall_mem_nil _⟩, holds history inUse.books current ?_⟩
    rw [running]

theorem InUse.perform
    {outcome : Outcome (Linked Sample) τ (Except Error operation.Answer × Emulator)}
    (inUse : InUse scale deeds history emulator rig)
    (short : ∀ image, operation = .loadRom image → image.size < 2 ^ 31)
    (run : (emulator.perform operation).run rig = .ok outcome) :
    InUse scale (deeds ++ [⟨operation, outcome.value.1⟩]) (history ++ outcome.journal.calls)
      outcome.value.2 outcome.rig := by
  cases operation with
  | loadRom image => exact inUse.loadRom (short image rfl) run
  | unload =>
    obtain ⟨inner, unloads, rfl⟩ := run_map_eq_ok_iff.1 run
    have carries := carries_of_unload (.of_run unloads)
    rw [Journal.calls_exchanges] at carries
    refine ⟨(carries inUse.books).1, inUse.factor, inUse.steady, fun current loaded => ?_⟩
    cases (Lifecycle.unload_value unloads).symm.trans loaded
  | tick =>
    -- A tick steps the core and asks for the picture, and it asks for no block.
    have carries := carries_of_moves (emulator.tick_moves.of_run run) fun _ asked => by
      rcases asked with steps | points
      · cases steps
      · cases points
    rw [Journal.calls_exchanges] at carries
    obtain ⟨inner, ticks, rfl⟩ := run_map_eq_ok_iff.1 run
    exact inUse.quiet trivial carries (inUse.steady.tick ticks) rfl
  | press event | release event =>
    obtain ⟨inner, forwards, rfl⟩ := run_map_eq_ok_iff.1 run
    have carries := carries_of_moves ((UnmappedKeys.forward_moves _ _ _ _).of_run forwards) nofun
    rw [Journal.calls_exchanges] at carries
    exact inUse.quiet trivial carries ⟨inUse.steady, rfl⟩ rfl
  | key event =>
    obtain ⟨inner, sends, rfl⟩ := run_map_eq_ok_iff.1 run
    have carries := carries_of_moves ((emulator.sendKey_moves event).of_run sends) nofun
    rw [Journal.calls_exchanges] at carries
    exact inUse.quiet trivial carries ⟨inUse.steady, rfl⟩ rfl

/-- Any number of operations keeps the invariant. -/
theorem InUse.performAll {operations : List Operation}
    {outcome : Outcome (Linked Sample) τ (List Deed × Emulator)}
    (inUse : InUse scale deeds history emulator rig)
    (short : ∀ image, .loadRom image ∈ operations → image.size < 2 ^ 31)
    (run : (emulator.performAll operations).run rig = .ok outcome) :
    InUse scale (deeds ++ outcome.value.1) (history ++ outcome.journal.calls) outcome.value.2
      outcome.rig := by
  -- The induction is on the operations, for every list of deeds that have been done before.
  induction operations generalizing deeds history emulator rig outcome with
  | nil =>
    obtain rfl := Except.ok.inj run
    rwa [Journal.calls_nil, List.append_nil, List.append_nil]
  | cons operation operations ih =>
    obtain ⟨first, rest, performs, goes_on, rfl⟩ := run_bind_eq_ok_iff.1 run
    obtain ⟨others, performs_others, rfl⟩ := run_map_eq_ok_iff.1 goes_on
    have middle := inUse.perform
      (fun image same => short image (same ▸ List.mem_cons_self)) performs
    have final := ih middle (fun image later => short image (List.mem_cons_of_mem _ later))
      performs_others
    rw [Journal.calls_append, ← List.append_assoc, List.append_cons]
    exact final

end Emulator

/-! ## §3 Loads

For these lemmas the state of the core is not written out.  A load depends on the top of the heap
alone: the old rom can be unloaded, and then there is room for the image or there is none. -/

namespace Lifecycle

open Act

variable {σ τ : Type} [NativeCore σ] [Surface τ] {image : Bytes} {scale : UInt32}
  {rig middle last : Rig σ τ} {made more : List Entry}

/-- A launch of an image that is not empty boots the block that it allocates. -/
theorem launch_of_allocate {rom : Region} {launched : Except Error LoadedRom}
    (nonempty : image.size ≠ 0)
    (allocates : (Region.allocate image).Gives rig (.ok rom) middle made)
    (boots : (boot rom scale image.size).Gives middle launched last more) :
    (launch image scale).Gives rig launched last (made ++ more) := by
  unfold launch
  rw [if_neg (mt Array.isEmpty_iff_size_eq_zero.1 nonempty)]
  exact allocates.bind boots

theorem launch_of_refused_allocate {cause : Error} (scale : UInt32) (nonempty : image.size ≠ 0)
    (allocates : (Region.allocate image).Gives rig (.error cause) last made) :
    (launch image scale).Gives rig (.error cause) last made := by
  unfold launch
  rw [if_neg (mt Array.isEmpty_iff_size_eq_zero.1 nonempty)]
  exact allocates.then_quietly (gives_pure _ _)

end Lifecycle

namespace Sample

open Act

variable [Sandbox] {τ : Type} {rig : Rig (Linked Sample) τ} {history : List NativeCall}
  {image : Bytes} {scale : UInt32} {lifecycle : Lifecycle} {rom : Region} {handle : Handle}

/-- A request is made and answered. -/
theorem ask_gives (rig : Rig (Linked Sample) τ) (intact : Intact rig.machine) (request : Request)
    (word : ∀ len, request = .malloc len →
      rig.machine.state.state.heap.toNat + len.toNat + 7 < 2 ^ 32) :
    ∃ reply machine, (ask request).Gives rig reply { rig with machine }
      [.native request reply] ∧ Replies rig.machine request reply machine := by
  obtain ⟨reply, machine, answered, replies⟩ := intact.exists_replies request word
  exact ⟨reply, machine, gives_ask answered, replies⟩

/-- An instance is always destroyed, and its block is always given back. -/
theorem tearDown_gives (intact : Intact rig.machine) (handle : Handle) (rom : Region) :
    ∃ machine made,
      (Lifecycle.tearDown handle rom).Gives rig (.ok ()) { rig with machine } made ∧
        machine.state.state.heap = rig.machine.state.state.heap := by
  obtain ⟨_, _, destroys, replies⟩ := ask_gives rig intact (.destroy handle) nofun
  cases replies with
  -- The first call takes the instance out of service, and the second one counts the block.
  | destroyed =>
    obtain ⟨_, _, frees, replies⟩ := ask_gives { rig with machine.state.state.handle := 0 }
      ⟨intact.size, intact.body⟩ (.free rom.addr) nofun
    cases replies with
    | freed => exact ⟨_, _, destroys.first ((gives_note _ _).quietly frees), rfl⟩

theorem unload_gives (intact : Intact rig.machine) (lifecycle : Lifecycle) :
    ∃ machine made, lifecycle.unload.Gives rig (.ok (), .empty) { rig with machine } made ∧
      machine.state.state.heap = rig.machine.state.state.heap := by
  cases lifecycle with
  | empty => exact ⟨_, _, gives_pure _ _, rfl⟩
  | loaded current =>
    obtain ⟨machine, made, tears, heap⟩ := tearDown_gives intact current.handle current.rom
    exact ⟨machine, made, (gives_note _ _).quietly (tears.then_quietly (gives_pure _ _)), heap⟩

/-- Where there is no room for it, no block is allocated. -/
theorem allocate_of_full (books : Books history rig.machine) (short : image.size < 2 ^ 31)
    (full : memorySize < (rig.machine.state.state.heap.toNat + image.size + 7) / 8 * 8) :
    ∃ made, (Region.allocate image).Gives rig (.error (.outOfMemory image.size)) rig made := by
  have word : image.size < UInt32.size := Nat.lt_trans short (by decide)
  have len : (UInt32.ofNat image.size).toNat = image.size := UInt32.toNat_ofNat_of_lt' word
  -- That the core is out of room and that it hands out a block exclude each other.
  obtain ⟨_, _, answered, replies⟩ := books.toIntact.malloc (books.word (len.symm ▸ short))
  rcases replies.malloc_cases with ⟨rfl, rfl, -⟩ | ⟨top, -, -, rounded, room⟩
  · exact ⟨_, (Region.Allocation.exhausted word answered).gives⟩
  · rw [len] at rounded
    omega

/-- Where there is room, the block at the top of the heap is allocated. -/
theorem allocate_of_room (books : Books history rig.machine) (short : image.size < 2 ^ 31)
    (room : (rig.machine.state.state.heap.toNat + image.size + 7) / 8 * 8 ≤ memorySize) :
    ∃ region machine made, region.len.toNat = image.size ∧
      (Region.allocate image).Gives rig (.ok region) { rig with machine } made := by
  have word : image.size < UInt32.size := Nat.lt_trans short (by decide)
  have len : (UInt32.ofNat image.size).toNat = image.size := UInt32.toNat_ofNat_of_lt' word
  obtain ⟨_, _, answered, replies⟩ := books.toIntact.malloc (books.word (len.symm ▸ short))
  rcases replies.malloc_cases with ⟨-, -, full⟩ | ⟨top, rfl, rfl, rounded, -⟩
  · rw [len] at full
    omega
  · have some_block : rig.machine.state.state.heap ≠ 0 := books.heap_ne_zero
    have inside : rig.machine.state.state.heap.toNat + image.size ≤ rig.machine.memory.size := by
      rw [books.size]
      omega
    -- The block lies in memory, so that the image can be put into it.
    have filled : Region.Allocation image rig (.ok ⟨_, _, some_block⟩) _ _ :=
      .filled answered len (Memory.patched_splice inside)
    exact ⟨_, _, _, len, filled.gives⟩

variable [Surface τ]

omit [Surface τ] in
theorem askScreen_gives (rig : Rig (Linked Sample) τ) (intact : Intact rig.machine)
    (handle : Handle) :
    ∃ made, (Lifecycle.askScreen handle).Gives rig (.ok ⟨8, 4⟩) rig made := by
  obtain ⟨_, _, asks_width, replies⟩ := ask_gives rig intact (.screenWidth handle) nofun
  cases replies with
  | width =>
    obtain ⟨_, _, asks_height, replies⟩ := ask_gives rig intact (.screenHeight handle) nofun
    cases replies with
    | height => exact ⟨_, asks_width.first (asks_height.first (gives_pure _ _))⟩

/-- The screen of the core, enlarged by a factor, has axes that are words other than zero. -/
structure Enlarges (scale : UInt32) : Prop where
  nonzero : scale ≠ 0
  word : 8 * scale.toNat < 2 ^ 32

omit [Sandbox] in
theorem fitSurface_gives (rig : Rig (Linked Sample) τ) {display : τ} (intact : Intact rig.machine)
    (enlarges : Enlarges scale)
    (resizes : Surface.resize (8 * scale) (4 * scale) rig.display = .ok (.ok (), display)) :
    (Lifecycle.fitSurface ⟨8, 4⟩ scale).Gives rig (.ok ⟨8, 4⟩) { rig with display }
      [.surface (.resize (8 * scale) (4 * scale)) (.ok ())] := by
  have size : rig.machine.memory.size = 0x20000 := intact.size
  have positive : 0 < scale.toNat := Checked.toNat_pos enlarges.nonzero
  have word := enlarges.word
  have eight : (8 : UInt32).toNat = 8 := rfl
  have four : (4 : UInt32).toNat = 4 := rfl
  have showable : Screen.Showable ⟨8, 4⟩ scale rig.machine.memory.size := by
    -- The screen of the core is far from all limits but that of the scale.
    constructor <;> simp only [size, eight, four] <;> omega
  obtain ⟨width, height, checked, width_eq, height_eq⟩ :=
    Screen.checked_of_showable showable
  -- The products that have been checked are the ones that the surface is asked for.
  obtain rfl : width = 8 * scale := by
    rw [← UInt32.toNat_inj, UInt32.toNat_mul, eight, Nat.mod_eq_of_lt word]
    exact width_eq
  obtain rfl : height = 4 * scale := by
    rw [← UInt32.toNat_inj, UInt32.toNat_mul, four, Nat.mod_eq_of_lt (by omega)]
    exact height_eq
  rw [Lifecycle.fitSurface_eq]
  refine (gives_memory rig).quietly ?_
  rw [checked]
  exact (Lifecycle.gives_resize resizes).then_quietly (gives_pure _ _)

/-- An instance is created for a rom that is not empty, and it is taken into service. -/
theorem boot_gives {display : τ} (intact : Intact rig.machine) (enlarges : Enlarges scale)
    (resizes : Surface.resize (8 * scale) (4 * scale) rig.display = .ok (.ok (), display))
    (nonempty : rom.len ≠ 0) (bytes : Nat) :
    ∃ machine made, (Lifecycle.boot rom scale bytes).Gives rig
      (.ok ⟨onlyHandle, rom, ⟨8, 4⟩⟩) { rig with machine, display } made := by
  obtain ⟨_, machine, creates, replies⟩ := ask_gives rig intact (.create rom.addr rom.len) nofun
  -- The creation is refused for an empty rom only.
  rcases replies.create_cases with ⟨-, -, empty⟩ | ⟨rfl, same⟩
  · exact absurd empty nonempty
  · have created : Intact machine := same ▸ ⟨intact.size, intact.body⟩
    -- Then the screen is asked for and fitted to the canvas; none of these calls changes memory.
    obtain ⟨asked, asks⟩ := askScreen_gives { rig with machine } created onlyHandle
    have fits := fitSurface_gives { rig with machine } created enlarges resizes
    have configures : (Lifecycle.configure onlyHandle scale).Gives _ _ _ _ := asks.bind fits
    have settles : (Lifecycle.settle onlyHandle rom scale bytes).Gives _ _ _ _ :=
      configures.then_quietly ((gives_note _ _).quietly (gives_pure _ _))
    exact ⟨machine, _, creates.first settles⟩

/-- A load for which there is room succeeds. -/
theorem load_of_room {display : τ} (books : Books history rig.machine) (enlarges : Enlarges scale)
    (resizes : Surface.resize (8 * scale) (4 * scale) rig.display = .ok (.ok (), display))
    (nonempty : image.size ≠ 0) (short : image.size < 2 ^ 31)
    (room : (rig.machine.state.state.heap.toNat + image.size + 7) / 8 * 8 ≤ memorySize) :
    ∃ rom machine made, (lifecycle.load image scale).Gives rig
      (.ok ⟨8, 4⟩, .loaded ⟨onlyHandle, rom, ⟨8, 4⟩⟩) { rig with machine, display } made := by
  -- The old rom leaves the top of the heap where it is, so the room is still there.
  obtain ⟨machine, first, unloads, heap⟩ := unload_gives books.toIntact lifecycle
  -- The books go on from one step of the load to the next, and with them the top of the heap.
  have books := (carries_of_unload unloads books).1
  obtain ⟨rom, filled, second, len, allocates⟩ := allocate_of_room books short (by rwa [heap])
  have books := ((carries_of_allocate short allocates).1 books).1
  have sized : rom.len ≠ 0 := by
    intro empty
    rw [empty] at len
    exact nonempty len.symm
  obtain ⟨booted, third, boots⟩ := boot_gives books.toIntact enlarges resizes sized image.size
  have launches := Lifecycle.launch_of_allocate nonempty allocates boots
  exact ⟨rom, booted, _, unloads.bind (launches.then_quietly (gives_pure _ _))⟩

/-- A load for which there is no room fails. -/
theorem load_of_full (books : Books history rig.machine) (nonempty : image.size ≠ 0)
    (short : image.size < 2 ^ 31)
    (full : memorySize < (rig.machine.state.state.heap.toNat + image.size + 7) / 8 * 8) :
    ∃ last made, (lifecycle.load image scale).Gives rig
      (.error (.outOfMemory image.size), .empty) last made := by
  obtain ⟨machine, first, unloads, heap⟩ := unload_gives books.toIntact lifecycle
  have books := (carries_of_unload unloads books).1
  obtain ⟨second, allocates⟩ := allocate_of_full books short (by rwa [heap])
  have launches := Lifecycle.launch_of_refused_allocate scale nonempty allocates
  exact ⟨_, _, unloads.bind (launches.then_quietly (gives_pure _ _))⟩

end Sample

namespace Emulator

open Act Sample

variable {τ : Type} [Surface τ] {deeds : List Deed} {history : List NativeCall}
  {emulator : Emulator} {rig : Rig (Linked Sample) τ} {image : Bytes} {scale : UInt32}

/-- The controller resets its pipeline for the screen of a new rom. -/
theorem loadRom_of_room [Clockwork] [Sandbox] {display : τ}
    (inUse : InUse scale deeds history emulator rig) (enlarges : Enlarges scale)
    (resizes : Surface.resize (8 * scale) (4 * scale) rig.display = .ok (.ok (), display))
    (nonempty : image.size ≠ 0) (short : image.size < 2 ^ 31)
    (room : (rig.machine.state.state.heap.toNat + image.size + 7) / 8 * 8 ≤ memorySize) :
    ∃ rom next machine made, (emulator.loadRom image).Gives rig (.ok ⟨8, 4⟩, next)
        { rig with machine, display } made ∧
      next.lifecycle = .loaded ⟨onlyHandle, rom, ⟨8, 4⟩⟩ ∧
      next.pipeline.stepMode = emulator.pipeline.stepMode := by
  obtain rfl := inUse.factor
  obtain ⟨rom, machine, made, loads⟩ :=
    load_of_room inUse.books enlarges resizes nonempty short room
  -- The reset cannot fail, and it keeps the mode of the steps.
  obtain ⟨fresh, resets, mode⟩ : ∃ fresh, emulator.pipeline.reset 8 4 = .ok fresh ∧
      fresh.stepMode = emulator.pipeline.stepMode := ⟨_, rfl, rfl⟩
  have settles := gives_ofFaulty resets { rig with machine, display }
  exact ⟨rom, _, machine, made, loads.then_quietly (settles.quietly (gives_pure _ _)), rfl, mode⟩

theorem loadRom_of_full [Clockwork] [Sandbox] (inUse : InUse scale deeds history emulator rig)
    (nonempty : image.size ≠ 0) (short : image.size < 2 ^ 31)
    (full : memorySize < (rig.machine.state.state.heap.toNat + image.size + 7) / 8 * 8) :
    ∃ next last made, (emulator.loadRom image).Gives rig (.error (.outOfMemory image.size), next)
      last made := by
  obtain ⟨last, made, loads⟩ := load_of_full inUse.books nonempty short full
  exact ⟨_, last, made, loads.then_quietly (gives_pure _ _)⟩

omit [Surface τ] in
/-- A key that plays a button is passed on to the rom that runs. -/
theorem press_gives [Sandbox] {event : KeyEvent} {button : Button} {current : LoadedRom}
    (intact : Intact rig.machine) (running : emulator.lifecycle = .loaded current)
    (aimed : event.target = .surface)
    (plays : emulator.unmappedKeys.resolve event.key = some button) :
    ∃ machine, (emulator.press event).Gives rig (.ok ()) { rig with machine }
      [.native (.setButtonState current.handle button .pressed) (.ok ())] := by
  -- The core notes every setting and answers it.
  obtain ⟨_, machine, asks, replies⟩ :=
    ask_gives rig intact (.setButtonState current.handle button .pressed) nofun
  have handle : emulator.lifecycle.handle? = some current.handle := by rw [running]; rfl
  cases replies with
  | noted =>
    unfold press UnmappedKeys.forward
    rw [if_pos aimed, handle, plays]
    exact ⟨_, (gives_note _ _).quietly asks⟩

/-- A rom is loaded, and a key of the layout is pressed. -/
theorem performAll_of_load_and_press [Clockwork] [Sandbox] {display : τ} {event : KeyEvent}
    {button : Button} (inUse : InUse scale deeds history emulator rig) (enlarges : Enlarges scale)
    (resizes : Surface.resize (8 * scale) (4 * scale) rig.display = .ok (.ok (), display))
    (nonempty : image.size ≠ 0) (short : image.size < 2 ^ 31)
    (room : (rig.machine.state.state.heap.toNat + image.size + 7) / 8 * 8 ≤ memorySize)
    (aimed : event.target = .surface) (plays : event.key.button? = some button) :
    ∃ rom next machine made,
      (emulator.performAll [.loadRom image, .press event]).Gives rig
        ([⟨.loadRom image, .ok ⟨8, 4⟩⟩, ⟨.press event, .ok ()⟩], next) { rig with machine, display }
        (made ++ [.native (.setButtonState onlyHandle button .pressed) (.ok ())]) ∧
      next.lifecycle = .loaded ⟨onlyHandle, rom, ⟨8, 4⟩⟩ := by
  obtain ⟨rom, next, loaded, made, loads, running, -⟩ :=
    loadRom_of_room inUse enlarges resizes nonempty short room
  -- The load has kept the books, so the core is intact when the key is pressed.
  have intact : Intact loaded := by
    obtain ⟨_, run, -⟩ := id loads
    exact (inUse.loadRom short run).books.toIntact
  have resolved : next.unmappedKeys.resolve event.key = some button := by
    rw [UnmappedKeys.resolve, plays]
    rfl
  obtain ⟨machine, presses⟩ : ∃ machine, (next.press event).Gives ⟨loaded, display, rig.stopwatch⟩
      (.ok ()) ⟨machine, display, rig.stopwatch⟩ _ := press_gives intact running aimed resolved
  have performs : (next.perform (.press event)).Gives _ (.ok (), next) _ _ :=
    presses.then_quietly (gives_pure _ _)
  have goes_on : (next.performAll [.press event]).Gives _ ([⟨.press event, .ok ()⟩], next) _ _ :=
    performs.then_quietly ((gives_pure _ _).quietly (gives_pure _ _))
  exact ⟨rom, next, machine, made, loads.bind (goes_on.then_quietly (gives_pure _ _)), running⟩

/-! ## §4 Sessions

The invariant at the start, carried through the operations, gives the first half of the theorem; the
loads of §3 the second. -/

omit [Surface τ] in
/-- A new controller of a core that has not been called yet. -/
theorem inUse_fresh [Clockwork] (options : EmulatorOptions) (display : τ) (stopwatch : Stopwatch) :
    InUse options.scale [] [] (new options) ⟨fresh, display, stopwatch⟩ :=
  ⟨books_fresh, rfl, Pipeline.steady_new _ _, nofun⟩

/-- In every state of a session with the sample core, the words of the core tell what has been
called: the mark of the initializer is set, the number of blocks given back is counted, and the last
button and its state are there.  While a rom runs, its image lies in its region.  An image that is
not empty can be loaded exactly if there is room for it behind the top of the heap, which depends on
the blocks handed out and on nothing else. -/
theorem areas_apart [Clockwork] [Sandbox] {machine : Machine (Linked Sample)}
    {options : EmulatorOptions} {display : τ} {stopwatch : Stopwatch} {operations : List Operation}
    {outcome : Outcome (Linked Sample) τ (List Deed × Emulator)}
    (linked : ((Sample.image .plain {}).link .plain).value = .ok machine)
    (short : ∀ image, .loadRom image ∈ operations → image.size < 2 ^ 31)
    (run : ((new options).performAll operations).run ⟨machine, display, stopwatch⟩ =
      .ok outcome) :
    Memory.loadWord? outcome.rig.machine.memory 24 = some 1 ∧
    Memory.loadWord? outcome.rig.machine.memory 28 =
      some (.ofNat (freeCalls outcome.journal.calls)) ∧
    Memory.loadWord? outcome.rig.machine.memory 16 =
      some (((lastSetting? outcome.journal.calls).map fun setting =>
        setting.1.id.toUInt32).getD 0) ∧
    Memory.loadWord? outcome.rig.machine.memory 20 =
      some (((lastSetting? outcome.journal.calls).map fun setting =>
        setting.2.id.toUInt32).getD 0) ∧
    (∀ current, outcome.value.2.lifecycle = .loaded current →
      ∃ image, LastLoaded outcome.value.1 image ∧
        Memory.view outcome.rig.machine.memory current.rom.addr current.rom.len.toNat =
          .ok image) ∧
    outcome.rig.machine.state.state.heap.toNat =
      0x1000 + Bench.padded (Bench.handedOut outcome.journal.calls) ∧
    ∀ image : Bytes, image.size ≠ 0 → image.size < 2 ^ 31 → Enlarges options.scale →
      ∀ fitted, Surface.resize (8 * options.scale) (4 * options.scale) outcome.rig.display =
          .ok (.ok (), fitted) →
        ∃ loading, (outcome.value.2.loadRom image).run outcome.rig = .ok loading ∧
          loading.value.1 =
            if (outcome.rig.machine.state.state.heap.toNat + image.size + 7) / 8 * 8 ≤ 0x20000
            then .ok ⟨8, 4⟩ else .error (.outOfMemory image.size) := by
  rw [link_image] at linked
  obtain rfl := Except.ok.inj linked
  -- All of this holds at the start, and every operation keeps it.
  have inUse := (inUse_fresh options display stopwatch).performAll short run
  rw [List.nil_append, List.nil_append] at inUse
  obtain ⟨books, -, -, running⟩ := id inUse
  refine ⟨books.mark, books.freed, books.button, books.state, fun current loaded => ?_, books.top,
    fun image nonempty small enlarges fitted resizes => ?_⟩
  · obtain ⟨image, last_loaded, holds⟩ := running current loaded
    exact ⟨image, last_loaded, holds.view⟩
  · split
    case isTrue room =>
      obtain ⟨_, _, _, _, ⟨_, loads, -⟩, -⟩ :=
        loadRom_of_room inUse enlarges resizes nonempty small room
      exact ⟨_, loads, rfl⟩
    case isFalse full =>
      obtain ⟨_, _, _, ⟨_, loads, -⟩⟩ := loadRom_of_full inUse nonempty small (Nat.not_le.1 full)
      exact ⟨_, loads, rfl⟩

/-- A short rom is loaded and the start button is pressed.  Both words of the button are there, the
rom is still in its region, and an image as long as the whole heap and one byte has no room. -/
theorem areas_apart_of_pressed_start :
    ∃ outcome : Outcome (Linked Sample) Canvas (List Deed × Emulator),
      ((new { scale := 2 }).performAll
          [.loadRom #[7, 8, 9], .press ⟨.enter, true, .surface⟩]).run
        ⟨fresh, Canvas.new .rgba, {}⟩ = .ok outcome ∧
      Memory.loadWord? outcome.rig.machine.memory 24 = some 1 ∧
      Memory.loadWord? outcome.rig.machine.memory 16 = some Button.start.id.toUInt32 ∧
      Memory.loadWord? outcome.rig.machine.memory 20 = some ButtonState.pressed.id.toUInt32 ∧
      (∃ current, outcome.value.2.lifecycle = .loaded current ∧
        Memory.view outcome.rig.machine.memory current.rom.addr current.rom.len.toNat =
          .ok #[7, 8, 9]) ∧
      ∃ loading, (outcome.value.2.loadRom (Array.replicate 0x1F001 0)).run outcome.rig =
          .ok loading ∧ loading.value.1 = .error (.outOfMemory 0x1F001) := by
  obtain ⟨fitted, resizes, again, resizes_again⟩ :
      ∃ fitted, Surface.resize 16 8 (Canvas.new .rgba) = .ok (.ok (), fitted) ∧
        ∃ again, Surface.resize 16 8 fitted = .ok (.ok (), again) := ⟨_, rfl, _, rfl⟩
  have enlarges : Enlarges 2 := ⟨by decide, by decide⟩
  have nonempty : (#[7, 8, 9] : Bytes).size ≠ 0 := by decide
  have plays : (⟨.enter, true, .surface⟩ : KeyEvent).key.button? = some .start := rfl
  obtain ⟨rom, next, machine, made, ⟨journal, run, exchanges⟩, running⟩ :=
    performAll_of_load_and_press (inUse_fresh { scale := 2 } (Canvas.new .rgba) {}) enlarges
      resizes nonempty (by decide) (by decide) rfl plays
  -- The memory is too large to be computed: what is in it follows from the theorem.
  have linked : ((Sample.image .plain {}).link .plain).value = .ok fresh := by rw [link_image]
  have short : ∀ image : Bytes, .loadRom image ∈
      [Operation.loadRom #[7, 8, 9], .press ⟨.enter, true, .surface⟩] → image.size < 2 ^ 31 := by
    intro image given
    rcases List.mem_pair.1 given with same | same <;> cases same
    decide
  obtain ⟨mark, -, button, state, region, top, loading⟩ := areas_apart linked short run
  have set : lastSetting? journal.calls = some (.start, .pressed) := by
    rw [← Journal.calls_exchanges, exchanges, Journal.calls_append]
    exact lastSetting?_concat
  refine ⟨_, run, mark, by rwa [set] at button, by rwa [set] at state, ⟨_, running, ?_⟩, ?_⟩
  · obtain ⟨image, ⟨before, screen, later, deeds, -⟩, view⟩ := region _ running
    have loaded : ⟨.loadRom image, .ok screen⟩ ∈ before ++ ⟨.loadRom image, .ok screen⟩ :: later :=
      List.mem_append_right _ List.mem_cons_self
    rcases List.mem_pair.1 (deeds ▸ loaded) with same | same <;> cases same
    exact view
  · have size : (Array.replicate 0x1F001 (0 : UInt8)).size = 0x1F001 := Array.size_replicate
    obtain ⟨_, loads, value⟩ := loading (Array.replicate 0x1F001 0) (by rw [size]; decide)
      (by rw [size]; decide) enlarges again resizes_again
    rw [size, if_neg (by rw [top]; omega)] at value
    exact ⟨_, loads, value⟩

end Emulator

end Handheld
