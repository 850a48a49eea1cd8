import Handheld.Proofs.Bench.Calm
import Handheld.Proofs.Bench.Session
import Handheld.Proofs.Session.Validation

/-!
# Resolutions That No Load Survives

When the bench core creates an instance it computes the length of a picture, and the product has to
be a size.  The check of a screen computes the same length with products that saturate, but it
comes later.  So a load reports a screen that it cannot show if the length is a size, and a fault
ends it otherwise: `Lifecycle.load_of_resolution` says so for every resolution.

The proof follows a load on a core that is not told to fail, first to the filled block, then to
the new instance and its screen.  What comes after that has been settled for every core.
-/

namespace Handheld

namespace Bench

/-! ## §1 Idle cores

A core with no rom is idle, if it is not told to fail and has a handle and an address left.  What it
answers is fixed then, up to the resolution that it has been given. -/

variable {machine : Machine Bench}

/-- A core without a rom that is not told to fail.  It has handles left, and its heap is neither
too large nor longer than memory. -/
structure Idle (machine : Machine Bench) : Prop where
  untroubled : machine.state.mischief = {}
  blocks : machine.state.blocks = []
  instances : machine.state.instances = []
  nextAlloc : machine.state.nextAlloc ≠ 0
  nextHandle : machine.state.nextHandle ≠ 0
  left : machine.state.nextHandle.toNat + 1 < 2 ^ 32
  small : machine.state.heapSize.toNat < 2 ^ 31
  heap : machine.state.heapSize.toNat ≤ machine.memory.size
  host : machine.memory.size ≤ Checked.maxBufferBytes

/-- A core that has done nothing yet is idle, whatever its resolution is. -/
theorem idle_new (heapSize : UInt32) (screen : Screen) (stepStatus : Int32) (screenPastEnd : Bool)
    (small : heapSize.toNat < 2 ^ 31) :
    Idle (Bench.machine { heapSize, screen, stepStatus, screenPastEnd }) where
  untroubled := rfl
  blocks := rfl
  instances := rfl
  nextAlloc := show (16 : UInt32) ≠ 0 by decide
  nextHandle := show (1 : UInt32) ≠ 0 by decide
  left := show (1 : UInt32).toNat + 1 < 2 ^ 32 by decide
  small
  heap := by
    rw [Bench.machine, Array.size_replicate]
  host := by
    rw [Bench.machine, Array.size_replicate, Checked.maxBufferBytes_eq]
    show heapSize.toNat ≤ _
    omega

theorem Idle.calm (idle : Idle machine) : Calm .idle machine where
  stocked :=
    { placed := congrArg Mischief.misplaceMalloc idle.untroubled
      notNull := idle.nextAlloc
      blocks := ⟨[], rfl, idle.blocks, by simp, by simp⟩
      instances := ⟨[], rfl, idle.instances, by simp, by simp⟩
      ends := by simp [Phase.block?]
      numbered := by simp [Phase.handle?]
      occupied := by simp }
  untroubled := idle.untroubled

/-- The heap has room for a block of the length of the image. -/
def HasRoom (bench : Bench) (image : Bytes) : Prop :=
  bench.nextAlloc.toNat + image.size ≤ bench.heapSize.toNat

end Bench

/-! ## §2 The steps of a load

A load on an idle core goes on to the filled block without a choice.  Where it creates the instance
the resolution decides: memory is extended, or it stays, or the length of a picture is no size and
the creation faults. -/

section Steps

open Act

variable {σ τ : Type} [NativeCore σ] [Surface τ] {image : Bytes} {scale : UInt32} {rom : Region}
  {rig : Rig σ τ}

/-- An image that is neither empty nor too long passes its two tests. -/
theorem Progress.measured (nonempty : image ≠ #[]) (short : image.size < 2 ^ 32) :
    Progress image scale .vacant rig [] (.measured (UInt32.ofNat image.size)) rig := by
  have admits : (Milestone.vacant.advance image scale : Act σ τ _) = pure (.ok .admitted) :=
    congrArg pure (if_neg (by simpa using nonempty))
  have measures : (Milestone.admitted.advance image scale : Act σ τ _) =
      pure (.ok (.measured (UInt32.ofNat image.size))) := congrArg pure (if_pos short)
  exact .of_pure admits (.of_pure measures (.refl _ _))

theorem Progress.given {machine : Machine σ}
    (answered : NativeCore.answer (.malloc rom.len) rig.machine = .ok (.ok rom.addr, machine)) :
    Progress image scale (.measured rom.len) rig [.native (.malloc rom.len) (.ok rom.addr)]
      (.given rom) { rig with machine } := by
  have block : Region.ofAddress? rom.addr rom.len = some rom := dif_neg rom.addr_ne_zero
  have gives : (Milestone.advance image scale (.measured rom.len)).Gives rig (.ok (.given rom))
      { rig with machine } [.native (.malloc rom.len) (.ok rom.addr)] := by
    refine gives_map_iff.2 ⟨_, gives_ask answered, ?_⟩
    simp only [Except.bind, block]
  exact .of_gives gives (.refl _ _)

theorem Progress.filled {memory : Bytes}
    (written : Memory.write rig.machine.memory rom.addr image = .ok memory) :
    Progress image scale (.given rom) rig [] (.filled rom)
      { rig with machine.memory := memory } := by
  have fills : (Milestone.advance image scale (.given rom)).Gives rig (.ok (.filled rom))
      { rig with machine.memory := memory } [] :=
    gives_map_iff.2 ⟨_, gives_writeMemory written, rfl⟩
  exact .of_gives fills (.refl _ _)

end Steps

namespace Bench

open Act

variable {τ : Type} [Surface τ] {image : Bytes} {scale : UInt32} {rom : Region} {handle : Handle}
  {rig filled : Rig Bench τ}

/-- A block holds the image, and nothing else is new. -/
structure Filled (rig filled : Rig Bench τ) (rom : Region) : Prop where
  calm : Calm (.holding rom) filled.machine
  nonempty : rom.len ≠ 0
  nextHandle : filled.machine.state.nextHandle = rig.machine.state.nextHandle
  setup : SameSetup rig.machine.state filled.machine.state
  memory : filled.machine.memory.size = rig.machine.memory.size
  display : filled.display = rig.display

/-- An image that the heap has room for gets its block. -/
theorem Idle.fills (scale : UInt32) (idle : Idle rig.machine) (nonempty : image ≠ #[])
    (room : rig.machine.state.HasRoom image) :
    ∃ rom made filled, Progress image scale .vacant rig made (.filled rom) filled ∧
      Filled rig filled rom := by
  unfold HasRoom at room
  have small := idle.small
  have heap := idle.heap
  -- There is room for the image, so its length is a word.
  have short : image.size < 2 ^ 32 := by omega
  have len_eq : (UInt32.ofNat image.size).toNat = image.size := UInt32.toNat_ofNat_of_lt' short
  rw [← len_eq] at room
  obtain ⟨rom, given, answered, addr, len, holding, memory, nextHandle⟩ :=
    idle.calm.malloc_ok small room
  -- The block ends inside of the heap, and so inside of memory.
  have inside : rom.addr.toNat + image.size ≤ given.memory.size := by
    rw [addr, memory]
    omega
  have sized : rom.addr.toNat + image.size ≤ Checked.maxSize := by
    have := rom.addr.toNat_lt
    rw [Checked.maxSize_eq]
    omega
  obtain ⟨written, writes⟩ := Memory.write_ok sized inside
  have upkeep : (Request.malloc (UInt32.ofNat image.size)).function ≠ .step := nofun
  have setup : SameSetup rig.machine.state given.state := sameSetup_of_answer upkeep answered
  -- An image that is not empty has a block that is not empty, which the core will accept.
  have occupied : rom.len ≠ 0 := by
    intro empty
    rw [← len, empty] at len_eq
    exact nonempty (Array.eq_empty_of_size_eq_zero len_eq.symm)
  rw [← len] at answered
  have measured : Progress image scale .vacant rig [] (.measured rom.len) rig :=
    len ▸ .measured nonempty short
  -- The steps are put together; what the filled block needs later is what the allocation has left.
  refine ⟨rom, _, _, measured.trans ((Progress.given answered).trans (.filled writes)),
    ⟨holding.stocked, holding.untroubled⟩, occupied, nextHandle, setup, ?_, rfl⟩
  exact (Memory.size_of_write writes).trans (congrArg Array.size memory)

/-- Memory is extended when the instance is created, unless the length of a picture is no size. -/
theorem Filled.creates (image : Bytes) (scale : UInt32) (ready : Filled rig filled rom)
    (idle : Idle rig.machine)
    (sized : 4 * pixelCount rig.machine.state.screen.width rig.machine.state.screen.height <
      2 ^ 64) :
    ∃ handle made created,
      Progress image scale (.filled rom) filled made (.created rom handle) created ∧
      Calm (.running rom handle) created.machine ∧
      created.machine.state.screen = rig.machine.state.screen ∧
      created.machine.memory.size = (rig.machine.state.reserved rig.machine.memory).size ∧
      created.display = rig.display := by
  rw [← ready.setup.screen] at sized
  obtain ⟨handle, next, answered, running, memory⟩ := ready.calm.create_ok ready.nonempty
    (ready.nextHandle ▸ idle.nextHandle) (ready.nextHandle ▸ idle.left) sized
  -- The resolution is what it was, because only a step changes anything of the setup.
  have upkeep : (Request.create rom.addr rom.len).function ≠ .step := nofun
  have setup := sameSetup_of_answer upkeep answered
  refine ⟨handle, _, { filled with machine := next },
    .of_gives (gives_map_iff.2 ⟨_, gives_ask answered, rfl⟩) (.refl _ _), running,
    setup.screen.trans ready.setup.screen, ?_, ready.display⟩
  show next.memory.size = _
  rw [memory, size_reserved, size_reserved, ready.setup.pictureEnd, ready.memory]

omit [Surface τ] in
theorem Filled.create_faults (ready : Filled rig filled rom) (idle : Idle rig.machine)
    (large : 2 ^ 64 ≤
      4 * pixelCount rig.machine.state.screen.width rig.machine.state.screen.height) :
    (ask (.create rom.addr rom.len) : Act Bench τ _).Faults filled .overflow := by
  rw [← ready.setup.screen] at large
  exact faults_ask <| ready.calm.create_overflow ready.nonempty
    (ready.nextHandle ▸ idle.nextHandle) (ready.nextHandle ▸ idle.left) large

/-- The new instance tells its screen, and only the log of the core changes. -/
theorem Calm.tells (calm : Calm (.running rom handle) rig.machine) :
    ∃ made sized, Progress image scale (.created rom handle) rig made
        (.sized rom handle rig.machine.state.screen) sized ∧
      Calm (.running rom handle) sized.machine ∧ sized.machine.memory = rig.machine.memory ∧
      sized.display = rig.display := by
  have asked := calm.logged (.screenWidth handle)
  let told := log (log rig.machine (.screenWidth handle)) (.screenHeight handle)
  exact ⟨_, { rig with machine := told },
    .of_gives (gives_map_iff.2 ⟨_, gives_ask calm.look_ok.1, rfl⟩)
      (.of_gives (gives_map_iff.2 ⟨_, gives_ask asked.look_ok.2, rfl⟩) (.refl _ _)),
    asked.logged _, rfl, rfl⟩

end Bench

/-! ## §3 Whole loads

From the new instance on a load is `Lifecycle.finish`, whose ends are known for every core.  It
remains to see that a load that gives up leaves nothing in stock. -/

/-- A buffer can hold the pixels of the enlarged screen if the canvas accepts its size. -/
def Canvas.CanHold (canvas : Canvas) (screen : Screen) (scale : UInt32) : Prop :=
  ∀ ⦃width height : UInt32⦄, width.toNat = screen.width.toNat * scale.toNat →
    height.toNat = screen.height.toNat * scale.toNat → canvas.Accepts width height →
    4 * pixelCount width height ≤ Checked.maxBufferBytes

namespace Lifecycle

open Act Bench

variable {τ : Type} [Surface τ] {image : Bytes} {scale : UInt32} {rom : Region} {handle : Handle}
  {rig : Rig Bench τ}

/-- The load fails with the given cause, and the core has nothing in stock any more. -/
def FailsCleanly (load : Act Bench τ (Except Error Screen × Lifecycle)) (rig : Rig Bench τ)
    (cause : Error) : Prop :=
  ∃ after calls, load.Gives rig (.error cause, .empty) after calls ∧
    after.machine.state.blocks = [] ∧ after.machine.state.instances = []

omit [Surface τ] in
theorem GivesUp.cleanly {load : Act Bench τ (Except Error Screen × Lifecycle)}
    {reached : Rig Bench τ} {made : List Entry} {cause : Error}
    (gives_up : GivesUp load rig made rom handle cause reached)
    (calm : Calm (.running rom handle) reached.machine) : FailsCleanly load rig cause := by
  obtain ⟨after, calls, gives, idle⟩ := calm.tearDown
  exact ⟨after, _, gives_up.returns gives, idle.nothing⟩

section Idle

variable (idle : Idle rig.machine) (nonempty : image ≠ #[])
include idle nonempty

theorem load_without_room (full : ¬ rig.machine.state.HasRoom image) :
    FailsCleanly (empty.load image scale) rig (.outOfMemory image.size) := by
  obtain ⟨after, calls, allocates, calm⟩ : ∃ after calls,
      (Region.allocate image).Gives rig (.error (.outOfMemory image.size)) after calls ∧
        Calm .idle after.machine := by
    -- There is no room because the heap is too short or because the length is no word.
    unfold Region.allocate
    by_cases short : image.size < UInt32.size
    · rw [if_pos short]
      have len_eq : (UInt32.ofNat image.size).toNat = image.size := UInt32.toNat_ofNat_of_lt' short
      unfold HasRoom at full
      rw [← len_eq] at full
      obtain ⟨next, answered, calm⟩ := idle.calm.malloc_null (Nat.not_le.1 full)
      exact ⟨_, _, (gives_ask answered).then_quietly (gives_pure _ _), calm⟩
    · rw [if_neg short]
      exact ⟨_, _, gives_pure _ _, idle.calm⟩
  refine ⟨after, calls, ?_, calm.nothing⟩
  -- The old rom is none and the image is not empty, so the load is the allocation at first.
  unfold load unload launch
  rw [pure_bind, if_neg (by simpa using nonempty), bind_assoc]
  exact allocates.then_quietly (gives_pure _ _)

theorem load_overflows (room : rig.machine.state.HasRoom image)
    (large : 2 ^ 64 ≤
      4 * pixelCount rig.machine.state.screen.width rig.machine.state.screen.height) :
    (empty.load image scale).Faults rig .overflow := by
  obtain ⟨rom, made, filled, progress, ready⟩ := idle.fills scale nonempty room
  have faults : (boot rom scale image.size : Act Bench τ _).Faults filled .overflow :=
    (ready.create_faults idle large).bind
  exact (load_leads_boot empty progress).faults faults.bind

end Idle

section Created

variable {rig created : Rig Bench Canvas} {made : List Entry}

/-- A load whose new instance is there comes to an end.  If a picture is longer than memory, the
load fails with the resolution. -/
theorem load_of_created
    (progress : Progress image scale (.start .empty) rig made (.created rom handle) created)
    (calm : Calm (.running rom handle) created.machine)
    (host : created.machine.memory.size ≤ Checked.maxBufferBytes) :
    (created.machine.memory.size <
        4 * pixelCount created.machine.state.screen.width created.machine.state.screen.height →
      FailsCleanly (empty.load image scale) rig (.invalidResolution
        created.machine.state.screen.width created.machine.state.screen.height)) ∧
    (created.display.CanHold created.machine.state.screen scale →
      (∃ after calls, (empty.load image scale).Gives rig
        (.ok created.machine.state.screen,
          .loaded ⟨handle, rom, created.machine.state.screen⟩) after calls) ∨
      ∃ cause, FailsCleanly (empty.load image scale) rig cause) := by
  -- The two questions about the screen are answered, and they change nothing.
  obtain ⟨more, sized, tells, calm, memory, display⟩ := calm.tells
  have progress := progress.trans tells
  rw [← memory] at host
  -- A screen that is refused costs the new instance, which the core takes back.
  have refused (hidden : ¬ created.machine.state.screen.Showable scale sized.machine.memory.size) :=
    (load_of_not_showable progress host hidden).2.cleanly calm
  constructor
  · intro long
    exact refused fun showable => Nat.not_le.2 long (memory ▸ showable.room)
  · intro holds
    by_cases showable : created.machine.state.screen.Showable scale sized.machine.memory.size
    · obtain ⟨width, height, width_eq, height_eq, resizes⟩ :=
        load_of_showable progress showable
      -- The canvas takes the size or refuses it, and both have their ending.
      by_cases accepts : sized.display.Accepts width height
      · have room := holds width_eq height_eq (display ▸ accepts)
        obtain ⟨next, takes⟩ := Canvas.resize_ok accepts room
        exact .inl ⟨_, _, resizes.accepted takes⟩
      · exact .inr ⟨_, (resizes.refused (Canvas.resize_refused accepts)).cleanly calm⟩
    · exact .inr ⟨_, refused showable⟩

/-- What a load on an idle core comes to, for every resolution.  If the heap has no room for the
image the load says so.  If it has, and the length of a picture is no size, a fault ends the load.
Otherwise an instance is created and the load returns: with the resolution if a picture is longer
than memory, and in any case without a fault while a buffer can hold what the canvas accepts. -/
theorem load_of_resolution (idle : Idle rig.machine) (nonempty : image ≠ #[]) :
    (¬ rig.machine.state.HasRoom image →
      FailsCleanly (empty.load image scale) rig (.outOfMemory image.size)) ∧
    (rig.machine.state.HasRoom image →
      2 ^ 64 ≤ 4 * pixelCount rig.machine.state.screen.width rig.machine.state.screen.height →
      (empty.load image scale).Faults rig .overflow) ∧
    (rig.machine.state.HasRoom image →
      4 * pixelCount rig.machine.state.screen.width rig.machine.state.screen.height < 2 ^ 64 →
      ∃ rom handle made created,
        Progress image scale (.start .empty) rig made (.created rom handle) created ∧
        created.machine.memory.size = (rig.machine.state.reserved rig.machine.memory).size ∧
        (created.machine.memory.size <
            4 * pixelCount rig.machine.state.screen.width rig.machine.state.screen.height →
          FailsCleanly (empty.load image scale) rig (.invalidResolution
            rig.machine.state.screen.width rig.machine.state.screen.height)) ∧
        (rig.display.CanHold rig.machine.state.screen scale →
          (∃ after calls, (empty.load image scale).Gives rig
            (.ok rig.machine.state.screen,
              .loaded ⟨handle, rom, rig.machine.state.screen⟩) after calls) ∨
          ∃ cause, FailsCleanly (empty.load image scale) rig cause)) := by
  refine ⟨load_without_room idle nonempty, load_overflows idle nonempty, ?_⟩
  intro room sized
  -- The image is brought into its block first, then the instance is created from there.
  obtain ⟨rom, made, filled, fills, ready⟩ := idle.fills scale nonempty room
  obtain ⟨handle, more, created, creates, calm, screen, memory, display⟩ :=
    ready.creates image scale idle sized
  have progress := fills.trans creates
  -- Memory has at most been extended to the end of the address space.
  have host : created.machine.memory.size ≤ Checked.maxBufferBytes := by
    have := idle.host
    rw [Checked.maxBufferBytes_eq] at this ⊢
    rw [memory, size_reserved]
    split <;> omega
  have ends := load_of_created progress calm host
  rw [screen, display] at ends
  exact ⟨rom, handle, _, created, progress, memory, ends⟩

end Created

/-- A core with a heap of 64 bytes that has done nothing yet, and a canvas without a limit. -/
def screenRig (screen : Screen) : Rig Bench Canvas :=
  Emulator.freshRig { heapSize := 64, screen } .rgba (0xFFFFFFFF, 0xFFFFFFFF) {}

/-- A picture whose length is a size, but for which there is no room in the address space. -/
theorem load_of_resolution_without_address :
    ∃ rom handle made created,
      Progress #[7] 1 (.start .empty) (screenRig ⟨65535, 65535⟩) made (.created rom handle)
        created ∧
      created.machine.memory.size = 64 ∧
      FailsCleanly (empty.load #[7] 1) (screenRig ⟨65535, 65535⟩)
        (.invalidResolution 65535 65535) := by
  have idle : Idle (screenRig ⟨65535, 65535⟩).machine :=
    idle_new 64 ⟨65535, 65535⟩ 0 false (by decide)
  have room : (screenRig ⟨65535, 65535⟩).machine.state.HasRoom #[7] := by
    unfold HasRoom
    decide
  obtain ⟨-, -, returns⟩ :=
    @load_of_resolution #[7] 1 (screenRig ⟨65535, 65535⟩) idle (by decide)
  obtain ⟨rom, handle, made, created, progress, memory, fails, -⟩ := returns room (by decide)
  -- The picture would end behind the address space, so memory is left as it is.
  have size : created.machine.memory.size = 64 := by
    rw [memory, size_reserved]
    decide
  refine ⟨rom, handle, made, created, progress, size, fails ?_⟩
  rw [size]
  decide

/-- A picture of `2 ^ 64` bytes, the shortest length that is no size. -/
theorem load_overflows_at_huge_screen :
    Idle (screenRig ⟨0x80000000, 0x80000000⟩).machine ∧
      (screenRig ⟨0x80000000, 0x80000000⟩).machine.state.HasRoom #[7] ∧
      (empty.load #[7] 1).Faults (screenRig ⟨0x80000000, 0x80000000⟩) .overflow := by
  have idle : Idle (screenRig ⟨0x80000000, 0x80000000⟩).machine :=
    idle_new 64 ⟨0x80000000, 0x80000000⟩ 0 false (by decide)
  have room : (screenRig ⟨0x80000000, 0x80000000⟩).machine.state.HasRoom #[7] := by
    unfold HasRoom
    decide
  exact ⟨idle, room, load_overflows idle (by decide) room (by decide)⟩

end Lifecycle

end Handheld
