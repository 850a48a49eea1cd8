import Handheld.Proofs.Guest.Session

/-!
# The Instance of the Sample Core

The sample core has one instance, which runs the rom of the last load.  `Sample.Serves` says that
this is the rom a controller has in service.  A load that succeeds brings it about
(`Sample.serves_of_load`), and setting buttons keeps it.

The number of the frame is not the instance's own.  No call but a step touches it
(`Sample.AtFrame.of_moves`), so it goes on from one rom to the next.
-/

namespace Handheld.Sample

open Act

variable {τ : Type} [Surface τ] {machine after : Machine (Linked Sample)}
  {rig last : Rig (Linked Sample) τ} {request : Request} {reply : Except Error request.Answer}
  {calls : Request → Prop} {shows : SurfaceRequest → Prop} {made : List Entry} {image : Bytes}
  {scale : UInt32} {handle : Handle} {rom : Region} {current : LoadedRom}

/-! ## §1 Calls that run no frame

Between two steps anything may be called and written.  None of it changes the number of frames, so
the next step has the next number. -/

/-- The core is all there, and it has made so many frames. -/
structure AtFrame (number : UInt32) (machine : Machine (Linked Sample)) : Prop
    extends Intact machine where
  frames : machine.state.state.frames = number

theorem Intact.atFrame (intact : Intact machine) : AtFrame machine.state.state.frames machine :=
  ⟨intact, rfl⟩

variable [Sandbox]

/-- A call that is no step leaves the number of the frame alone. -/
theorem AtFrame.answer {number : UInt32} (at_frame : AtFrame number machine)
    (upkeep : request.IsUpkeep)
    (answered : NativeCore.answer request machine = .ok (reply, after)) : AtFrame number after := by
  obtain ⟨⟨size, body⟩, frames⟩ := id at_frame
  cases request with
  | malloc len =>
    -- The end of the block may wrap around, so the answer need not be one that is listed.
    obtain ⟨top, -, ⟨-, same⟩ | ⟨-, same⟩⟩ := at_frame.malloc_top len
    all_goals
      cases answered.symm.trans same
      exact ⟨⟨size, body⟩, frames⟩
  | step => exact absurd rfl upkeep
  | free addr =>
    have replies := at_frame.replies_of_answer (by nofun) answered
    cases replies with
    | freed =>
      refine ⟨⟨?_, body⟩, frames⟩
      rw [(Memory.confined_storeWord ..).size, size]
  | setButtonState handle button state =>
    have replies := at_frame.replies_of_answer (by nofun) answered
    cases replies with
    | noted =>
      refine ⟨⟨?_, body⟩, frames⟩
      rw [(Memory.confined_storeWord ..).size, (Memory.confined_storeWord ..).size, size]
  | create | destroy | screenPointer | screenWidth | screenHeight =>
    -- The other calls change the instance at most, which is neither the memory nor the count.
    have replies := at_frame.replies_of_answer (by nofun) answered
    cases replies
    all_goals exact ⟨⟨size, body⟩, frames⟩

/-- Whatever is called and written between two steps, the next frame has the next number. -/
theorem AtFrame.of_moves {number : UInt32} (at_frame : AtFrame number rig.machine)
    (moves : rig.Moves calls shows made last)
    (upkeep : ∀ request, calls request → request.IsUpkeep) : AtFrame number last.machine :=
  moves.invariant (fun allowed answered kept => kept.answer (upkeep _ allowed) answered)
    (fun _ written kept => ⟨⟨(Memory.size_of_write written).trans kept.size, kept.body⟩,
      kept.frames⟩) at_frame

/-! ## §2 The rom in service

What a step needs of the rom in service is brought about by the boot: the instance, a rom that is
not empty, and the screen of the core. -/

/-- The instance runs the rom that is in service, whose screen is the core's. -/
structure Serves (current : LoadedRom) (machine : Machine (Linked Sample)) : Prop
    extends Intact machine where
  handle : current.handle.raw = machine.state.state.handle
  rom : machine.state.state.rom = current.rom.addr
  nonempty : current.rom.len ≠ 0
  screen : current.screen = ⟨8, 4⟩

/-- Setting a button leaves the instance alone. -/
theorem Serves.answer (serves : Serves current machine) (button : request.IsButton)
    (answered : NativeCore.answer request machine = .ok (reply, after)) :
    Serves current after := by
  have intact := (serves.toIntact.atFrame.answer button.isUpkeep answered).toIntact
  cases request with
  | setButtonState =>
    have replies := serves.replies_of_answer (by nofun) answered
    cases replies with
    | noted => exact { serves with toIntact := intact }
  | _ => cases button

theorem Serves.of_buttons (serves : Serves current rig.machine)
    (moves : rig.Moves Request.IsButton shows made last) : Serves current last.machine :=
  moves.invariant (fun button answered kept => kept.answer button answered) nofun serves

/-- Asking for the screen and sizing the surface for it leaves the core alone. -/
theorem configure_ok {screen : Screen} (intact : Intact rig.machine)
    (configures : (Lifecycle.configure handle scale).Gives rig (.ok screen) last made) :
    -- The answers to both questions are known, so the screen is that of the core.
    screen = ⟨8, 4⟩ ∧ last.machine = rig.machine := by
  obtain ⟨answer, _, _, _, asks, fits, -⟩ := gives_bind_iff.1 configures
  obtain ⟨_, known⟩ := askScreen_gives rig intact handle
  obtain ⟨rfl, rfl, -⟩ := asks.unique known
  dsimp only at fits
  rw [Lifecycle.fitSurface_eq] at fits
  -- The view of memory and the resize are no calls, and they leave the machine as it is.
  obtain ⟨_, _, _, _, views, resizes, -⟩ := gives_bind_iff.1 fits
  obtain ⟨-, rfl, -⟩ := gives_memory_iff.1 views
  split at resizes
  · cases (gives_pure_iff.1 resizes).1
  · obtain ⟨given, presents, same⟩ := gives_map_iff.1 resizes
    obtain ⟨_, _, -, -, rfl, -⟩ := gives_present_iff.1 presents
    cases given with
    | error => cases same
    | ok => exact ⟨Except.ok.inj same, rfl⟩

theorem serves_of_boot {bytes : Nat} (intact : Intact rig.machine)
    (boots : (Lifecycle.boot rom scale bytes).Gives rig (.ok current) last made) :
    Serves current last.machine := by
  obtain ⟨own, machine, _, created, settles, -⟩ | ⟨⟨_, refused⟩, -⟩ := Lifecycle.boot_cases boots
  -- The creation has taken the rom into service, and what follows changes nothing about it.
  · have created_intact := (intact.atFrame.answer (by nofun) created).toIntact
    obtain ⟨screen, configures, rfl⟩ := Lifecycle.settle_of_ok settles
    obtain ⟨rfl, same⟩ := configure_ok created_intact configures
    have replies := intact.replies_of_answer (by nofun) created
    rw [same]
    obtain ⟨addr, len, nonnull⟩ := rom
    cases replies with
    | created nonempty => exact ⟨created_intact, rfl, rfl, nonempty, rfl⟩
  · cases refused

theorem serves_of_launch (intact : Intact rig.machine)
    (launches : (Lifecycle.launch image scale).Gives rig (.ok current) last made) :
    Serves current last.machine := by
  obtain ⟨rom, middle, _, _, -, allocates, boots, -⟩ | ⟨⟨_, refused⟩, -⟩ :=
    Lifecycle.launch_cases launches
  -- The allocation writes the image and runs no frame.
  · have moves : (Region.allocate image : Act (Linked Sample) τ _).MovesBy Request.IsUpkeep
        fun _ => False := Region.allocate_moves image nofun nofun
    have allocated := intact.atFrame.of_moves (moves.of_gives allocates) fun _ => id
    exact serves_of_boot allocated.toIntact boots
  · cases refused

/-- After a load that succeeds the instance runs the new rom. -/
theorem serves_of_load {lifecycle : Lifecycle} {answer : Except Error Screen}
    (intact : Intact rig.machine)
    (loads : (lifecycle.load image scale).Gives rig (answer, .loaded current) last made) :
    Serves current last.machine := by
  obtain ⟨_, middle, _, unloads, ⟨gone, -⟩ | ⟨launched, _, launches, -, value⟩⟩ :=
    Lifecycle.load_cases loads
  · cases gone
  · have moves : (lifecycle.unload : Act (Linked Sample) τ _).Tends := lifecycle.unload_tends
    have unloaded := intact.atFrame.of_moves (moves.of_gives unloads) fun _ => id
    cases launched with
    | error cause => cases value
    | ok =>
      cases value
      exact serves_of_launch unloaded.toIntact launches

end Handheld.Sample
