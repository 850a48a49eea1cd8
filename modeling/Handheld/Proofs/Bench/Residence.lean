import Handheld.Proofs.Bench.Holding
import Handheld.Proofs.Bench.Trials
import Handheld.Proofs.Session.Attention
import Handheld.Proofs.Session.Launch
import Mathlib.Data.List.Induction
import Handheld.Rehearsal.Platform

/-!
# The Resident Rom

The image of the running rom stays what it was when the rom was loaded, whatever is done on the
bench (`Renderer.rom_resident`), and so does every image whose instance has not been destroyed.

A block that holds an image is taken away together with an instance.  Which one this is follows from
the lifecycle: `Bench.InCustody` says that of all roms only that of a given instance can lie in the
block.  One lemma for each part of a load and of an unload, and then one for each kind of trial,
keeps the block as long as this instance has not been destroyed.
-/

namespace Handheld

namespace Bench

/-! ## §1 Loading and unloading

Two kinds of statement for each part of a load.  A block that was there before is held as long as
its instance is not destroyed, and the block that the load itself allocates is held from the moment
at which the instance is created. -/

section Acts

open Act

variable {τ : Type} [Surface τ] {rig last : Rig Bench τ} {made : List Entry} {block : Block}
  {image bytes : Bytes} {handle own : Handle} {rom : Region} {scale : UInt32} {count : Nat}
  {lifecycle : Lifecycle} {launched : Except Error LoadedRom} {current : LoadedRom}

/-- If the rom of a lifecycle lies at the address, the instance of this handle runs it. -/
def InCustody (addr : UInt32) (handle : Handle) (lifecycle : Lifecycle) : Prop :=
  ∀ current, lifecycle = .loaded current → current.rom.addr = addr → current.handle = handle

/-- The block is taken away with its instance only. -/
theorem Holds.tearDown {value : Except Error Unit} (holds : Holds block image rig.machine)
    (custody : rom.addr = block.addr → own = handle) (undestroyed : .destroyed handle ∉ made)
    (tears : (Lifecycle.tearDown own rom).Gives rig value last made) :
    Holds block image last.machine := by
  -- The teardown is that of the block in question or of another one.
  by_cases same : rom.addr = block.addr
  · obtain rfl := custody same
    obtain ⟨answer, middle, first, more, asks, goes_on, rfl⟩ := gives_bind_iff.1 tears
    obtain ⟨machine, answered, rfl, rfl⟩ := gives_ask_iff.1 asks
    -- If the destruction is answered, it is the one that has been ruled out.
    cases answer with
    | ok => exact absurd (List.mem_append_left _ (List.mem_singleton_self _)) undestroyed
    | error cause =>
      have holds := holds.answer answered nofun
      exact holds.silent ((movesBy_note _).bind fun _ => movesBy_pure _) goes_on
  -- The teardown of another rom makes no call that concerns the block.
  · have spares : ∀ request : Request, request.Minds rom.addr → request.Spares block.addr :=
      fun _ minds => minds.spares same
    have moves : (Lifecycle.tearDown own rom : Act Bench τ _).MovesBy _ fun _ => False :=
      Lifecycle.tearDown_moves spares own
    exact holds.moves (moves.of_gives tears)

theorem Holds.unload {value : Except Error Unit × Lifecycle}
    (holds : Holds block image rig.machine) (custody : InCustody block.addr handle lifecycle)
    (undestroyed : .destroyed handle ∉ made)
    (unloads : lifecycle.unload.Gives rig value last made) : Holds block image last.machine := by
  cases lifecycle with
  | empty =>
    obtain ⟨-, rfl, -⟩ := gives_pure_iff.1 unloads
    exact holds
  | loaded current =>
    obtain ⟨_, _, _, more, notes, goes_on, rfl⟩ := gives_bind_iff.1 unloads
    obtain ⟨rfl, rfl⟩ := gives_note_iff.1 notes
    obtain ⟨answer, tears, -⟩ := gives_map_iff.1 goes_on
    exact holds.tearDown (custody current rfl) undestroyed tears

/-- An instance is asked for its screen, and it is torn down if there is none to be shown. -/
theorem Holds.settle (holds : Holds block image rig.machine)
    (custody : rom.addr = block.addr → own = handle) (undestroyed : .destroyed handle ∉ made)
    (settles : (Lifecycle.settle own rom scale count).Gives rig launched last made) :
    Holds block image last.machine := by
  -- Neither a question nor a resize concerns the block; what is left is the teardown.
  obtain ⟨answer, middle, first, more, configures, goes_on, rfl⟩ := gives_bind_iff.1 settles
  have moves : (Lifecycle.configure own scale : Act Bench τ _).MovesBy (Request.Spares block.addr)
      SurfaceRequest.IsResize := Lifecycle.configure_moves trivial trivial scale
  have holds := holds.moves (moves.of_gives configures)
  cases answer with
  | ok screen =>
    exact holds.silent ((movesBy_note _).bind fun _ => movesBy_pure _) goes_on
  | error cause =>
    obtain ⟨_, torn, _, _, tears, reports, rfl⟩ := gives_bind_iff.1 goes_on
    have holds : Holds block image torn.machine := holds.tearDown custody
      (fun done => undestroyed (List.mem_append_right _ (List.mem_append_left _ done))) tears
    exact holds.silent ((movesBy_noteError _ _).bind fun _ => movesBy_pure _) reports

/-- The block of a rom that an instance has been created for. -/
theorem Holds.boot_created {addr len : UInt32} (holds : Holds rom.block image rig.machine)
    (boots : (Lifecycle.boot rom scale count).Gives rig launched last made)
    (created : .created addr len handle ∈ made) (undestroyed : .destroyed handle ∉ made) :
    rom.addr = addr ∧ Holds rom.block image last.machine ∧
      ∀ current, launched = .ok current → current.handle = handle := by
  rcases Lifecycle.boot_cases boots with
    ⟨own, machine, more, answered, settles, rfl⟩ | ⟨-, uncreated⟩
  -- The instance is made by the first call, and no later one makes another.
  · rcases List.mem_cons.1 created with same | later
    · cases same
      have kept : .destroyed handle ∉ more := fun done =>
        undestroyed (List.mem_cons_of_mem _ done)
      refine ⟨rfl, (holds.answer answered nofun).settle (fun _ => rfl) kept settles, ?_⟩
      exact fun current loaded => (Lifecycle.settle_ensures settles current loaded).2
    · exact absurd later (Lifecycle.uncreated_of_settle settles)
  · exact absurd created (uncreated _ _ _)

/-- The block of a rom that is running. -/
theorem Holds.boot (holds : Holds rom.block image rig.machine)
    (boots : (Lifecycle.boot rom scale count).Gives rig (.ok current) last made) :
    Holds current.rom.block image last.machine := by
  rcases Lifecycle.boot_cases boots with
    ⟨own, machine, more, answered, settles, rfl⟩ | ⟨⟨_, impossible⟩, -⟩
  · rw [(Lifecycle.settle_ensures settles current rfl).1]
    have undestroyed : .destroyed own ∉ more := Lifecycle.undestroyed_of_settle settles
    exact (holds.answer answered nofun).settle (fun _ => rfl) undestroyed settles
  · cases impossible

/-- A block that was there before is left alone, and another one is used. -/
theorem Holds.launch (holds : Holds block image rig.machine)
    (launches : (Lifecycle.launch bytes scale).Gives rig launched last made) :
    Holds block image last.machine ∧
      ∀ current, launched = .ok current → current.rom.addr ≠ block.addr := by
  rcases Lifecycle.launch_cases launches with
    ⟨rom, middle, first, more, -, allocates, boots, -⟩ | ⟨⟨_, rfl⟩, ⟨rfl, -⟩ | ⟨_, allocates⟩⟩
  · obtain ⟨holds, apart⟩ := holds.allocate allocates
    -- The calls of a launch concern the region that has just been allocated, and it is a different
    -- one.
    have apart := apart rom rfl
    have moves : (Lifecycle.boot rom scale bytes.size : Act Bench τ _).MovesBy
        (Request.Spares block.addr) SurfaceRequest.IsResize :=
      Lifecycle.boot_moves (fun _ minds => minds.spares apart) trivial scale bytes.size
    refine ⟨holds.moves (moves.of_gives boots), fun current loaded => ?_⟩
    rwa [Lifecycle.boot_ensures boots current loaded]
  · exact ⟨holds, nofun⟩
  · exact ⟨(holds.allocate allocates).1, nofun⟩

/-- The image is held where an instance has been created for it. -/
theorem holds_of_created {addr len : UInt32} (tidy : Tidy rig.machine)
    (launches : (Lifecycle.launch image scale).Gives rig launched last made)
    (created : .created addr len handle ∈ made) (undestroyed : .destroyed handle ∉ made) :
    ∃ block : Block, block.addr = addr ∧ Holds block image last.machine ∧
      ∀ current, launched = .ok current → current.handle = handle := by
  rcases Lifecycle.launch_cases launches with
    ⟨rom, middle, first, more, sized, allocates, boots, rfl⟩ | ⟨-, ⟨-, rfl⟩ | ⟨_, allocates⟩⟩
  -- The block is held from its allocation on, and the calls before it make no instance.
  · have holds := holds_of_allocate tidy sized allocates
    have created := (List.mem_append.1 created).resolve_left
      (Region.uncreated_of_allocate allocates)
    have kept : .destroyed handle ∉ more := fun done =>
      undestroyed (List.mem_append_right _ done)
    obtain ⟨same, held⟩ := holds.boot_created boots created kept
    exact ⟨rom.block, same, held⟩
  · cases created
  · exact absurd created (Region.uncreated_of_allocate allocates)

/-- The image of a rom that is running is held. -/
theorem holds_of_launch (tidy : Tidy rig.machine)
    (launches : (Lifecycle.launch image scale).Gives rig (.ok current) last made) :
    Holds current.rom.block image last.machine := by
  rcases Lifecycle.launch_cases launches with
    ⟨rom, middle, first, more, sized, allocates, boots, rfl⟩ | ⟨⟨_, impossible⟩, -⟩
  · exact (holds_of_allocate tidy sized allocates).boot boots
  · cases impossible

variable {value : Except Error Screen × Lifecycle}

/-- A load leaves alone what has been put into stock before, but for an instance that it destroys,
and the rom that it runs has another block. -/
theorem Holds.load (holds : Holds block image rig.machine)
    (custody : InCustody block.addr handle lifecycle) (undestroyed : .destroyed handle ∉ made)
    (loads : (lifecycle.load bytes scale).Gives rig value last made) :
    Holds block image last.machine ∧ InCustody block.addr handle value.2 := by
  obtain ⟨_, middle, first, unloads, ⟨gone, rfl, rfl⟩ | ⟨launched, more, launches, rfl, rfl⟩⟩ :=
    Lifecycle.load_cases loads
  -- The unload has failed, and nothing is launched: nothing is in custody any more.
  · refine ⟨holds.unload custody undestroyed unloads, ?_⟩
    rw [gone]
    exact nofun
  · have kept : .destroyed handle ∉ first := fun done =>
      undestroyed (List.mem_append_left _ done)
    obtain ⟨holds, apart⟩ := (holds.unload custody kept unloads).launch launches
    refine ⟨holds, ?_⟩
    cases launched with
    | error cause => exact nofun
    | ok current =>
      -- The rom that is running now was allocated after the block, so it lies elsewhere.
      rintro _ ⟨⟩ same
      exact absurd same (apart current rfl)

theorem Tidy.unload {value : Except Error Unit × Lifecycle} (tidy : Tidy rig.machine)
    (unloads : lifecycle.unload.Gives rig value last made) : Tidy last.machine := by
  have moves : (lifecycle.unload : Act Bench τ _).MovesBy Request.IsUpkeep fun _ => False :=
    lifecycle.unload_tends
  exact tidy.moves (moves.of_gives unloads)

/-- The image of a load is held as soon as an instance has been created for it. -/
theorem holds_of_load {addr len : UInt32} (tidy : Tidy rig.machine)
    (loads : (lifecycle.load image scale).Gives rig value last made)
    (created : .created addr len handle ∈ made) (undestroyed : .destroyed handle ∉ made) :
    ∃ block : Block, block.addr = addr ∧ Holds block image last.machine ∧
      InCustody addr handle value.2 := by
  obtain ⟨_, middle, first, unloads, ⟨-, -, rfl⟩ | ⟨launched, more, launches, rfl, rfl⟩⟩ :=
    Lifecycle.load_cases loads
  · exact absurd created (Lifecycle.uncreated_of_unload unloads)
  · have created := (List.mem_append.1 created).resolve_left
      (Lifecycle.uncreated_of_unload unloads)
    have kept : .destroyed handle ∉ more := fun done =>
      undestroyed (List.mem_append_right _ done)
    obtain ⟨block, rfl, holds, runs⟩ :=
      holds_of_created (tidy.unload unloads) launches created kept
    refine ⟨block, rfl, holds, ?_⟩
    -- Nothing is in custody unless the launch succeeds, and then it is this instance.
    cases launched with
    | error cause => exact nofun
    | ok current =>
      rintro _ ⟨⟩ -
      exact runs current rfl

/-- A load that succeeds holds its image. -/
theorem holds_of_loaded (tidy : Tidy rig.machine)
    (loads : (lifecycle.load image scale).Gives rig value last made)
    (loaded : value.2 = .loaded current) : Holds current.rom.block image last.machine := by
  obtain ⟨_, middle, first, unloads, ⟨gone, -⟩ | ⟨launched, more, launches, -, rfl⟩⟩ :=
    Lifecycle.load_cases loads
  · rw [gone] at loaded
    cases loaded
  · cases launched with
    | error cause => cases loaded
    | ok running =>
      obtain rfl := Lifecycle.loaded.inj loaded
      exact holds_of_launch (tidy.unload unloads) launches

end Acts

/-- A prank takes no block away. -/
theorem Tidy.prank {machine : Machine Bench} (tidy : Tidy machine) (prank : Prank) :
    Tidy { machine with state.mischief := machine.state.mischief.add prank.name } :=
  ⟨(Renderer.sameStock_of_prank _ prank).misplaces.trans tidy.placed, tidy.roomy⟩

theorem Holds.prank {machine : Machine Bench} {block : Block} {image : Bytes} (prank : Prank)
    (holds : Holds block image machine) :
    Holds block image
      { machine with state.mischief := machine.state.mischief.add prank.name } :=
  ⟨holds.toTidy.prank prank, holds.live, holds.nonempty, holds.behind, holds.inside, holds.view⟩

end Bench

/-! ## §2 Trials

What is done on the bench is a list of turns, keys and pranks.  Only a load and an unload can take a
block away, and then with its instance. -/

/-- The trial neither loads nor unloads a rom. -/
def Trial.IsQuiet : Trial → Prop
  | .turn (.load _ _) | .turn .unload => False
  | .turn (.reset _ _) | .turn .tick | .key _ _ _ | .prank _ => True

namespace Renderer

open Bench

section Trials

variable [Clockwork] {τ : Type} [Surface τ] {renderer : Renderer} {rig : Rig Bench τ}
  {trial : Trial} {trials : List Trial} {outcome : Outcome Bench τ Renderer} {block : Block}
  {image : Bytes} {handle : Handle} {current : LoadedRom}

/-- A trial that neither loads nor unloads leaves the lifecycle and every block alone. -/
theorem undergo_quiet (quiet : trial.IsQuiet)
    (run : (renderer.undergo trial).run rig = .ok outcome) :
    outcome.value.lifecycle = renderer.lifecycle ∧
      ∀ block image, Holds block image rig.machine → Holds block image outcome.rig.machine := by
  cases trial with
  | turn turn =>
    cases turn with
    | load | unload => exact quiet.elim
    | reset width height =>
      obtain ⟨_, answers, rfl⟩ := Act.run_map_eq_ok_iff.1 run
      obtain ⟨inner, resets, rfl⟩ := Act.run_map_eq_ok_iff.1 answers
      obtain ⟨fresh, -, rfl⟩ := Act.run_ofFaulty_eq_ok_iff.1 resets
      exact ⟨rfl, fun _ _ => id⟩
    | tick =>
      obtain ⟨_, answers, rfl⟩ := Act.run_map_eq_ok_iff.1 run
      obtain ⟨inner, ticks, rfl⟩ := Act.run_map_eq_ok_iff.1 answers
      -- A tick steps the core and looks at its picture; neither touches a block.
      have moves := (renderer.pipeline.tick_moves renderer.lifecycle).of_run ticks
      refine ⟨rfl, fun _ _ holds => ?_⟩
      exact holds.moves (moves.mono (fun _ => Request.IsFrame.spares) fun _ => id)
  | key policy event state =>
    obtain ⟨inner, forwards, rfl⟩ := Act.run_map_eq_ok_iff.1 run
    have moves := (policy.forward_moves _ event state).of_run forwards
    refine ⟨rfl, fun _ _ holds => ?_⟩
    exact holds.moves (moves.mono (fun _ => Request.IsButton.spares) fun _ => id)
  | prank prank =>
    obtain rfl := Except.ok.inj run
    exact ⟨rfl, fun _ _ => Holds.prank prank⟩

theorem undergo_tidy (tidy : Tidy rig.machine)
    (run : (renderer.undergo trial).run rig = .ok outcome) : Tidy outcome.rig.machine := by
  cases trial with
  | turn turn => exact tidy.moves ((perform_moves renderer turn).of_run run)
  | key policy event state =>
    obtain ⟨inner, forwards, rfl⟩ := Act.run_map_eq_ok_iff.1 run
    exact tidy.moves ((policy.forward_moves _ event state).of_run forwards)
  | prank prank =>
    obtain rfl := Except.ok.inj run
    exact tidy.prank prank

theorem undergoAll_tidy (tidy : Tidy rig.machine)
    (run : (renderer.undergoAll trials).run rig = .ok outcome) : Tidy outcome.rig.machine := by
  induction trials generalizing renderer rig outcome with
  | nil =>
    obtain rfl := Except.ok.inj run
    exact tidy
  | cons trial trials ih =>
    obtain ⟨first, rest, trial_run, goes_on, rfl⟩ := Act.run_bind_eq_ok_iff.1 run
    have tidy : Tidy rest.rig.machine := ih (undergo_tidy tidy trial_run) goes_on
    exact tidy

/-- A trial takes a block away only with its instance. -/
theorem undergo_holds (holds : Holds block image rig.machine)
    (custody : InCustody block.addr handle renderer.lifecycle)
    (run : (renderer.undergo trial).run rig = .ok outcome)
    (undestroyed : ⟨.destroy handle, .ok ()⟩ ∉ outcome.journal.calls) :
    Holds block image outcome.rig.machine ∧
      InCustody block.addr handle outcome.value.lifecycle := by
  have kept : .destroyed handle ∉ outcome.journal.exchanges :=
    fun done => undestroyed (Journal.mem_calls_iff.2 done)
  by_cases quiet : trial.IsQuiet
  · obtain ⟨same, stays⟩ := undergo_quiet quiet run
    exact ⟨stays _ _ holds, same ▸ custody⟩
  · cases trial with
    | key | prank => exact absurd trivial quiet
    | turn turn =>
      cases turn with
      | reset | tick => exact absurd trivial quiet
      | load rom scale =>
        obtain ⟨_, answers, rfl⟩ := Act.run_map_eq_ok_iff.1 run
        obtain ⟨inner, loads, rfl⟩ := Act.run_map_eq_ok_iff.1 answers
        exact holds.load custody kept (.of_run loads)
      | unload =>
        -- The lifecycle is empty behind the unload, so it has custody of nothing.
        obtain ⟨_, answers, rfl⟩ := Act.run_map_eq_ok_iff.1 run
        obtain ⟨inner, unloads, rfl⟩ := Act.run_map_eq_ok_iff.1 answers
        refine ⟨holds.unload custody kept (.of_run unloads), ?_⟩
        have gone : inner.value.2 = .empty := Lifecycle.unload_value unloads
        show InCustody _ _ inner.value.2
        rw [gone]
        exact nofun

theorem undergoAll_holds (holds : Holds block image rig.machine)
    (custody : InCustody block.addr handle renderer.lifecycle)
    (run : (renderer.undergoAll trials).run rig = .ok outcome)
    (undestroyed : ⟨.destroy handle, .ok ()⟩ ∉ outcome.journal.calls) :
    Holds block image outcome.rig.machine := by
  induction trials generalizing renderer rig outcome with
  | nil =>
    obtain rfl := Except.ok.inj run
    exact holds
  | cons trial trials ih =>
    obtain ⟨first, rest, trial_run, goes_on, rfl⟩ := Act.run_bind_eq_ok_iff.1 run
    -- A destroy in any of the trials would stand in the whole journal.
    dsimp only at undestroyed
    rw [Journal.calls_append, List.mem_append, not_or] at undestroyed
    obtain ⟨holds, custody⟩ := undergo_holds holds custody trial_run undestroyed.1
    have holds : Holds block image rest.rig.machine := ih holds custody goes_on undestroyed.2
    exact holds

/-! ## §3 The image of a rom

The image of the running rom is found by induction from the right: the last trial is either quiet,
or it is the load that the rom comes from. -/

/-- The running rom is that of the last load: it has been given this image, and since then no rom
has been loaded or unloaded. -/
def RunsFrom (renderer : Renderer) (rig : Rig Bench τ) (trials : List Trial) (image : Bytes)
    (current : LoadedRom) : Prop :=
  ∃ before scale after loading,
    trials = before ++ .turn (.load image scale) :: after ∧
    (renderer.undergoAll (before ++ [.turn (.load image scale)])).run rig = .ok loading ∧
    loading.value.lifecycle = .loaded current ∧ ∀ trial ∈ after, trial.IsQuiet

/-- A rom that is running has been loaded, and the image is held since then. -/
theorem holds_of_running (tidy : Tidy rig.machine) (vacant : renderer.lifecycle = .empty)
    (run : (renderer.undergoAll trials).run rig = .ok outcome)
    (running : outcome.value.lifecycle = .loaded current) :
    ∃ image, renderer.RunsFrom rig trials image current ∧
      Holds current.rom.block image outcome.rig.machine := by
  induction trials using List.reverseRecOn generalizing outcome with
  | nil =>
    obtain rfl := Except.ok.inj run
    cases vacant.symm.trans running
  | append_singleton trials trial ih =>
    obtain ⟨middle, last, before, trial_run, rfl⟩ := run_undergoAll_concat_iff.1 run
    -- A quiet trial leaves the rom of the last load running, and its block alone.
    by_cases quiet : trial.IsQuiet
    · obtain ⟨same, stays⟩ := undergo_quiet quiet trial_run
      obtain ⟨image, runs, holds⟩ := ih before (same.symm.trans running)
      obtain ⟨earlier, scale, later, loading, rfl, load_run, loaded, calm⟩ := runs
      refine ⟨image, ⟨earlier, scale, later ++ [trial], loading, by simp, load_run, loaded, ?_⟩,
        stays _ _ holds⟩
      exact List.forall_mem_append.2 ⟨calm, List.forall_mem_singleton.2 quiet⟩
    · cases trial with
      | key | prank => exact absurd trivial quiet
      | turn turn =>
        cases turn with
        | reset | tick => exact absurd trivial quiet
        | unload =>
          obtain ⟨_, answers, rfl⟩ := Act.run_map_eq_ok_iff.1 trial_run
          obtain ⟨inner, unloads, rfl⟩ := Act.run_map_eq_ok_iff.1 answers
          cases (Lifecycle.unload_value unloads).symm.trans running
        -- The load has succeeded, and so its own image is the one that is held.
        | load image scale =>
          refine ⟨image, ⟨trials, scale, [], _, rfl, run, running, nofun⟩, ?_⟩
          obtain ⟨_, answers, rfl⟩ := Act.run_map_eq_ok_iff.1 trial_run
          obtain ⟨inner, loads, rfl⟩ := Act.run_map_eq_ok_iff.1 answers
          exact holds_of_loaded (undergoAll_tidy tidy before) (.of_run loads) running

/-- An image for which an instance has been created is held until the instance is destroyed. -/
theorem holds_of_created_in {scale addr len : UInt32}
    {started loading : Outcome Bench τ Renderer} (tidy : Tidy started.rig.machine)
    (load_run : (started.value.undergo (.turn (.load image scale))).run started.rig = .ok loading)
    (goes_on : (loading.value.undergoAll trials).run loading.rig = .ok outcome)
    (created : ⟨.create addr len, .ok (some handle)⟩ ∈ loading.journal.calls)
    (undestroyed : ⟨.destroy handle, .ok ()⟩ ∉ loading.journal.calls ++ outcome.journal.calls) :
    ∃ block : Block, block.addr = addr ∧ Holds block image outcome.rig.machine := by
  rw [List.mem_append, not_or] at undestroyed
  obtain ⟨_, answers, rfl⟩ := Act.run_map_eq_ok_iff.1 load_run
  obtain ⟨inner, loads, rfl⟩ := Act.run_map_eq_ok_iff.1 answers
  -- What the lifecycle destroys in the load would stand in the journal.
  have kept : .destroyed handle ∉ inner.journal.exchanges :=
    fun done => undestroyed.1 (Journal.mem_calls_iff.2 done)
  obtain ⟨block, rfl, holds, custody⟩ :=
    holds_of_load tidy (.of_run loads) (Journal.mem_calls_iff.1 created) kept
  exact ⟨block, rfl, undergoAll_holds holds custody goes_on undestroyed.2⟩

/-- A bench core that does not misplace a block keeps the rom, whatever is done on the bench and
however often it is told to fail.

- If a rom is running, its block holds the image with which the last load succeeded.
- The block of every instance that has been created in a load holds the image of this load until
  the instance is destroyed, also if the controller has lost it.
- At the time when the instance is created its image is in the block: a core that looks for it then
  and does something else where it does not find it makes no difference to a load. -/
theorem rom_resident (bench : Bench) (placed : bench.mischief.misplaceMalloc = false)
    (new : rig.machine = bench.machine) (vacant : renderer.lifecycle = .empty)
    (run : (renderer.undergoAll trials).run rig = .ok outcome) :
    (∀ current, outcome.value.lifecycle = .loaded current →
      ∃ image, renderer.RunsFrom rig trials image current ∧
        block? outcome.rig.machine current.rom.addr = .ok (some image)) ∧
    (∀ before image scale after started loading rest,
      trials = before ++ .turn (.load image scale) :: after →
      (renderer.undergoAll before).run rig = .ok started →
      (started.value.undergo (.turn (.load image scale))).run started.rig = .ok loading →
      (loading.value.undergoAll after).run loading.rig = .ok rest →
      ∀ addr len handle, ⟨.create addr len, .ok (some handle)⟩ ∈ loading.journal.calls →
        ⟨.destroy handle, .ok ()⟩ ∉ loading.journal.calls ++ rest.journal.calls →
        block? outcome.rig.machine addr = .ok (some image)) ∧
    ∀ (lifecycle : Lifecycle) image scale stray,
      @Lifecycle.load Bench τ (NativeCore.attentive inferInstance image stray) _ lifecycle image
        scale = lifecycle.load image scale := by
  have tidy : Tidy rig.machine := by
    rw [new]
    exact ⟨placed, Nat.le_of_eq (by simp [Bench.machine])⟩
  refine ⟨fun current running => ?_, ?_, ?_⟩
  · obtain ⟨image, runs, holds⟩ := holds_of_running tidy vacant run running
    exact ⟨image, runs, holds.block?_eq⟩
  -- The trials are cut at the load: up to it, itself, and behind it.
  · intro before image scale after started loading rest split start load_run goes_on addr len handle
      created undestroyed
    obtain ⟨block, rfl, holds⟩ := holds_of_created_in (undergoAll_tidy tidy start) load_run goes_on
      created undestroyed
    rw [split, run_undergoAll_of_parts start load_run goes_on] at run
    obtain rfl := Except.ok.inj run
    exact holds.block?_eq
  · intro lifecycle image scale stray
    exact lifecycle.load_attentive _ image stray scale

end Trials

instance (request : Request) : DecidableEq request.Answer :=
  match request with
  | .malloc _ | .screenPointer _ | .screenWidth _ | .screenHeight _ =>
    inferInstanceAs (DecidableEq UInt32)
  | .free _ | .destroy _ | .setButtonState _ _ _ => inferInstanceAs (DecidableEq Unit)
  | .create _ _ => inferInstanceAs (DecidableEq (Option Handle))
  | .step _ _ => inferInstanceAs (DecidableEq Int32)

deriving instance DecidableEq for NativeCall

/-- The second rom that is started cannot be destroyed when it is unloaded, and is lost; the third
one is running in the end. -/
theorem rom_resident_of_pranks :
    ∃ outcome current image,
      (undergoAll ⟨.empty, { scale := 1, stepMode := .vsync }⟩ pranks).run
          ⟨Bench.machine { heapSize := 64, screen := ⟨1, 1⟩ }, smallCanvas, {}⟩ = .ok outcome ∧
        outcome.value.lifecycle = .loaded current ∧
        block? outcome.rig.machine current.rom.addr = .ok (some image) ∧
        block? outcome.rig.machine 32 = .ok (some #[7, 8]) := by
  -- The three parts of the run, each of them evaluated from where the one before has led.
  have evaluated : ((undergoAll ⟨.empty, { scale := 1, stepMode := .vsync }⟩ (pranks.take 6)).run
      ⟨Bench.machine { heapSize := 64, screen := ⟨1, 1⟩ }, smallCanvas, {}⟩).toOption.any
      (fun started => decide
        (((started.value.undergo (.turn (.load #[7, 8] 1))).run started.rig).toOption.any
          (fun loading => decide
            (⟨.create 32 2, .ok (some ⟨2, by decide⟩)⟩ ∈ loading.journal.calls ∧
              ((loading.value.undergoAll (pranks.drop 7)).run loading.rig).toOption.any
                (fun rest => decide (rest.value.lifecycle.isLoaded ∧
                  ⟨.destroy ⟨2, by decide⟩, .ok ()⟩ ∉
                    loading.journal.calls ++ rest.journal.calls)) = true)) = true)) = true := by
    decide +kernel
  obtain ⟨started, start, loads⟩ := Checked.exists_of_any evaluated
  obtain ⟨loading, load_run, created, continues⟩ := Checked.exists_of_any loads
  obtain ⟨rest, goes_on, running, undestroyed⟩ := Checked.exists_of_any continues
  have split : pranks = pranks.take 6 ++ .turn (.load #[7, 8] 1) :: pranks.drop 7 := rfl
  have run := run_undergoAll_of_parts start load_run goes_on
  rw [← split] at run
  obtain ⟨resident, lost, -⟩ := rom_resident { heapSize := 64, screen := ⟨1, 1⟩ } rfl rfl rfl run
  have kept := lost (pranks.take 6) #[7, 8] 1 (pranks.drop 7) started loading rest split start
    load_run goes_on 32 2 _ created undestroyed
  cases loaded : rest.value.lifecycle with
  | empty =>
    rw [loaded] at running
    cases running
  | loaded current =>
    obtain ⟨image, -, held⟩ := resident current loaded
    exact ⟨_, current, image, run, loaded, held, kept⟩

end Renderer

end Handheld
