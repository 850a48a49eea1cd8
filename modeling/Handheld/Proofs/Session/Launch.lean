import Handheld.Proofs.Session.Continuation
import Handheld.Proofs.Session.Moves

/-!
# The Parts of a Load

A load unloads, allocates a block, creates an instance and settles it.  For each part this module
says how what it gives has come about: `load_cases`, `launch_cases` and `boot_cases` give the runs
of the parts that have been gone through.  Only `boot` creates an instance, and an instance that has
been taken into service has not been destroyed on the way.
-/

namespace Handheld

/-- An instance has been created. -/
def Entry.created (addr len : UInt32) (handle : Handle) : Entry :=
  .native (.create addr len) (.ok (some handle))

/-- The instance has been destroyed. -/
def Entry.destroyed (handle : Handle) : Entry := .native (.destroy handle) (.ok ())

open Act

variable {σ τ : Type} [NativeCore σ] [Surface τ] {rig last : Rig σ τ} {made : List Entry}
  {image : Bytes} {scale addr len : UInt32} {handle own : Handle} {rom : Region} {bytes : Nat}

theorem Region.uncreated_of_allocate {value : Except Error Region}
    (allocates : (allocate image).Gives rig value last made) : .created addr len handle ∉ made := by
  have moves : (allocate image : Act σ τ _).MovesBy (fun request => request.function ≠ .create)
      fun _ => False := allocate_moves image nofun nofun
  exact fun done => (moves.of_gives allocates).kinds _ done rfl

namespace Lifecycle

variable {launched : Except Error LoadedRom}

theorem uncreated_of_unload {lifecycle : Lifecycle} {value : Except Error Unit × Lifecycle}
    (unloads : lifecycle.unload.Gives rig value last made) : .created addr len handle ∉ made := by
  have moves : (lifecycle.unload : Act σ τ _).MovesBy (fun request => request.function ≠ .create)
      fun _ => False := by
    refine lifecycle.unload_moves fun current _ request minds creates => ?_
    cases request with
    | create => exact minds
    | _ => cases creates
  exact fun done => (moves.of_gives unloads).kinds _ done rfl

theorem uncreated_of_settle
    (settles : (settle own rom scale bytes).Gives rig launched last made) :
    .created addr len handle ∉ made := by
  have moves : (settle own rom scale bytes : Act σ τ _).MovesBy (Request.Minds rom.addr)
      SurfaceRequest.IsResize := settle_moves (fun _ => id) own scale bytes
  exact fun done => (moves.of_gives settles).kinds _ done

/-- A load that gives its block up has no instance. -/
theorem uncreated_of_discard {cause : Error}
    (gives_up : (do
      discard rom
      return .error cause : Act σ τ (Except Error LoadedRom)).Gives rig launched last made) :
    launched = .error cause ∧ ∀ addr len handle, .created addr len handle ∉ made := by
  obtain ⟨_, discards, refused⟩ := gives_map_iff.1 gives_up
  have moves : (discard rom : Act σ τ _).MovesBy (Request.Minds rom.addr) fun _ => False :=
    discard_moves fun _ => id
  exact ⟨refused, fun _ _ _ done => (moves.of_gives discards).kinds _ done⟩

/-- An instance is taken into service with the screen that has been found for it. -/
theorem settle_of_ok {current : LoadedRom}
    (settles : (settle own rom scale bytes).Gives rig (.ok current) last made) :
    ∃ screen, (configure own scale).Gives rig (.ok screen) last made ∧
      current = ⟨own, rom, screen⟩ := by
  obtain ⟨answer, _, first, more, configures, goes_on, rfl⟩ := gives_bind_iff.1 settles
  cases answer with
  | ok screen =>
    obtain ⟨_, _, _, _, notes, returns, rfl⟩ := gives_bind_iff.1 goes_on
    obtain ⟨rfl, rfl⟩ := gives_note_iff.1 notes
    obtain ⟨same, rfl, rfl⟩ := gives_pure_iff.1 returns
    rw [List.append_nil, List.append_nil]
    exact ⟨screen, configures, Except.ok.inj same⟩
  | error cause =>
    -- What cannot be configured is torn down, and then there is no rom.
    obtain ⟨_, _, _, _, -, reports, -⟩ := gives_bind_iff.1 goes_on
    obtain ⟨_, _, _, _, -, returns, -⟩ := gives_bind_iff.1 reports
    cases (gives_pure_iff.1 returns).1

/-- An instance that is taken into service has not been destroyed. -/
theorem undestroyed_of_settle {current : LoadedRom}
    (settles : (settle own rom scale bytes).Gives rig (.ok current) last made) :
    .destroyed handle ∉ made := by
  obtain ⟨_, configures, -⟩ := settle_of_ok settles
  have moves : (configure own scale : Act σ τ _).MovesBy
      (fun request => request.function ≠ .destroy) SurfaceRequest.IsResize :=
    configure_moves nofun nofun scale
  exact fun done => (moves.of_gives configures).kinds _ done rfl

theorem settle_ensures :
    (settle own rom scale bytes : Act σ τ _).Ensures fun launched =>
      ∀ current, launched = .ok current → current.rom = rom ∧ current.handle = own := by
  refine bind_ensures fun answer => ?_
  cases answer with
  | ok screen =>
    refine bind_ensures fun _ => ensures_pure ?_
    rintro _ ⟨⟩
    exact ⟨rfl, rfl⟩
  | error cause => exact bind_ensures fun _ => bind_ensures fun _ => ensures_pure nofun

/-- An instance is created and settled, or none is. -/
theorem boot_cases (boots : (boot rom scale bytes).Gives rig launched last made) :
    (∃ own machine more,
      NativeCore.answer (.create rom.addr rom.len) rig.machine = .ok (.ok (some own), machine) ∧
      (settle own rom scale bytes).Gives { rig with machine } launched last more ∧
      made = .created rom.addr rom.len own :: more) ∨
    (∃ cause, launched = .error cause) ∧ ∀ addr len handle, .created addr len handle ∉ made := by
  obtain ⟨answer, middle, first, more, asks, goes_on, rfl⟩ := gives_bind_iff.1 boots
  obtain ⟨machine, answered, rfl, rfl⟩ := gives_ask_iff.1 asks
  -- The case of a new instance is taken first; the other two give up in the same way.
  rcases answer with cause | _ | own
  rotate_left 2
  · exact .inl ⟨own, machine, more, answered, goes_on, rfl⟩
  all_goals
    obtain ⟨refused, uncreated⟩ := uncreated_of_discard goes_on
    refine .inr ⟨⟨_, refused⟩, fun addr len handle done => ?_⟩
    exact uncreated _ _ _ ((List.mem_cons.1 done).resolve_left nofun)

theorem boot_ensures :
    (boot rom scale bytes : Act σ τ _).Ensures fun launched =>
      ∀ current, launched = .ok current → current.rom = rom := by
  intro rig launched last made boots current loaded
  rcases boot_cases boots with ⟨own, machine, more, -, settles, -⟩ | ⟨⟨_, refused⟩, -⟩
  · exact (settle_ensures settles current loaded).1
  · rw [refused] at loaded
    cases loaded

/-- The block that has been allocated is booted, or there is no block. -/
theorem launch_cases (launches : (launch image scale).Gives rig launched last made) :
    (∃ rom middle first more, image.size ≠ 0 ∧
        (Region.allocate image).Gives rig (.ok rom) middle first ∧
        (boot rom scale image.size).Gives middle launched last more ∧ made = first ++ more) ∨
      (∃ cause, launched = .error cause) ∧ (last = rig ∧ made = [] ∨
        ∃ cause, (Region.allocate image).Gives rig (.error cause) last made) := by
  unfold launch at launches
  split at launches
  · obtain ⟨rfl, rfl, rfl⟩ := gives_pure_iff.1 launches
    exact .inr ⟨⟨_, rfl⟩, .inl ⟨rfl, rfl⟩⟩
  · next nonempty =>
    obtain ⟨answer, middle, first, more, allocates, goes_on, rfl⟩ := gives_bind_iff.1 launches
    cases answer with
    | error cause =>
      obtain ⟨rfl, rfl, rfl⟩ := gives_pure_iff.1 goes_on
      rw [List.append_nil]
      exact .inr ⟨⟨_, rfl⟩, .inr ⟨cause, allocates⟩⟩
    | ok rom =>
      -- The length is kept for what comes later: an image that is launched is not empty.
      have sized : image.size ≠ 0 := fun empty => nonempty (Array.isEmpty_iff_size_eq_zero.2 empty)
      exact .inl ⟨rom, middle, first, more, sized, allocates, goes_on, rfl⟩

/-- The rest of a load is a launch, unless the unload has failed. -/
theorem load_cases {lifecycle : Lifecycle} {value : Except Error Screen × Lifecycle}
    (loads : (lifecycle.load image scale).Gives rig value last made) :
    ∃ unloaded middle first, lifecycle.unload.Gives rig unloaded middle first ∧
      ((value.2 = .empty ∧ last = middle ∧ made = first) ∨
        ∃ launched more, (launch image scale).Gives middle launched last more ∧
          made = first ++ more ∧ value = conclusion launched) := by
  obtain ⟨unloaded, middle, first, more, unloads, goes_on, rfl⟩ := gives_bind_iff.1 loads
  refine ⟨unloaded, middle, first, unloads, ?_⟩
  rcases unloaded with ⟨cause | _, rest⟩
  · obtain ⟨rfl, rfl, rfl⟩ := gives_pure_iff.1 goes_on
    exact .inl ⟨rfl, rfl, List.append_nil _⟩
  · obtain ⟨launched, _, _, _, launches, returns, rfl⟩ := gives_bind_iff.1 goes_on
    -- Whatever has become of the launch, the load only draws its conclusion.
    cases launched
    all_goals
      obtain ⟨rfl, rfl, rfl⟩ := gives_pure_iff.1 returns
      exact .inr ⟨_, _, launches, congrArg _ (List.append_nil _), rfl⟩

end Lifecycle

end Handheld
