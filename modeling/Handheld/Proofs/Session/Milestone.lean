import Handheld.Proofs.Core.Memory
import Handheld.Proofs.Session.Execution
import Handheld.Proofs.Session.Screen

/-!
# The Steps of a Load

A load is eleven steps in a fixed order.  `Milestone` says how far a load has come,
`Milestone.advance` is the next step from there, and `Progress` is a row of steps that succeed.
A load that fails is *broken off*: some steps succeed, the next one fails, and what has been
acquired until then is given back.

Two of the steps run checks of the program, on a range of memory and on a screen.  So that nobody
has to take these for what they are called, `Milestone.Fails` says in plain numbers when a step
fails and with which error, and `Milestone.advance_fails_iff` that it fails exactly then.
-/

namespace Handheld

/-! ## §1 Milestones

A milestone carries what the next step needs: the old rom, the block, the instance, the screen.  A
step makes one call at most, and which one it is can be read off the milestone. -/

/-- How far a load has come. -/
inductive Milestone
  /-- The old rom is still running. -/
  | occupied (old : LoadedRom)
  /-- The old instance is gone, its buffer is still there. -/
  | halted (old : LoadedRom)
  /-- No rom is there. -/
  | vacant
  /-- The image is not empty. -/
  | admitted
  /-- The length of the image is a word. -/
  | measured (len : UInt32)
  /-- The core has given a block for the image. -/
  | given (rom : Region)
  /-- The block holds the image. -/
  | filled (rom : Region)
  /-- An instance has been created. -/
  | created (rom : Region) (handle : Handle)
  /-- The width of its screen is known. -/
  | wide (rom : Region) (handle : Handle) (width : UInt32)
  /-- Its screen is known. -/
  | sized (rom : Region) (handle : Handle) (screen : Screen)
  /-- Its screen can be shown on a surface of the given size. -/
  | fitting (rom : Region) (handle : Handle) (screen : Screen) (size : UInt32 × UInt32)
  /-- The surface has this size; nothing is left to do. -/
  | finished (current : LoadedRom)

/-- What a load has acquired and has to give back if it fails. -/
inductive Holdings
  | nothing
  /-- A block that no instance uses. -/
  | block (rom : Region)
  /-- An instance and the block it was created from. -/
  | instance (rom : Region) (handle : Handle)

/-- The calls that give back what has been acquired.  The block of an instance that cannot be
destroyed is kept. -/
def Holdings.CleanedUp : Holdings → List Entry → Prop
  | .nothing, calls => calls = []
  | .block rom, calls => ∃ answer, calls = [.native (.free rom.addr) answer]
  | .instance rom handle, calls =>
    (∃ cause, calls = [.native (.destroy handle) (.error cause)]) ∨
      ∃ answer, calls = [.native (.destroy handle) (.ok ()), .native (.free rom.addr) answer]

namespace Milestone

/-- Where a load starts. -/
def start : Lifecycle → Milestone
  | .empty => .vacant
  | .loaded old => .occupied old

/-- What has been acquired on the way. -/
def holdings : Milestone → Holdings
  | .occupied _ | .halted _ | .vacant | .admitted | .measured _ | .finished _ => .nothing
  | .given rom | .filled rom => .block rom
  | .created rom handle | .wide rom handle _ | .sized rom handle _ | .fitting rom handle _ _ =>
    .instance rom handle

variable {σ τ : Type} [NativeCore σ] [Surface τ]

/-- The next step of a load.  Each makes one call at most. -/
def advance (image : Bytes) (scale : UInt32) : Milestone → Act σ τ (Except Error Milestone)
  -- 1. Destroy the old instance.
  | .occupied old => do return (← Act.ask (.destroy old.handle)).map fun () => .halted old
  -- 2. Give its buffer back.
  | .halted old => do return (← Act.ask (.free old.rom.addr)).map fun () => .vacant
  -- 3. Refuse an empty image.
  | .vacant => return if image.isEmpty then .error .emptyRom else .ok .admitted
  -- 4. Refuse an image whose length is no word.
  | .admitted =>
    return if image.size < UInt32.size then .ok (.measured (UInt32.ofNat image.size))
      else .error (.outOfMemory image.size)
  -- 5. Ask for a block.
  | .measured len => do
    return (← Act.ask (.malloc len)).bind fun addr =>
      match Region.ofAddress? addr len with
      | some rom => .ok (.given rom)
      | none => .error (.outOfMemory image.size)
  -- 6. Copy the image into it.
  | .given rom => do return (← Region.writeMemory rom.addr image).map fun () => .filled rom
  -- 7. Create an instance.
  | .filled rom => do
    return (← Act.ask (.create rom.addr rom.len)).bind fun
      | some handle => .ok (.created rom handle)
      | none => .error (.createFailed image.size)
  -- 8. Ask for the width of its screen.
  | .created rom handle => do return (← Act.ask (.screenWidth handle)).map (.wide rom handle)
  -- 9. Ask for the height.
  | .wide rom handle width => do
    return (← Act.ask (.screenHeight handle)).map fun height => .sized rom handle ⟨width, height⟩
  -- 10. Refuse a screen that cannot be shown.
  | .sized rom handle screen => do
    return (screen.checked scale (← Act.memory)).map (.fitting rom handle screen)
  -- 11. Size the surface.
  | .fitting rom handle screen size => do
    return (← Act.present (.resize size.1 size.2)).map fun () => .finished ⟨handle, rom, screen⟩
  | .finished current => return .ok (.finished current)

/-- The number of steps that have been made, the two of an unload included. -/
def stage : Milestone → Nat
  | .occupied _ => 0
  | .halted _ => 1
  | .vacant => 2
  | .admitted => 3
  | .measured _ => 4
  | .given _ => 5
  | .filled _ => 6
  | .created _ _ => 7
  | .wide _ _ _ => 8
  | .sized _ _ _ => 9
  | .fitting _ _ _ _ => 10
  | .finished _ => 11

/-- The steps of a load come in the order of their numbers, and none is left out. -/
theorem stage_of_advance {image : Bytes} {scale : UInt32} {milestone next : Milestone}
    {rig : Rig σ τ} {outcome : Outcome σ τ (Except Error Milestone)}
    (run : (milestone.advance image scale).run rig = .ok outcome)
    (succeeds : outcome.value = .ok next) : next.stage = min 11 (milestone.stage + 1) := by
  -- Apart from the refusals of an image every step maps the answer of an act.
  cases milestone with
  | vacant | admitted =>
    obtain rfl := Except.ok.inj run
    dsimp only at succeeds
    split at succeeds
    all_goals cases succeeds
    all_goals rfl
  -- Nothing comes after the last step, so the minimum is taken with its number.
  | finished =>
    obtain rfl := Except.ok.inj run
    cases succeeds
    rfl
  | measured | filled =>
    obtain ⟨inner, -, rfl⟩ := Act.run_map_eq_ok_iff.1 run
    -- These two can be refused by an answer as well as by an error.
    rcases inner with ⟨_ | answer, _, _⟩
    · cases succeeds
    · simp only [Except.bind] at succeeds
      split at succeeds
      all_goals cases succeeds
      all_goals rfl
  | sized rom handle screen =>
    obtain ⟨inner, -, rfl⟩ := Act.run_map_eq_ok_iff.1 run
    rcases hchecked : screen.checked scale inner.value with _ | size
    all_goals
      rw [hchecked] at succeeds
      cases succeeds
    rfl
  | occupied | halted | given | created | wide | fitting =>
    obtain ⟨inner, -, rfl⟩ := Act.run_map_eq_ok_iff.1 run
    rcases inner with ⟨_ | answer, _, _⟩
    all_goals cases succeeds
    rfl

/-! ## §2 When a step fails -/

/-- What a step asks of the core, if it asks for anything. -/
def request? : Milestone → Option Request
  | .occupied old => some (.destroy old.handle)
  | .halted old => some (.free old.rom.addr)
  | .measured len => some (.malloc len)
  | .filled rom => some (.create rom.addr rom.len)
  | .created _ handle => some (.screenWidth handle)
  | .wide _ handle _ => some (.screenHeight handle)
  | .vacant | .admitted | .given _ | .sized _ _ _ | .fitting _ _ _ _ | .finished _ => none

/-- When a step of a load fails, and with which error.  Lengths, ends of ranges and products are
those of the unbounded integers, so that this can be read without the checks that the steps run. -/
inductive Fails (image : Bytes) (scale : UInt32) (rig : Rig σ τ) : Milestone → Error → Prop
  /-- The core refuses what it is asked for, and its error is passed on. -/
  | call {milestone : Milestone} {request : Request} {cause : Error} {machine : Machine σ}
      (asks : milestone.request? = some request)
      (answered : NativeCore.answer request rig.machine = .ok (.error cause, machine)) :
      Fails image scale rig milestone cause
  | empty (nothing : image.size = 0) : Fails image scale rig .vacant .emptyRom
  | long (beyond : 2 ^ 32 ≤ image.size) :
      Fails image scale rig .admitted (.outOfMemory image.size)
  /-- The core has no block: its answer is the null address. -/
  | null {len : UInt32} {machine : Machine σ}
      (answered : NativeCore.answer (.malloc len) rig.machine = .ok (.ok 0, machine)) :
      Fails image scale rig (.measured len) (.outOfMemory image.size)
  /-- The image would end behind the end of memory, or where no size reaches. -/
  | outside {rom : Region}
      (beyond : min rig.machine.memory.size Checked.maxSize < rom.addr.toNat + image.size) :
      Fails image scale rig (.given rom)
        (.outOfBounds rom.addr image.size rig.machine.memory.size)
  /-- The core creates no instance. -/
  | rejected {rom : Region} {machine : Machine σ}
      (answered : NativeCore.answer (.create rom.addr rom.len) rig.machine =
        .ok (.ok none, machine)) :
      Fails image scale rig (.filled rom) (.createFailed image.size)
  | unshowable {rom : Region} {handle : Handle} {screen : Screen}
      (unfit : ¬ screen.Showable scale rig.machine.memory.size) :
      Fails image scale rig (.sized rom handle screen)
        (.invalidResolution screen.width screen.height)
  /-- The surface refuses the size. -/
  | unsized {rom : Region} {handle : Handle} {screen : Screen} {size : UInt32 × UInt32}
      {reason : HostError} {display : τ}
      (performed : SurfaceRequest.perform (.resize size.1 size.2) rig.display =
        .ok (.error reason, display)) :
      Fails image scale rig (.fitting rom handle screen size) (.surface reason)

section Failures

variable {image : Bytes} {scale : UInt32} {milestone : Milestone} {rig : Rig σ τ} {cause : Error}

/-- A step that fails has the reason of the list, whatever the core answers. -/
theorem fails_of_advance {outcome : Outcome σ τ (Except Error Milestone)}
    (run : (milestone.advance image scale).run rig = .ok outcome)
    (broken : outcome.value = .error cause) : milestone.Fails image scale rig cause := by
  cases milestone with
  -- The steps that do nothing but ask the core fail where the core does.
  | occupied | halted | created | wide =>
    obtain ⟨answer, machine, answered, value, -⟩ := Act.of_run_map_ask run
    rw [value] at broken
    cases answer with
    | ok => cases broken
    | error =>
      cases broken
      exact .call rfl answered
  -- Of the image itself only the length can be refused, too short or too long.
  | vacant =>
    obtain rfl := Except.ok.inj run
    dsimp only at broken
    split at broken
    · next nothing =>
      cases broken
      exact .empty (Array.isEmpty_iff_size_eq_zero.1 nothing)
    · cases broken
  | admitted =>
    obtain rfl := Except.ok.inj run
    dsimp only at broken
    split at broken
    · cases broken
    · next beyond =>
      cases broken
      exact .long (Nat.not_lt.1 beyond)
  -- The answers to these two can be a refusal although the call has not failed.
  | measured len =>
    obtain ⟨_ | addr, machine, answered, value, -⟩ := Act.of_run_map_ask run
    all_goals
      rw [value] at broken
      simp only [Except.bind] at broken
    · cases broken
      exact .call rfl answered
    · split at broken
      · cases broken
      · next none_found =>
        cases broken
        obtain rfl : addr = 0 := Region.ofAddress?_eq_none_iff.1 none_found
        exact .null answered
  | filled rom =>
    obtain ⟨_ | _ | handle, machine, answered, value, -⟩ := Act.of_run_map_ask run
    all_goals
      rw [value] at broken
      cases broken
    · exact .call rfl answered
    · exact .rejected answered
  | given rom =>
    obtain ⟨⟨answer, _, _⟩, writes, rfl⟩ := Act.run_map_eq_ok_iff.1 run
    cases written : Memory.write rig.machine.memory rom.addr image with
    | ok memory =>
      obtain ⟨rfl, -, -⟩ := (Act.gives_writeMemory written).outcome_eq writes
      cases broken
    | error reason =>
      obtain ⟨rfl, -, -⟩ := (Act.gives_writeMemory_refused written).outcome_eq writes
      cases broken
      -- Whatever check has refused the range, the error names the range.
      rw [Memory.of_write_error written]
      exact .outside (Memory.beyond_of_write_error written)
  | sized rom handle screen =>
    obtain ⟨⟨memory, _, _⟩, reads, rfl⟩ := Act.run_map_eq_ok_iff.1 run
    obtain ⟨rfl, -, -⟩ := (Act.gives_memory rig).outcome_eq reads
    cases hchecked : screen.checked scale rig.machine.memory with
    | ok size =>
      rw [hchecked] at broken
      cases broken
    | error reason =>
      rw [hchecked] at broken
      cases broken
      -- The check can refuse for more than one reason, but its error is always the same.
      obtain ⟨rfl, unfit⟩ := Screen.not_showable_of_checked hchecked
      exact .unshowable unfit
  | fitting rom handle screen size =>
    obtain ⟨⟨answer, _, _⟩, presents, rfl⟩ := Act.run_map_eq_ok_iff.1 run
    obtain ⟨verdict, display, performed, rfl, -, -⟩ := Act.run_present_eq_ok_iff.1 presents
    cases verdict with
    | ok => cases broken
    | error reason =>
      cases broken
      exact .unsized performed
  | finished =>
    obtain rfl := Except.ok.inj run
    cases broken

/-- A step fails where the list has a reason.  Only a host whose memory were as long as the largest
size could show a screen that the list calls unfit. -/
theorem Fails.gives (fails : milestone.Fails image scale rig cause)
    (host : rig.machine.memory.size ≤ Checked.maxBufferBytes) :
    ∃ after calls, (milestone.advance image scale).Gives rig (.error cause) after calls := by
  cases fails with
  | call asks answered =>
    cases milestone with
    -- The steps that ask the core have nothing to add to its error.
    | occupied | halted | created | wide | measured | filled =>
      cases asks
      exact ⟨_, _, (Act.gives_ask answered).bind (Act.gives_pure _ _)⟩
    | vacant | admitted | given | sized | fitting | finished => cases asks
  | empty nothing =>
    refine ⟨rig, [], Act.gives_pure_iff.2 ⟨?_, rfl, rfl⟩⟩
    rw [if_pos (Array.isEmpty_iff_size_eq_zero.2 nothing)]
  | long beyond =>
    refine ⟨rig, [], Act.gives_pure_iff.2 ⟨?_, rfl, rfl⟩⟩
    exact (if_neg (Nat.not_lt.2 beyond)).symm
  | null answered | rejected answered =>
    exact ⟨_, _, (Act.gives_ask answered).bind (Act.gives_pure _ _)⟩
  | outside beyond =>
    -- The memory of a host is short enough for every place in it to be a size.
    rw [Nat.min_eq_left (Nat.le_trans host (by decide))] at beyond
    exact ⟨_, _, (Act.gives_writeMemory_refused (Memory.write_outside beyond)).bind
      (Act.gives_pure _ _)⟩
  | unshowable unfit =>
    refine ⟨_, _, (Act.gives_memory rig).bind (Act.gives_pure_iff.2 ⟨?_, rfl, rfl⟩)⟩
    -- This is the one place where the check could be mistaken about a memory without bound.
    rw [Screen.checked_of_not_showable unfit host]
    rfl
  | unsized performed =>
    exact ⟨_, _, (Act.gives_present performed).bind (Act.gives_pure _ _)⟩

/-- A step of a load fails with an error exactly if the list has a reason for it. -/
theorem advance_fails_iff (host : rig.machine.memory.size ≤ Checked.maxBufferBytes) :
    (∃ outcome, (milestone.advance image scale).run rig = .ok outcome ∧
      outcome.value = .error cause) ↔ milestone.Fails image scale rig cause := by
  constructor
  · rintro ⟨outcome, run, broken⟩
    exact fails_of_advance run broken
  · intro fails
    obtain ⟨after, calls, journal, run, -⟩ := fails.gives host
    exact ⟨_, run, rfl⟩

end Failures

end Milestone

/-! ## §3 Rows of steps

Rows of steps compose, and a row comes through every stage between its ends.  That is how later
proofs find the state in which a certain step was made. -/

section Rows

variable {σ τ : Type} [NativeCore σ] [Surface τ]

/-- Steps of a load that succeed one after another, with their exchanges. -/
inductive Progress (image : Bytes) (scale : UInt32) :
    Milestone → Rig σ τ → List Entry → Milestone → Rig σ τ → Prop
  | refl (milestone : Milestone) (rig : Rig σ τ) :
      Progress image scale milestone rig [] milestone rig
  | step {milestone next last : Milestone} {rig final : Rig σ τ} {calls : List Entry}
      {outcome : Outcome σ τ (Except Error Milestone)}
      (run : (milestone.advance image scale).run rig = .ok outcome)
      (succeeds : outcome.value = .ok next)
      (rest : Progress image scale next outcome.rig calls last final) :
      Progress image scale milestone rig (outcome.journal.exchanges ++ calls) last final

/-- Steps of a load up to the first that fails, and then calls that belong to what has been
acquired by then. -/
def BrokenOff (image : Bytes) (scale : UInt32) (milestone : Milestone) (rig : Rig σ τ)
    (cause : Error) (belongs : Holdings → List Entry → Prop) (calls : List Entry) : Prop :=
  ∃ (last : Milestone) (reached : Rig σ τ) (failed : Outcome σ τ (Except Error Milestone))
    (made after : List Entry),
    Progress image scale milestone rig made last reached ∧
    (last.advance image scale).run reached = .ok failed ∧ failed.value = .error cause ∧
    belongs last.holdings after ∧ calls = made ++ failed.journal.exchanges ++ after

variable {image : Bytes} {scale : UInt32} {milestone middle last : Milestone}
  {rig reached final : Rig σ τ} {made more : List Entry} {cause : Error}
  {belongs : Holdings → List Entry → Prop}

theorem Progress.trans (first : Progress image scale milestone rig made middle reached)
    (second : Progress image scale middle reached more last final) :
    Progress image scale milestone rig (made ++ more) last final := by
  induction first with
  | refl => exact second
  | step run succeeds rest ih =>
    rw [List.append_assoc]
    exact .step run succeeds (ih second)

/-- A load starts with an unload, if at all. -/
theorem Milestone.stage_start_le (lifecycle : Lifecycle) : (start lifecycle).stage ≤ 2 := by
  cases lifecycle <;> simp [start, stage]

theorem Milestone.stage_le (milestone : Milestone) : milestone.stage ≤ 11 := by
  cases milestone <;> simp [stage]

theorem Progress.stage_le (progress : Progress image scale milestone rig made last final) :
    milestone.stage ≤ last.stage := by
  induction progress with
  | refl => exact Nat.le_refl _
  | @step milestone _ _ _ _ _ _ run succeeds _ ih =>
    rw [Milestone.stage_of_advance run succeeds] at ih
    have := milestone.stage_le
    omega

/-- A step that succeeds goes before the others. -/
theorem Progress.of_gives {next : Milestone}
    (gives : (milestone.advance image scale).Gives rig (.ok next) reached made)
    (rest : Progress image scale next reached more last final) :
    Progress image scale milestone rig (made ++ more) last final := by
  obtain ⟨journal, run, rfl⟩ := gives
  exact .step run rfl rest

/-- A step that needs no act goes before the others. -/
theorem Progress.of_pure {next : Milestone}
    (step : (milestone.advance image scale : Act σ τ _) = pure (.ok next))
    (rest : Progress image scale next rig made last final) :
    Progress image scale milestone rig made last final :=
  .of_gives (step ▸ Act.gives_pure _ rig) rest

/-- No step leads back, so a row of steps that ends where it begins is empty. -/
theorem Progress.of_same_stage (progress : Progress image scale milestone rig made last final)
    (same : milestone.stage = last.stage) (unfinished : last.stage < 11) :
    milestone = last ∧ rig = final ∧ made = [] := by
  cases progress with
  | refl => exact ⟨rfl, rfl, rfl⟩
  | step run succeeds rest =>
    have later := rest.stage_le
    rw [Milestone.stage_of_advance run succeeds] at later
    omega

/-- A row of steps comes to every stage between its ends. -/
theorem Progress.through (progress : Progress image scale milestone rig made last final)
    {stage : Nat} (first : milestone.stage ≤ stage) (later : stage ≤ last.stage) :
    ∃ middle reached before after, Progress image scale milestone rig before middle reached ∧
      Progress image scale middle reached after last final ∧ middle.stage = stage ∧
      made = before ++ after := by
  induction progress with
  | refl milestone rig => exact ⟨milestone, rig, [], [], .refl _ _, .refl _ _, by omega, rfl⟩
  | @step milestone next _ rig _ _ _ run succeeds rest ih =>
    -- The row is cut before its first step or later, within the rest of it.
    rcases Nat.eq_or_lt_of_le first with here | ahead
    · exact ⟨milestone, rig, [], _, .refl _ _, .step run succeeds rest, here, rfl⟩
    · have next_stage := Milestone.stage_of_advance run succeeds
      obtain ⟨middle, reached, before, after, leads, goes_on, hstage, rfl⟩ := ih (by omega) later
      refine ⟨middle, reached, _, after, .step run succeeds leads, goes_on, hstage, ?_⟩
      rw [List.append_assoc]

/-- No step is left after the last one. -/
theorem Progress.last_of_finished {current : LoadedRom}
    (progress : Progress image scale (.finished current) rig made last final) :
    last = .finished current ∧ final = rig := by
  generalize hstart : Milestone.finished current = start at progress
  induction progress with
  | refl => exact ⟨rfl, rfl⟩
  | step run succeeds _ ih =>
    subst hstart
    obtain rfl := Except.ok.inj run
    cases succeeds
    exact ih rfl

theorem BrokenOff.prepend (first : Progress image scale milestone rig made middle reached)
    (second : BrokenOff image scale middle reached cause belongs more) :
    BrokenOff image scale milestone rig cause belongs (made ++ more) := by
  obtain ⟨last, broken, failed, others, after, progress, run, fails, fits, rfl⟩ := second
  refine ⟨last, broken, failed, made ++ others, after, first.trans progress, run, fails, fits, ?_⟩
  simp only [List.append_assoc]

end Rows

end Handheld
