import Handheld.Proofs.Bench.Trials
import Handheld.Proofs.Session.Loading
import Handheld.Rehearsal.Platform

/-!
# Which Errors Are Load Failures

A load can fail at nine of its eleven steps.  `Milestone.Refuses` says with which error each step
fails on the bench core: it is `Milestone.Fails`, the list for every core, with what this core
refuses on its own.  Five of the nine judge the rom or its screen, and the errors of these are
the load failures.  A block outside of memory, an old rom that cannot be taken away and a size that
the surface refuses end a load as well, but their errors are no load failures
(`Lifecycle.refusals_classified`).

No other operation fails with a load failure.
-/

namespace Handheld

/-! ## §1 Errors of the bench core

The bench core fails a free or a destroy with a text of its own, and a request for a block or an
instance not at all. -/

namespace Bench

variable {machine next : Machine Bench} {request : Request}

theorem native_of_free {bench : Bench} {addr : UInt32} {cause : Error}
    (h : (bench.free addr).1 = .error cause) : ∃ reason, cause = .native reason := by
  unfold free at h
  split at h
  · cases h
  · exact ⟨_, (Except.error.inj h).symm⟩

theorem native_of_destroy {bench : Bench} {handle : Handle} {cause : Error}
    (h : (bench.destroy handle).1 = .error cause) : ∃ reason, cause = .native reason := by
  unfold destroy at h
  split at h
  · exact ⟨_, (Except.error.inj h).symm⟩
  · split at h
    · cases h
    · exact ⟨_, (Except.error.inj h).symm⟩

/-- What the bench core refuses, it refuses for reasons of its own. -/
theorem native_of_answer {cause : Error}
    (h : NativeCore.answer request machine = .ok (.error cause, next)) :
    ∃ reason, cause = .native reason := by
  cases request with
  -- The answers to these two are never errors.
  | malloc len =>
    obtain ⟨reply, -, made⟩ := Checked.bind_eq_ok_iff.1 h
    cases made
  | create rom len =>
    obtain ⟨reply, -, made⟩ := Checked.bind_eq_ok_iff.1 h
    cases made
  | free addr => exact native_of_free (congrArg Prod.fst (Except.ok.inj h))
  | destroy handle => exact native_of_destroy (congrArg Prod.fst (Except.ok.inj h))
  | step handle | screenPointer handle | screenWidth handle | screenHeight handle
  | setButtonState handle =>
    -- An instance that is not there cannot be asked for anything.
    rcases of_forInstance h with ⟨value, -, answer⟩ | ⟨answer, -⟩
    · cases answer
    · exact ⟨_, Except.error.inj answer⟩

/-- The bench core has an answer to every request for a block or an instance. -/
theorem answer_of_acquisition {answer : Except Error request.Answer}
    (acquires : request.function = .malloc ∨ request.function = .create)
    (h : NativeCore.answer request machine = .ok (answer, next)) : ∃ value, answer = .ok value := by
  cases request with
  | malloc | create =>
    obtain ⟨reply, -, made⟩ := Checked.bind_eq_ok_iff.1 h
    exact ⟨_, (congrArg Prod.fst (Except.ok.inj made)).symm⟩
  | _ => simp [Request.function] at acquires

end Bench

/-! ## §2 The steps of a load

The table of errors is `Refuses`.  What a load does not reach cannot fail it, so an instance that is
asked for its screen is there (`Serviced`); this is kept from one step to the next, and it is why
the questions of a load never fail here. -/

namespace Milestone

/-- With which error a step of a load fails on the bench core, while memory has so many bytes. -/
inductive Refuses (image : Bytes) (size : Nat) : Milestone → Error → Prop
  /-- The old instance cannot be destroyed. -/
  | stuck (old : LoadedRom) (reason : String) : Refuses image size (.occupied old) (.native reason)
  /-- The core does not know the old block. -/
  | unknown (old : LoadedRom) (reason : String) : Refuses image size (.halted old) (.native reason)
  | empty : Refuses image size .vacant .emptyRom
  /-- The length of the image is no word. -/
  | long : Refuses image size .admitted (.outOfMemory image.size)
  /-- The core has no block. -/
  | exhausted (len : UInt32) : Refuses image size (.measured len) (.outOfMemory image.size)
  /-- The block does not lie inside of memory. -/
  | misplaced (rom : Region) :
    Refuses image size (.given rom) (.outOfBounds rom.addr image.size size)
  /-- The core refuses the rom. -/
  | rejected (rom : Region) : Refuses image size (.filled rom) (.createFailed image.size)
  /-- The screen cannot be shown. -/
  | unshowable (rom : Region) (handle : Handle) (screen : Screen) :
      Refuses image size (.sized rom handle screen) (.invalidResolution screen.width screen.height)
  /-- The surface does not take the size. -/
  | unsized (rom : Region) (handle : Handle) (screen : Screen) (wanted : UInt32 × UInt32)
      (reason : HostError) :
      Refuses image size (.fitting rom handle screen wanted) (.surface reason)

/-- The step decides whether the rom can be run and shown. -/
def Judges : Milestone → Prop
  | .vacant | .admitted | .measured _ | .filled _ | .sized _ _ _ => True
  | .occupied _ | .halted _ | .given _ | .created _ _ | .wide _ _ _ | .fitting _ _ _ _
  | .finished _ => False

/-- The load failures are the errors of the steps that judge a rom. -/
theorem Refuses.isLoadFailure_iff {image : Bytes} {size : Nat} {milestone : Milestone}
    {cause : Error} (refuses : milestone.Refuses image size cause) :
    cause.isLoadFailure = true ↔ milestone.Judges := by
  cases refuses <;> simp [Error.isLoadFailure, Judges]

/-- An instance that is asked for its screen is there. -/
def Serviced (machine : Machine Bench) : Milestone → Prop
  | .created _ handle | .wide _ handle _ => handle ∈ machine.state.instances
  | _ => True

theorem serviced_of_stage {milestone : Milestone} {machine : Machine Bench}
    (other : milestone.stage ≠ 7 ∧ milestone.stage ≠ 8) : milestone.Serviced machine := by
  cases milestone with
  | created | wide => simp [stage] at other
  | _ => trivial

theorem serviced_start (lifecycle : Lifecycle) (machine : Machine Bench) :
    (start lifecycle).Serviced machine := by
  have early := stage_start_le lifecycle
  exact serviced_of_stage (by omega)

/-- What the bench core refuses to a load is a teardown, and then it has a reason of its own: a
request for a block or an instance has an answer, and an instance in service can be asked for its
screen. -/
theorem refuses_of_call {image : Bytes} {milestone : Milestone} {request : Request} {cause : Error}
    {machine next : Machine Bench} (serviced : milestone.Serviced machine)
    (asks : milestone.request? = some request)
    (answered : NativeCore.answer request machine = .ok (.error cause, next)) :
    milestone.Refuses image machine.memory.size cause := by
  cases milestone with
  -- The two steps of a teardown can be refused, and the error has a reason of the core's own.
  | occupied old =>
    cases asks
    obtain ⟨reason, rfl⟩ := Bench.native_of_answer answered
    exact .stuck old reason
  | halted old =>
    cases asks
    obtain ⟨reason, rfl⟩ := Bench.native_of_answer answered
    exact .unknown old reason
  -- A block or an instance can be denied, but this is an answer and no error.
  | measured =>
    cases asks
    obtain ⟨addr, given⟩ := Bench.answer_of_acquisition (.inl rfl) answered
    cases given
  | filled =>
    cases asks
    obtain ⟨created, given⟩ := Bench.answer_of_acquisition (.inr rfl) answered
    cases given
  -- The instance is in service, so the question is answered.
  | created | wide =>
    cases asks
    obtain ⟨⟨axis, given⟩, -⟩ := Bench.of_use serviced rfl (by simp [Request.function]) answered
    cases given
  | vacant | admitted | given | sized | fitting | finished => cases asks

variable {τ : Type} [Surface τ] {image : Bytes} {scale : UInt32} {milestone next : Milestone}
  {rig : Rig Bench τ} {outcome : Outcome Bench τ (Except Error Milestone)}

theorem Serviced.advance (serviced : milestone.Serviced rig.machine)
    (run : (milestone.advance image scale).run rig = .ok outcome)
    (succeeds : outcome.value = .ok next) : next.Serviced outcome.rig.machine := by
  cases milestone with
  | filled rom =>
    obtain ⟨made, machine, answered, value, same⟩ := Act.of_run_map_ask run
    rw [value] at succeeds
    rw [same]
    obtain ⟨created, rfl⟩ := Bench.answer_of_acquisition (.inr rfl) answered
    cases created with
    | none => cases succeeds
    | some handle =>
      cases succeeds
      obtain ⟨⟨created, after⟩, creates, same⟩ := Checked.bind_eq_ok_iff.1 answered
      cases same
      exact (Bench.of_create creates).2 handle rfl
  | created rom handle =>
    obtain ⟨width, machine, answered, value, same⟩ := Act.of_run_map_ask run
    rw [value] at succeeds
    rw [same]
    obtain ⟨⟨width, rfl⟩, kept⟩ := Bench.of_use serviced rfl (by simp [Request.function]) answered
    cases succeeds
    -- The instance is still there after it has been asked.
    show handle ∈ machine.state.instances
    rw [kept.instances]
    exact serviced
  | occupied | halted | vacant | admitted | measured | given | wide | sized | fitting | finished =>
    apply serviced_of_stage
    rw [stage_of_advance run succeeds]
    simp [stage]

/-- Whatever reason a step has to fail, its error is that of the table. -/
theorem Fails.refuses {cause : Error} (fails : milestone.Fails image scale rig cause)
    (serviced : milestone.Serviced rig.machine) :
    milestone.Refuses image rig.machine.memory.size cause := by
  cases fails with
  -- Only here does it matter that the core is the bench.
  | call asks answered => exact refuses_of_call serviced asks answered
  | empty => exact .empty
  | long => exact .long
  | null => exact .exhausted _
  | outside => exact .misplaced _
  | rejected => exact .rejected _
  | unshowable => exact .unshowable _ _ _
  | unsized => exact .unsized _ _ _ _ _

/-- A row of steps keeps the instance of the load in service. -/
theorem Serviced.progress {last : Milestone} {reached : Rig Bench τ} {made : List Entry}
    (serviced : milestone.Serviced rig.machine)
    (progress : Progress image scale milestone rig made last reached) :
    last.Serviced reached.machine := by
  induction progress with
  | refl => exact serviced
  | step run succeeds _ ih => exact ih (serviced.advance run succeeds)

end Milestone

/-! ## §3 Operations that load nothing

Each part of a tick, of a key and of an unload passes on errors that are no load failures, so the
whole operation does. -/

/-- If there is an error, it is no load failure. -/
def Unclassified {α : Type} (answer : Except Error α) : Prop :=
  ∀ cause, answer = .error cause → cause.isLoadFailure = false

theorem unclassified_ok {α : Type} (value : α) : Unclassified (.ok value : Except Error α) := nofun

/-- An error that is passed on is what it was. -/
theorem Unclassified.pass {α β : Type} {cause : Error}
    (unclassified : Unclassified (.error cause : Except Error α)) :
    Unclassified (.error cause : Except Error β) := by
  rintro _ ⟨⟩
  exact unclassified cause rfl

theorem unclassified_map {α β : Type} {answer : Except Error α} (f : α → β)
    (unclassified : Unclassified answer) : Unclassified (answer.map f) := by
  cases answer with
  | ok value => exact nofun
  | error cause => exact unclassified.pass

section Operations

open Act

variable {τ : Type}

theorem ask_unclassified (request : Request) :
    (ask request : Act Bench τ _).Ensures Unclassified := by
  rintro rig answer after calls gives cause rfl
  obtain ⟨machine, answered, -, -⟩ := gives_ask_iff.1 gives
  obtain ⟨reason, rfl⟩ := Bench.native_of_answer answered
  rfl

theorem UnmappedKeys.forward_unclassified (policy : UnmappedKeys) (handle : Option Handle)
    (event : KeyEvent) (state : ButtonState) :
    (policy.forward handle event state : Act Bench τ _).Ensures Unclassified := by
  unfold forward
  split
  · split
    · exact bind_ensures fun _ => ask_unclassified _
    · exact ensures_pure (unclassified_ok ())
  · exact ensures_pure (unclassified_ok ())

theorem Lifecycle.unload_unclassified (lifecycle : Lifecycle) :
    (lifecycle.unload : Act Bench τ _).Ensures fun given => Unclassified given.1 := by
  cases lifecycle with
  | empty => exact ensures_pure (unclassified_ok ())
  | loaded current =>
    have tears : (tearDown current.handle current.rom : Act Bench τ _).Ensures Unclassified := by
      refine (ask_unclassified (.destroy current.handle)).bind fun answer unclassified => ?_
      cases answer with
      | ok => exact bind_ensures fun _ => ask_unclassified _
      | error cause =>
        exact bind_ensures fun _ => ensures_pure unclassified.pass
    exact bind_ensures fun _ => tears.bind fun _ unclassified => ensures_pure unclassified

namespace Pipeline

theorem step_unclassified (pipeline : Pipeline) (handle : Handle) :
    (pipeline.step handle : Act Bench τ _).Ensures fun given => Unclassified given.1 := by
  unfold step
  refine bind_ensures fun start => (ask_unclassified _).bind fun answer unclassified => ?_
  cases answer with
  | ok status =>
    refine bind_ensures fun stop => bind_ensures fun stopped => bind_ensures fun counted => ?_
    exact ensures_pure (unclassified_ok ())
  | error cause =>
    exact ensures_pure unclassified.pass

variable [Surface τ]

theorem fetch_unclassified (pipeline : Pipeline) (screen : Screen) (addr : UInt32) :
    (pipeline.fetch screen addr : Act Bench τ _).Ensures fun given => Unclassified given.1 := by
  have views : (Region.viewMemory addr screen.frameBytes : Act Bench τ _).Ensures Unclassified := by
    rintro rig answer after calls gives cause rfl
    obtain ⟨memory, -, refused⟩ := gives_map_iff.1 gives
    rw [Memory.of_view_error refused.symm]
    rfl
  unfold fetch
  refine bind_ensures fun wanted => bind_ensures fun prepared => ?_
  -- A view is refused for its range, which makes no load failure.
  refine views.bind fun view unclassified => ?_
  cases view with
  | error cause => exact ensures_pure unclassified.pass
  | ok bytes =>
    dsimp only
    split
    · exact ensures_pure (unclassified_ok ())
    · refine ensures_pure ?_
      rintro _ ⟨⟩
      rfl

theorem publish_unclassified [Clockwork] (pipeline : Pipeline) :
    (pipeline.publish : Act Bench τ _).Ensures fun given => Unclassified given.1 := by
  have draws (scale : UInt32) (handoff : Handoff) :
      (drawPending scale handoff : Act Bench τ _).Ensures fun given => Unclassified given.1 := by
    -- The recursion is that of the drawing: each draw is refused, or the next one follows.
    induction handoff using drawPending.induct with
    | case1 handoff rest found =>
      rw [drawPending_of_none found]
      exact bind_ensures fun _ => ensures_pure (unclassified_ok ())
    | case2 handoff clock frame rest found ih =>
      rw [drawPending_of_some found]
      refine bind_ensures fun _ => ?_
      have presents : (present (.draw frame scale) : Act Bench τ _).Ensures Unclassified := by
        rintro rig answer after calls gives cause rfl
        obtain ⟨verdict, display, -, refused, -, -⟩ := gives_present_iff.1 gives
        cases verdict with
        | ok => cases refused
        | error reason =>
          cases refused
          rfl
      refine presents.bind fun answer unclassified => ?_
      cases answer with
      | ok => exact ih
      | error cause => exact ensures_pure unclassified.pass
  exact bind_ensures fun committed => (draws _ _).bind fun _ unclassified =>
    ensures_pure unclassified

theorem tick_unclassified [Clockwork] (pipeline : Pipeline) (lifecycle : Lifecycle) :
    (pipeline.tick lifecycle : Act Bench τ _).Ensures fun given => Unclassified given.1 := by
  unfold tick
  cases lifecycle with
  | empty => exact ensures_pure (unclassified_ok false)
  | loaded rom =>
    have loaded : (pipeline.tickLoaded rom : Act Bench τ _).Ensures fun given =>
        Unclassified given.1 := by
      unfold tickLoaded
      refine (step_unclassified pipeline rom.handle).bind fun stepped unclassified => ?_
      -- Each part of a tick passes its error on as it is.
      obtain ⟨_ | _, stepped⟩ := stepped
      · exact ensures_pure unclassified.pass
      · refine (ask_unclassified _).bind fun answer unclassified => ?_
        cases answer with
        | error cause => exact ensures_pure unclassified.pass
        | ok addr =>
          refine (fetch_unclassified stepped rom.screen addr).bind fun fetched unclassified => ?_
          obtain ⟨_ | _, fetched⟩ := fetched
          · exact ensures_pure unclassified.pass
          · exact publish_unclassified fetched
    exact loaded.bind fun _ unclassified => ensures_pure (unclassified_map _ unclassified)

end Pipeline

/-- No tick, no key and no unload fails with a load failure. -/
theorem Emulator.unclassified [Clockwork] [Surface τ] (emulator : Emulator) :
    ((emulator.tick : Act Bench τ _).Ensures fun given => Unclassified given.1) ∧
      (∀ event, (emulator.sendKey event : Act Bench τ _).Ensures Unclassified) ∧
      (emulator.unload : Act Bench τ _).Ensures fun given => Unclassified given.1 := by
  refine ⟨?_, fun event => ?_, ?_⟩
  · exact (emulator.pipeline.tick_unclassified emulator.lifecycle).bind fun _ unclassified =>
      ensures_pure unclassified
  · unfold sendKey
    split
    · exact emulator.unmappedKeys.forward_unclassified _ event .pressed
    · exact emulator.unmappedKeys.forward_unclassified _ event .released
  · exact emulator.lifecycle.unload_unclassified.bind fun _ unclassified =>
      ensures_pure unclassified

end Operations

/-! ## §4 The classification -/

namespace Lifecycle

variable {τ : Type} [Surface τ]

/-- A load of the bench core that fails, fails at one of its steps with the error of the table. -/
theorem refuses_of_load {lifecycle : Lifecycle} {image : Bytes} {scale : UInt32}
    {rig : Rig Bench τ} {outcome : Outcome Bench τ (Except Error Screen × Lifecycle)}
    {cause : Error} {rest : Lifecycle}
    (completes : (lifecycle.load image scale).run rig = .ok outcome)
    (fails : outcome.value = (.error cause, rest)) :
    rest = .empty ∧ ∃ last reached made,
      Progress image scale (.start lifecycle) rig made last reached ∧
        last.Refuses image reached.machine.memory.size cause := by
  obtain ⟨empty, -⟩ := brokenOff_of_load completes fails
  obtain ⟨last, reached, made, progress, reason⟩ := reason_of_load completes fails
  have serviced := (Milestone.serviced_start lifecycle rig.machine).progress progress
  exact ⟨empty, last, reached, made, progress, reason.refuses serviced⟩

/-- What becomes of an error on the bench core, whatever it has been told to do and whatever the
surface answers.  A load that fails leaves nothing behind, and its error is that of the step which
failed; it is a load failure exactly if that step judges the rom or its screen.  No tick, no key and
no unload fails with a load failure. -/
theorem refusals_classified [Clockwork] :
    (∀ (lifecycle : Lifecycle) (image : Bytes) (scale : UInt32) (rig : Rig Bench τ)
        (outcome : Outcome Bench τ (Except Error Screen × Lifecycle)) (cause : Error)
        (rest : Lifecycle),
      (lifecycle.load image scale).run rig = .ok outcome → outcome.value = (.error cause, rest) →
        rest = .empty ∧ ∃ last reached made,
          Progress image scale (.start lifecycle) rig made last reached ∧
          last.Refuses image reached.machine.memory.size cause ∧
          (cause.isLoadFailure = true ↔ last.Judges)) ∧
      ∀ emulator : Emulator,
        ((emulator.tick : Act Bench τ _).Ensures fun given => Unclassified given.1) ∧
          (∀ event, (emulator.sendKey event : Act Bench τ _).Ensures Unclassified) ∧
          (emulator.unload : Act Bench τ _).Ensures fun given => Unclassified given.1 := by
  refine ⟨fun lifecycle image scale rig outcome cause rest completes fails => ?_,
    Emulator.unclassified⟩
  obtain ⟨empty, last, reached, made, progress, refuses⟩ := refuses_of_load completes fails
  exact ⟨empty, last, reached, made, progress, refuses, refuses.isLoadFailure_iff⟩

/-- A rig whose surface does not take a picture of one point enlarged. -/
def crampedRig : Rig Bench Canvas where
  machine := Bench.machine { heapSize := 64, screen := ⟨1, 1⟩ }
  display := Renderer.smallCanvas

theorem refusals_classified_of_empty_rom :
    ∃ outcome rest, (Lifecycle.empty.load #[] 2).run crampedRig = .ok outcome ∧
      outcome.value = (.error .emptyRom, rest) ∧ rest = .empty ∧
      ∃ last reached made, Progress #[] 2 (.start .empty) crampedRig made last reached ∧
        last.Refuses #[] reached.machine.memory.size .emptyRom ∧
        (Error.emptyRom.isLoadFailure = true ↔ last.Judges) := by
  obtain ⟨outcome, run, fails⟩ : ∃ outcome,
      (Lifecycle.empty.load #[] 2).run crampedRig = .ok outcome ∧
        outcome.value = (.error .emptyRom, .empty) := Checked.exists_of_any (by decide +kernel)
  exact ⟨outcome, .empty, run, fails,
    refusals_classified.1 .empty #[] 2 crampedRig outcome .emptyRom .empty run fails⟩

/-- The surface refuses the size, the controller is left empty, and the error of this load is no
load failure. -/
theorem refused_size_is_no_load_failure :
    ∃ outcome, (Lifecycle.empty.load #[7] 2).run crampedRig = .ok outcome ∧
      outcome.value = (.error (.surface (.sizeNotSupported 2 2)), .empty) ∧
      (Error.surface (.sizeNotSupported 2 2)).isLoadFailure = false := by
  obtain ⟨outcome, run, fails⟩ : ∃ outcome,
      (Lifecycle.empty.load #[7] 2).run crampedRig = .ok outcome ∧
        outcome.value = (.error (.surface (.sizeNotSupported 2 2)), .empty) :=
    Checked.exists_of_any (by decide +kernel)
  exact ⟨outcome, run, fails, rfl⟩

end Lifecycle

end Handheld
