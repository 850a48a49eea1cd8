import Handheld.Proofs.Session.Capture
import Handheld.Proofs.Session.Validation
import Handheld.Rehearsal.Platform

/-!
# How a Tick Ends

A tick asks the core for a step and for the place of its picture, and then it draws.  What becomes
of it is decided by the answers alone: `Pipeline.Ends` lists the ways in which a tick can come to an
end, and `Pipeline.Breaks` the faults that can keep it from that.  `Pipeline.Reachable.tick_ends`
says that for a rom that a load has taken into service these are all: a tick fails before its draw
only with the error of the call that failed or because the picture does not lie inside of memory,
and then it is as if no frame had been begun.
-/

namespace Handheld

/-- The rom has been taken into service by a load, with a memory that a host can have. -/
inductive LoadedRom.Accepted (rom : LoadedRom) : Prop
  | of_load {σ τ : Type} [NativeCore σ] [Surface τ] {lifecycle : Lifecycle} {image : Bytes}
      {scale : UInt32} {rig : Rig σ τ} {outcome : Outcome σ τ (Except Error Screen × Lifecycle)}
      (completes : (lifecycle.load image scale).run rig = .ok outcome)
      (loaded : outcome.value.2 = .loaded rom)
      (host : outcome.rig.machine.memory.size ≤ Checked.maxBufferBytes)

/-- A picture of an accepted rom is a buffer that a host can have. -/
theorem LoadedRom.Accepted.room {rom : LoadedRom} (accepted : rom.Accepted) :
    4 * pixelCount rom.screen.width rom.screen.height ≤ Checked.maxBufferBytes := by
  obtain ⟨completes, loaded, host⟩ := accepted
  rcases Lifecycle.load_value completes with ⟨cause, value⟩ | ⟨current, value⟩
  · rw [value] at loaded
    cases loaded
  · rw [value] at loaded
    obtain rfl := Lifecycle.loaded.inj loaded
    obtain ⟨found, made, reached, same, -, -, machine, size, checked⟩ :=
      Lifecycle.screen_of_load completes value
    rw [machine] at host
    exact Nat.le_trans (Screen.showable_of_checked host checked).room host

namespace Pipeline

open Act

variable {σ τ : Type} [NativeCore σ] {pipeline : Pipeline} {rig : Rig σ τ} {status : Int32}
  {addr : UInt32} {cause : Error} {fault : Fault} {machine stepped : Machine σ}

/-! ## §1 The ways in which a tick can end

The endings are said in terms of answers, with no pipeline in them but its scale and its mode. -/

/-- The core makes the step and says that its picture is at an address. -/
def Points (pipeline : Pipeline) (rom : LoadedRom) (rig : Rig σ τ) (status : Int32)
    (addr : UInt32) (machine : Machine σ) : Prop :=
  ∃ stepped, NativeCore.answer (.step rom.handle pipeline.stepMode) rig.machine =
      .ok (.ok status, stepped) ∧
    NativeCore.answer (.screenPointer rom.handle) stepped = .ok (.ok addr, machine)

section Endings

variable [Surface τ] (pipeline : Pipeline) (rom : LoadedRom) (rig : Rig σ τ)

/-- What the core and the surface answer in a tick, and what comes of it: whether a frame is drawn,
the calls, the answer of the tick, and the machine and the display that it leaves. -/
inductive Ends : Bool → List Entry → Except Error Bool → Machine σ → τ → Prop
  /-- The core cannot make the step. -/
  | unstepped {cause : Error} {machine : Machine σ}
      (steps : NativeCore.answer (.step rom.handle pipeline.stepMode) rig.machine =
        .ok (.error cause, machine)) :
      Ends false [.native (.step rom.handle pipeline.stepMode) (.error cause)]
        (.error cause) machine rig.display
  /-- The core cannot say where its picture is. -/
  | unpointed {status : Int32} {cause : Error} {stepped machine : Machine σ}
      (steps : NativeCore.answer (.step rom.handle pipeline.stepMode) rig.machine =
        .ok (.ok status, stepped))
      (points : NativeCore.answer (.screenPointer rom.handle) stepped =
        .ok (.error cause, machine)) :
      Ends false
        [.native (.step rom.handle pipeline.stepMode) (.ok status),
          .native (.screenPointer rom.handle) (.error cause)]
        (.error cause) machine rig.display
  /-- The picture does not lie inside of memory. -/
  | outside {status : Int32} {addr : UInt32} {machine : Machine σ}
      (points : Points pipeline rom rig status addr machine)
      (outside : machine.memory.size <
        addr.toNat + 4 * pixelCount rom.screen.width rom.screen.height) :
      Ends false
        [.native (.step rom.handle pipeline.stepMode) (.ok status),
          .native (.screenPointer rom.handle) (.ok addr)]
        (.error (.outOfBounds addr (4 * pixelCount rom.screen.width rom.screen.height)
          machine.memory.size)) machine rig.display
  /-- The picture is drawn, and the surface has an answer to that. -/
  | drawn {status : Int32} {addr : UInt32} {machine : Machine σ} {picture : Frame}
      {answer : Except HostError Unit} {display : τ}
      (points : Points pipeline rom rig status addr machine)
      (inside : addr.toNat + 4 * pixelCount rom.screen.width rom.screen.height ≤
        machine.memory.size)
      (portrays : Portrays picture rom.screen (Surface.encoding rig.display) machine.memory addr)
      (draws : Surface.draw picture pipeline.scale rig.display = .ok (answer, display)) :
      Ends true
        [.native (.step rom.handle pipeline.stepMode) (.ok status),
          .native (.screenPointer rom.handle) (.ok addr),
          .surface (.draw picture pipeline.scale) answer]
        ((answer.mapError .surface).map fun () => true) machine display

/-- A fault of the core or of the surface in one of the calls of a tick. -/
inductive Breaks : Fault → Prop
  | step {fault : Fault}
      (steps : NativeCore.answer (.step rom.handle pipeline.stepMode) rig.machine =
        .error fault) : Breaks fault
  | pointer {status : Int32} {stepped : Machine σ} {fault : Fault}
      (steps : NativeCore.answer (.step rom.handle pipeline.stepMode) rig.machine =
        .ok (.ok status, stepped))
      (points : NativeCore.answer (.screenPointer rom.handle) stepped = .error fault) :
      Breaks fault
  | draw {status : Int32} {addr : UInt32} {machine : Machine σ} {picture : Frame} {fault : Fault}
      (points : Points pipeline rom rig status addr machine)
      (inside : addr.toNat + 4 * pixelCount rom.screen.width rom.screen.height ≤
        machine.memory.size)
      (portrays : Portrays picture rom.screen (Surface.encoding rig.display) machine.memory addr)
      (draws : Surface.draw picture pipeline.scale rig.display = .error fault) : Breaks fault

end Endings

/-- One frame more: the clock has moved on by one period, the frame has been counted, and nothing
waits. -/
structure Advanced (before after : Pipeline) : Prop where
  clock : after.clock.femtos = before.clock.femtos + before.period.femtos
  frames : after.statistics.frames.toNat = before.statistics.frames.toNat + 1
  waiting : after.handoff.queue.items = []

/-- A tick that draws advances the pipeline; any other leaves the clock, the frames and what waits
alone. -/
def MovesOn (before after : Pipeline) : Bool → Prop
  | true => Advanced before after
  | false => Kept before after

theorem Ticked.advanced [Clockwork] {ticked : Pipeline} (steady : pipeline.Steady)
    (ticks : Ticked pipeline ticked) : Advanced pipeline ticked := by
  refine ⟨?_, ticks.frames, ticks.steady.waiting⟩
  rw [ticks.steady.clock, ticks.frames, steady.clock, steady.period, Nat.succ_mul]

/-! ## §2 Ticks that draw nothing

A tick that ends before its draw has called the core and nobody else, and it leaves the clock and
what waits as they were. -/

/-- A step that the core cannot make leaves the timer running. -/
theorem step_refused {handle : Handle}
    (steps : NativeCore.answer (.step handle pipeline.stepMode) rig.machine =
      .ok (.error cause, machine)) :
    ∃ started stopwatch,
      (pipeline.step handle).Gives rig (.error cause, started) ⟨machine, rig.display, stopwatch⟩
        [.native (.step handle pipeline.stepMode) (.error cause)] := by
  have asks : (ask (.step handle pipeline.stepMode)).Gives
      { rig with stopwatch := rig.stopwatch.read.2 } (.error cause)
      ⟨machine, rig.display, rig.stopwatch.read.2⟩
      [.native (.step handle pipeline.stepMode) (.error cause)] := gives_ask steps
  exact ⟨_, _, (gives_readStopwatch rig).quietly (asks.then_quietly (gives_pure _ _))⟩

theorem step_faults {handle : Handle}
    (steps : NativeCore.answer (.step handle pipeline.stepMode) rig.machine = .error fault) :
    (pipeline.step handle : Act σ τ _).Faults rig fault := by
  have cut : (ask (.step handle pipeline.stepMode) : Act σ τ _).Faults
      { rig with stopwatch := rig.stopwatch.read.2 } fault := faults_ask steps
  exact (gives_readStopwatch rig).bind_faults cut.bind

variable [Surface τ] {rom : LoadedRom}

theorem produce_unstepped
    (steps : NativeCore.answer (.step rom.handle pipeline.stepMode) rig.machine =
      .ok (.error cause, machine)) :
    ∃ produced stopwatch,
      (pipeline.produce rom).Gives rig (.error cause, produced) ⟨machine, rig.display, stopwatch⟩
        [.native (.step rom.handle pipeline.stepMode) (.error cause)] := by
  obtain ⟨started, stopwatch, steps⟩ := step_refused steps
  exact ⟨started, stopwatch, steps.then_quietly (gives_pure _ _)⟩

theorem produce_unpointed (countable : pipeline.Countable)
    (steps : NativeCore.answer (.step rom.handle pipeline.stepMode) rig.machine =
      .ok (.ok status, stepped))
    (points : NativeCore.answer (.screenPointer rom.handle) stepped =
      .ok (.error cause, machine)) :
    ∃ produced stopwatch,
      (pipeline.produce rom).Gives rig (.error cause, produced) ⟨machine, rig.display, stopwatch⟩
        [.native (.step rom.handle pipeline.stepMode) (.ok status),
          .native (.screenPointer rom.handle) (.error cause)] := by
  obtain ⟨statistics, stopwatch, steps, -⟩ := step_gives countable steps
  have asks : (ask (.screenPointer rom.handle)).Gives { rig with machine := stepped, stopwatch }
      (.error cause) ⟨machine, rig.display, stopwatch⟩
      [.native (.screenPointer rom.handle) (.error cause)] := gives_ask points
  exact ⟨_, stopwatch, steps.first (asks.then_quietly (gives_pure _ _))⟩

/-! ## §3 Every tick

Each ending is executed with the lemmas of `Tick` and of §2.  That there is no other follows from
asking for the answers one after another. -/

theorem tick_faults_of_step [Clockwork]
    (steps : NativeCore.answer (.step rom.handle pipeline.stepMode) rig.machine =
      .error fault) : (pipeline.tick (.loaded rom)).Faults rig fault :=
  (step_faults steps).bind.bind

theorem tick_faults_of_pointer [Clockwork] (countable : pipeline.Countable)
    (steps : NativeCore.answer (.step rom.handle pipeline.stepMode) rig.machine =
      .ok (.ok status, stepped))
    (points : NativeCore.answer (.screenPointer rom.handle) stepped = .error fault) :
    (pipeline.tick (.loaded rom)).Faults rig fault := by
  obtain ⟨statistics, stopwatch, steps, -⟩ := step_gives countable steps
  have cut : (ask (.screenPointer rom.handle) : Act σ τ _).Faults
      { rig with machine := stepped, stopwatch } fault := faults_ask points
  have loaded : (pipeline.tickLoaded rom).Faults rig fault := steps.bind_faults cut.bind
  exact loaded.bind

/-- What is viewed for a prepared pipeline always fills its staging frame. -/
theorem fits_of_view [Clockwork] {prepared : Pipeline} {screen : Screen} {wanted : PixelEncoding}
    {memory bytes : Bytes} (prepares : pipeline.prepare screen wanted = .ok prepared)
    (views : Memory.view memory addr screen.frameBytes = .ok bytes) :
    (prepared.staging.copyBytes bytes).1 = true := by
  obtain ⟨staging, resizes, made⟩ := Checked.bind_eq_ok_iff.1 prepares
  obtain rfl := Except.ok.inj made
  have room := Frame.room_of_resize resizes
  obtain ⟨wellFormed, width, height, -⟩ := Frame.of_resize resizes
  have fills : bytes.size = staging.byteCount := by
    rw [(Memory.bytes_of_view views).1, Screen.frameBytes_of_room room, Frame.byteCount, wellFormed,
      width, height, bytesPerPixel, Nat.mul_comm]
  obtain ⟨bitmap, copies, -⟩ := staging.copyBytes_ok fills
  exact congrArg Prod.fst copies

section Ticks

variable [Clockwork] (timely : pipeline.Timely) (steady : pipeline.Steady)
  (countable : pipeline.Countable) (accepted : rom.Accepted)
include timely steady countable accepted

/-- The tick ends as the answers say. -/
theorem Ends.gives {drawn : Bool} {calls : List Entry} {result : Except Error Bool} {display : τ}
    (ends : pipeline.Ends rom rig drawn calls result machine display) :
    ∃ next stopwatch,
      (pipeline.tick (.loaded rom)).Gives rig (result, next) ⟨machine, display, stopwatch⟩ calls ∧
      MovesOn pipeline next drawn := by
  -- Each ending is executed: its calls are answered as it says.
  cases ends with
  | unstepped steps =>
    obtain ⟨next, stopwatch, produces⟩ := produce_unstepped steps
    exact ⟨next, stopwatch, tick_of_unproduced produces, produce_keeps pipeline rom produces⟩
  | unpointed steps points =>
    obtain ⟨next, stopwatch, produces⟩ := produce_unpointed countable steps points
    exact ⟨next, stopwatch, tick_of_unproduced produces, produce_keeps pipeline rom produces⟩
  | outside points outside =>
    obtain ⟨stepped, steps, points⟩ := points
    obtain ⟨next, stopwatch, produces, -⟩ :=
      produce_refused countable steps points accepted.room outside
    exact ⟨next, stopwatch, tick_of_unproduced produces, produce_keeps pipeline rom produces⟩
  | drawn points inside portrays draws =>
    obtain ⟨picture, pictures, ticks⟩ :=
      tick_gives timely steady countable ⟨points, accepted.room, inside⟩
    -- The frame that was drawn is the picture, and there is only one.
    obtain rfl := (pictures.portrays inside).unique portrays
    obtain ⟨next, stopwatch, gives, ticked⟩ := ticks _ _ draws
    exact ⟨next, stopwatch, gives, ticked.advanced steady⟩

/-- A fault in one of the calls ends the tick. -/
theorem Breaks.faults (breaks : pipeline.Breaks rom rig fault) :
    (pipeline.tick (.loaded rom)).Faults rig fault := by
  cases breaks with
  | step steps => exact tick_faults_of_step steps
  | pointer steps points => exact tick_faults_of_pointer countable steps points
  | draw points inside portrays draws =>
    refine tick_faults timely steady countable ⟨points, accepted.room, inside⟩
      fun picture pictures => ?_
    obtain rfl := (pictures.portrays inside).unique portrays
    exact draws

/-- There is no other answer of the core and the surface. -/
theorem ends_or_breaks (rig : Rig σ τ) :
    (∃ drawn calls result machine display,
      pipeline.Ends rom rig drawn calls result machine display) ∨
      ∃ fault, pipeline.Breaks rom rig fault := by
  -- The answers are asked for one after another; each of them ends the tick, breaks it or leads on.
  cases steps : NativeCore.answer (.step rom.handle pipeline.stepMode) rig.machine with
  | error fault => exact .inr ⟨fault, .step steps⟩
  | ok reply =>
    obtain ⟨_ | status, stepped⟩ := reply
    · exact .inl ⟨_, _, _, _, _, .unstepped steps⟩
    · cases points : NativeCore.answer (.screenPointer rom.handle) stepped with
      | error fault => exact .inr ⟨fault, .pointer steps points⟩
      | ok reply =>
        obtain ⟨_ | addr, machine⟩ := reply
        · exact .inl ⟨_, _, _, _, _, .unpointed steps points⟩
        · have pointed : pipeline.Points rom rig status addr machine := ⟨stepped, steps, points⟩
          by_cases outside : machine.memory.size <
              addr.toNat + 4 * pixelCount rom.screen.width rom.screen.height
          · exact .inl ⟨_, _, _, _, _, .outside pointed outside⟩
          -- The picture is inside of memory, so the tick comes to its draw with a frame of its own.
          · have inside := Nat.not_lt.1 outside
            obtain ⟨picture, pictures, -⟩ :=
              tick_gives timely steady countable ⟨pointed, accepted.room, inside⟩
            have portrays := pictures.portrays inside
            cases draws : Surface.draw picture pipeline.scale rig.display with
            | error fault => exact .inr ⟨fault, .draw pointed inside portrays draws⟩
            | ok reply => exact .inl ⟨_, _, _, _, _, .drawn pointed inside portrays draws⟩

end Ticks

/-- On a pipeline with any history whose counters are not at their ends, a tick of a rom that a load
has taken into service comes to one of the endings, unless a fault of the core or the surface cuts
it short.  It makes the calls of this ending, gives its answer, and moves the pipeline on only if it
has come to its draw.  A picture that can be viewed always fits the staging frame.  Without a rom
the tick does nothing at all. -/
theorem Reachable.tick_ends [Clockwork] (timely : pipeline.Timely)
    (reachable : pipeline.Reachable) (countable : pipeline.Countable) (rig : Rig σ τ) :
    (∀ rom : LoadedRom, rom.Accepted →
      (∀ drawn calls result machine display,
        pipeline.Ends rom rig drawn calls result machine display →
        ∃ next stopwatch,
          (pipeline.tick (.loaded rom)).Gives rig (result, next) ⟨machine, display, stopwatch⟩
            calls ∧ MovesOn pipeline next drawn) ∧
      (∀ fault, pipeline.Breaks rom rig fault →
        (pipeline.tick (.loaded rom)).Faults rig fault) ∧
      ((∃ drawn calls result machine display,
          pipeline.Ends rom rig drawn calls result machine display) ∨
        ∃ fault, pipeline.Breaks rom rig fault) ∧
      ∀ (stepped prepared : Pipeline) (wanted : PixelEncoding) (memory bytes : Bytes)
        (addr : UInt32), stepped.prepare rom.screen wanted = .ok prepared →
        Memory.view memory addr rom.screen.frameBytes = .ok bytes →
        (prepared.staging.copyBytes bytes).1 = true) ∧
    (pipeline.tick .empty : Act σ τ _).run rig = .ok ⟨(.ok false, pipeline), rig, []⟩ := by
  -- What is true of every pipeline with a history: its clock tells its frames, and nothing waits.
  have steady := reachable.steady
  refine ⟨fun rom accepted => ⟨?_, ?_, ?_, ?_⟩, rfl⟩
  · intro drawn calls result machine display ends
    exact ends.gives timely steady countable accepted
  · intro fault breaks
    exact breaks.faults timely steady countable accepted
  · exact ends_or_breaks timely steady countable accepted rig
  · intro stepped prepared wanted memory bytes addr prepares views
    exact fits_of_view prepares views

/-- A bench core that says that its picture is two bytes before the end of memory. -/
def pastEndRig : Rig Bench Canvas where
  machine := Bench.machine { heapSize := 64, screen := ⟨2, 1⟩, screenPastEnd := true }
  display := .new .rgba

/-- The first tick after a load, whose picture of eight bytes ends behind the memory of 72. -/
theorem tick_ends_of_picture_past_end :
    ∃ outcome rom, (Lifecycle.empty.load #[7] 1).run pastEndRig = .ok outcome ∧
      outcome.value.2 = .loaded rom ∧ rom.Accepted ∧
      ∃ calls machine display next stopwatch,
        Ends { scale := 1, stepMode := .vsync } rom outcome.rig false calls
          (.error (.outOfBounds 70 8 72)) machine display ∧
        (Pipeline.tick { scale := 1, stepMode := .vsync } (.loaded rom)).Gives outcome.rig
          (.error (.outOfBounds 70 8 72), next) ⟨machine, display, stopwatch⟩ calls ∧
        Kept { scale := 1, stepMode := .vsync } next := by
  obtain ⟨outcome, completes, ⟨succeeds, small⟩, ticks⟩ :
      ∃ outcome, (Lifecycle.empty.load #[7] 1).run pastEndRig = .ok outcome ∧
        (outcome.value.1 = .ok ⟨2, 1⟩ ∧
          outcome.rig.machine.memory.size ≤ Checked.maxBufferBytes) ∧
        ((Pipeline.tick { scale := 1, stepMode := .vsync } outcome.value.2).run
          outcome.rig).toOption.any fun ticked =>
            ticked.value.1 = .error (.outOfBounds 70 8 72) :=
    Checked.exists_of_any (by decide +kernel)
  have value : outcome.value = (.ok ⟨2, 1⟩, outcome.value.2) := Prod.ext succeeds rfl
  -- The rom of the tick is the one that the load has taken into service.
  obtain ⟨rom, -, loaded, -⟩ := Lifecycle.load_success completes value
  rw [loaded] at ticks
  obtain ⟨ticked, run, refused⟩ := Checked.exists_of_any ticks
  have accepted : rom.Accepted := .of_load completes loaded small
  obtain ⟨ends_of_accepted, -⟩ := (Reachable.new 1 .vsync).tick_ends
    (by decide) ((within_new 1 .vsync).countable (by decide)) outcome.rig
  obtain ⟨gives_of_ends, faults_of_breaks, either, -⟩ := ends_of_accepted rom accepted
  rcases either with ⟨drawn, calls, result, machine, display, ends⟩ | ⟨fault, breaks⟩
  -- An ending that gives another answer would contradict the run.
  · obtain ⟨next, stopwatch, gives, moves⟩ := gives_of_ends _ _ _ _ _ ends
    obtain ⟨value, -, -⟩ := gives.outcome_eq run
    obtain rfl : result = .error (.outOfBounds 70 8 72) := by rw [← refused, value]
    cases drawn with
    | false =>
      exact ⟨outcome, rom, completes, loaded, accepted, calls, machine, display, next, stopwatch,
        ends, gives, moves⟩
    | true =>
      -- A draw never answers that something is out of bounds.
      generalize answered : (Except.error (.outOfBounds 70 8 72) : Except Error Bool) = answer
        at ends
      cases ends with
      | @drawn _ _ _ _ given =>
        cases given with
        | error | ok => cases answered
  · obtain ⟨journal, cut⟩ := faults_of_breaks fault breaks
    cases cut.symm.trans run

end Pipeline

end Handheld
