import Handheld.Proofs.Bench.Session
import Handheld.Proofs.Session.Production
import Handheld.Rehearsal.Platform

/-!
# How Long a Session Can Go On

Every tick of a running rom counts a step of the core three times: the core itself counts it, the
timer does, and the pipeline counts a frame if it comes to a draw.  The timer has a counter of 32
bits, the others have 64.  So it is the timer that ends a session: `Emulator.ticks_until_overflow`
says that the ticks go on while their number is a word of 32 bits, and that a fault ends the next.

`Emulator.Enduring` is the invariant: no counter is ahead of the timer.
-/

namespace Handheld

/-! ## §1 How long the memory of the bench core is

An instance reserves memory for one picture behind the heap, and a step draws into it.  Nothing
lengthens memory any further, and so the end of memory, which a core may point to, is known. -/

namespace Bench

variable {bench : Bench} {machine next : Machine Bench} {request : Request}

theorem size_of_reserveScreen {memory reserved : Bytes}
    (h : bench.reserveScreen memory = .ok reserved) :
    reserved.size ≤ max memory.size bench.pictureEnd := by
  obtain ⟨len, hlen, made⟩ := Checked.bind_eq_ok_iff.1 h
  -- Memory grows to the end of the picture, or not at all.
  obtain rfl := Except.ok.inj made
  rw [frameBytes_eq] at hlen
  obtain ⟨-, rfl⟩ := Checked.size_eq_ok_iff.1 hlen
  split
  · rw [Memory.size_grow]
    exact Nat.le_refl _
  · exact Nat.le_max_left ..

theorem size_of_create {rom len : UInt32} {made : Option Handle}
    (h : create machine rom len = .ok (made, next)) :
    next.memory.size ≤ max machine.memory.size machine.state.pictureEnd := by
  simp only [create] at h
  split at h
  · obtain ⟨-, rfl⟩ := Prod.mk.inj (Except.ok.inj h)
    exact Nat.le_max_left ..
  · split at h
    · obtain ⟨-, rfl⟩ := Prod.mk.inj (Except.ok.inj h)
      exact Nat.le_max_left ..
    · obtain ⟨nextHandle, -, h⟩ := Checked.bind_eq_ok_iff.1 h
      obtain ⟨memory, reserves, h⟩ := Checked.bind_eq_ok_iff.1 h
      obtain ⟨-, rfl⟩ := Prod.mk.inj (Except.ok.inj h)
      exact size_of_reserveScreen reserves

/-- Memory grows with the first instance, and no further than the picture needs. -/
theorem size_of_answer {answer : Except Error request.Answer} (upkeep : request.function ≠ .step)
    (h : NativeCore.answer request machine = .ok (answer, next)) :
    next.memory.size ≤ max machine.memory.size machine.state.pictureEnd := by
  -- Of the calls that make no step, only the creation of an instance reserves anything.
  cases request with
  | malloc len =>
    obtain ⟨given, -, h⟩ := Checked.bind_eq_ok_iff.1 h
    obtain ⟨-, rfl⟩ := Prod.mk.inj (Except.ok.inj h)
    exact Nat.le_max_left ..
  | free addr | destroy handle =>
    obtain ⟨-, rfl⟩ := Prod.mk.inj (Except.ok.inj h)
    exact Nat.le_max_left ..
  | create rom len =>
    obtain ⟨⟨made, reached⟩, hcreate, h⟩ := Checked.bind_eq_ok_iff.1 h
    obtain ⟨-, rfl⟩ := Prod.mk.inj (Except.ok.inj h)
    have grown : reached.memory.size ≤ max (log machine (.create rom len)).memory.size
        (log machine (.create rom len)).state.pictureEnd := size_of_create hcreate
    exact grown
  | step => exact absurd rfl upkeep
  | screenPointer handle =>
    obtain ⟨rfl, -⟩ := of_look _ h
    exact Nat.le_max_left ..
  | screenWidth handle | screenHeight handle | setButtonState handle _ _ =>
    obtain ⟨rfl, -⟩ := of_look (.ok _) h
    exact Nat.le_max_left ..

end Bench

/-- Calls that do not run an instance lengthen memory no further than the picture needs. -/
theorem Rig.Moves.memory_le {τ : Type} [Surface τ] {calls : Request → Prop}
    {shows : SurfaceRequest → Prop} {rig after : Rig Bench τ} {made : List Entry}
    (moves : rig.Moves calls shows made after)
    (upkeep : ∀ request, calls request → request.function ≠ .step) :
    after.machine.memory.size ≤
      max rig.machine.memory.size rig.machine.state.pictureEnd := by
  -- The induction is on the way that has been gone. The end of the picture is the same at each
  -- point of it, since it belongs to the set-up.
  induction moves with
  | refl => exact Nat.le_max_left ..
  | call allowed answered _ ih =>
    have same := (Bench.sameSetup_of_answer (upkeep _ allowed) answered).pictureEnd
    have grown := Bench.size_of_answer (upkeep _ allowed) answered
    dsimp only at ih
    omega
  | present _ _ _ ih => exact ih
  | write _ written _ ih =>
    have kept := Memory.size_of_write written
    dsimp only at ih
    rwa [kept] at ih
  | glance _ _ ih => exact ih

/-! ## §2 Ticks that draw nothing

A core may point so close to the end of memory that the picture does not lie inside.  The tick fails
then, but its step has been made and counted: this is what keeps the timer ahead of the frames. -/

namespace Pipeline

open Act

variable {σ τ : Type} {pipeline : Pipeline} {count : Nat} {rig : Rig σ τ}

/-- A pipeline after a tick that has stepped the core and drawn nothing. -/
structure Stalled [Clockwork] (before after : Pipeline) : Prop where
  scale : after.scale = before.scale
  steady : after.Steady
  stepped : Stepped before.statistics after.statistics

/-- A tick whose step is made and whose picture lies outside of memory fails, and the step is
counted. -/
theorem tick_refused [Clockwork] [NativeCore σ] [Surface τ] {current : LoadedRom} {status : Int32}
    {addr : UInt32} {between machine : Machine σ} (steady : pipeline.Steady)
    (within : pipeline.Within count) (small : count + 1 < 2 ^ 32)
    (steps : NativeCore.answer (.step current.handle pipeline.stepMode) rig.machine =
      .ok (.ok status, between))
    (points : NativeCore.answer (.screenPointer current.handle) between = .ok (.ok addr, machine))
    (room : 4 * pixelCount current.screen.width current.screen.height ≤ Checked.maxBufferBytes)
    (outside : machine.memory.size <
      addr.toNat + 4 * pixelCount current.screen.width current.screen.height) :
    ∃ cause ticked stopwatch,
      (pipeline.tick (.loaded current)).Gives rig (.error cause, ticked)
        ⟨machine, rig.display, stopwatch⟩
        [.native (.step current.handle pipeline.stepMode) (.ok status),
          .native (.screenPointer current.handle) (.ok addr)] ∧
      Stalled pipeline ticked := by
  -- The step is counted when it is made, before its picture is looked for.
  obtain ⟨ticked, stopwatch, produces, stepped⟩ :=
    produce_refused (within.countable small) steps points room outside
  have kept := produce_keeps pipeline current produces
  exact ⟨_, ticked, stopwatch, tick_of_unproduced produces, kept.scale, steady.of_kept kept,
    stepped⟩

end Pipeline

/-! ## §3 The tick that overflows -/

namespace Pipeline

open Act

variable {σ τ : Type} [NativeCore σ] {pipeline : Pipeline} {rig : Rig σ τ}

/-- The step that the timer cannot count any more is made, but the tick does not survive it. -/
theorem step_exhausted {handle : Handle} {status : Int32} {machine : Machine σ}
    (exhausted : 2 ^ 32 ≤ pipeline.statistics.stepTime.events.toNat + 1)
    (steps : NativeCore.answer (.step handle pipeline.stepMode) rig.machine =
      .ok (.ok status, machine)) :
    (pipeline.step handle : Act σ τ _).Faults rig .overflow := by
  have asks : (Act.ask (.step handle pipeline.stepMode) : Act σ τ _).Gives
      { rig with stopwatch := rig.stopwatch.read.2 } (.ok status)
      { rig with machine, stopwatch := rig.stopwatch.read.2 } _ := gives_ask steps
  let started := pipeline.startTimer rig.stopwatch.read.1
  have started_exhausted : 2 ^ 32 ≤ started.statistics.stepTime.events.toNat + 1 := exhausted
  have stops : started.stopTimer rig.stopwatch.read.2.read.1 = .error .overflow :=
    stopTimer_exhausted rfl started_exhausted _
  unfold step
  -- The core has answered by the time the timer is stopped.
  refine (gives_readStopwatch rig).bind_faults ?_
  refine asks.bind_faults ?_
  refine (gives_readStopwatch _).bind_faults ?_
  exact (faults_ofFaulty stops _).bind

theorem tick_exhausted [Clockwork] [Surface τ] {current : LoadedRom} {status : Int32}
    {machine : Machine σ} (exhausted : 2 ^ 32 ≤ pipeline.statistics.stepTime.events.toNat + 1)
    (steps : NativeCore.answer (.step current.handle pipeline.stepMode) rig.machine =
      .ok (.ok status, machine)) :
    (pipeline.tick (.loaded current) : Act σ τ _).Faults rig .overflow :=
  (step_exhausted exhausted steps).bind.bind

end Pipeline

/-! ## §4 Ticks of a session

`Enduring` has the same number of steps in the core and in the timer, and bounds the frames, the
faults and the draws by it.  One lemma treats a tick that draws, one a tick that fails, and one the
tick that the timer cannot count any more;  `Enduring.tick` joins the first two. -/

/-- No address on the way of a picture is too large: neither that of a pixel on the enlarged screen
nor, if the core is to point there, the end of memory. -/
structure Bench.Addressable (bench : Bench) (scale : UInt32) : Prop where
  area : bench.screen.width.toNat * scale.toNat *
    (bench.screen.height.toNat * scale.toNat) ≤ 2 ^ 32
  pictureEnd : bench.screenPastEnd = true → bench.pictureEnd < 2 ^ 32

namespace Emulator

/-- The number of steps that the timer has counted. -/
def steps (emulator : Emulator) : Nat := emulator.statistics.stepTime.events.toNat

section Sessions

variable [Clockwork]

/-- A controller between two operations of a session on the bench: the core and the timer count
the same steps, and no other counter is ahead of them. -/
structure Enduring (bench : Bench) (scale : UInt32) (emulator : Emulator)
    (rig : Rig Bench Canvas) : Prop where
  heapSize : rig.machine.state.heapSize = bench.heapSize
  resolution : rig.machine.state.screen = bench.screen
  screenPastEnd : rig.machine.state.screenPastEnd = bench.screenPastEnd
  counted : rig.machine.state.frames.toNat = emulator.steps
  factor : emulator.pipeline.scale = scale
  steady : emulator.pipeline.Steady
  within : emulator.pipeline.Within emulator.steps
  draws : rig.display.draws.toNat ≤ emulator.steps
  wellFormed : rig.display.backing.WellFormed
  memory : rig.machine.memory.size ≤ bench.pictureEnd
  running : ∀ current, emulator.lifecycle = .loaded current →
    Running bench.screen scale current rig ∧ 0 < pixelCount bench.screen.width bench.screen.height

variable {bench : Bench} {scale : UInt32} {emulator : Emulator} {rig after : Rig Bench Canvas}
  {current : LoadedRom}

theorem Enduring.pictureEnd (on : Enduring bench scale emulator rig) :
    rig.machine.state.pictureEnd = bench.pictureEnd := by
  unfold Bench.pictureEnd
  rw [on.heapSize, on.resolution]

/-- A step that has been counted everywhere keeps the invariant, whatever comes of its picture. -/
theorem Enduring.stepped {ticked : Pipeline} (on : Enduring bench scale emulator rig)
    (factor : ticked.scale = emulator.pipeline.scale) (steady : ticked.Steady)
    (within : ticked.Within (emulator.steps + 1))
    (events : ticked.statistics.stepTime.events.toNat = emulator.steps + 1)
    (next : Bench.NextFrame rig.machine after.machine)
    (same : Canvas.SameShape rig.display after.display)
    (wellFormed : after.display.backing.WellFormed)
    (draws : after.display.draws.toNat ≤ rig.display.draws.toNat + 1) :
    Enduring bench scale { emulator with pipeline := ticked } after where
  heapSize := next.heapSize.trans on.heapSize
  resolution := next.screen.trans on.resolution
  screenPastEnd := next.screenPastEnd.trans on.screenPastEnd
  counted := by
    rw [next.frames, on.counted]
    exact events.symm
  factor := factor.trans on.factor
  steady
  within := by
    -- The bound is the number of steps, which has grown by one.
    rw [← events] at within
    exact within
  draws := by
    have := on.draws
    show after.display.draws.toNat ≤ ticked.statistics.stepTime.events.toNat
    omega
  wellFormed
  memory := by
    -- A step lengthens memory to the end of the picture, so that it is not longer after it.
    rw [next.drawn.size, Memory.size_grow, on.pictureEnd]
    exact Nat.max_le.2 ⟨on.memory, Nat.le_refl _⟩
  running other loaded := by
    obtain ⟨⟨live, resolution, enlarged, fits⟩, positive⟩ := on.running other loaded
    exact ⟨⟨next.instances ▸ live, resolution, enlarged, fits.of_sameShape same⟩, positive⟩

/-- The counter of the core is wider than that of the timer. -/
theorem Enduring.countable (on : Enduring bench scale emulator rig) :
    rig.machine.state.frames.toNat + 1 < 2 ^ 64 := by
  have := emulator.statistics.stepTime.events.toNat_lt
  rw [on.counted, steps]
  omega

/-- A tick draws if the picture is where it belongs. -/
theorem Enduring.tick_draws (standard : Clockwork.Standard)
    (on : Enduring bench scale emulator rig) (loaded : emulator.lifecycle = .loaded current)
    (addressable : bench.Addressable scale)
    (inside : bench.screenPastEnd = false) (small : emulator.steps + 1 < 2 ^ 32) :
    ∃ next after exchanges, emulator.tick.Gives rig (.ok true, next) after exchanges ∧
      Enduring bench scale next after ∧ next.lifecycle = emulator.lifecycle ∧
      next.steps = emulator.steps + 1 := by
  -- The counters of the core and of the canvas are not ahead of that of the timer.
  obtain ⟨running, -⟩ := on.running current loaded
  have draws_le := on.draws
  have area := addressable.area
  rw [← on.resolution, ← on.factor] at running area
  obtain ⟨ticked, after, exchanges, gives, draws⟩ :=
    tick_running standard running area (on.screenPastEnd.trans inside) on.countable on.wellFormed
      (by omega) on.steady on.within small
  rw [← loaded] at gives
  refine ⟨_, after, exchanges, tick_of_pipeline gives, ?_, rfl, draws.ticked.events⟩
  exact on.stepped draws.ticked.scale draws.ticked.steady (draws.ticked.within on.within)
    draws.ticked.events draws.next draws.same draws.wellFormed (Nat.le_of_eq draws.draws)

/-- If the core says that the picture is two bytes before the end of memory, a tick fails, but its
step has been counted. -/
theorem Enduring.tick_fails (on : Enduring bench scale emulator rig)
    (loaded : emulator.lifecycle = .loaded current) (addressable : bench.Addressable scale)
    (pastEnd : bench.screenPastEnd = true) (small : emulator.steps + 1 < 2 ^ 32) :
    ∃ cause next after exchanges, emulator.tick.Gives rig (.error cause, next) after exchanges ∧
      Enduring bench scale next after ∧ next.lifecycle = emulator.lifecycle ∧
      next.steps = emulator.steps + 1 := by
  obtain ⟨running, positive⟩ := on.running current loaded
  have screen_area := area_of_enlarged running.enlarged addressable.area
  -- The core draws its picture behind the heap, as it always does.
  obtain ⟨between, steps, next⟩ := Bench.step_answer emulator.pipeline.stepMode running.live
    (on.resolution ▸ screen_area) on.countable
  -- So memory ends where the picture ends, and two bytes before that there is no room for another.
  have length : between.memory.size =
      bench.heapSize.toNat + 4 * pixelCount bench.screen.width bench.screen.height := by
    rw [next.drawn.size, Memory.size_grow, on.pictureEnd, Nat.max_eq_right on.memory]
    rfl
  obtain ⟨addr, addr_eq, points⟩ := Bench.screenPointer_pastEnd (next.instances ▸ running.live)
    (next.screenPastEnd.trans (on.screenPastEnd.trans pastEnd)) (by omega)
    (by rw [length]; exact addressable.pictureEnd pastEnd)
  have room : 4 * pixelCount current.screen.width current.screen.height ≤
      Checked.maxBufferBytes := by
    rw [running.resolution, Checked.maxBufferBytes_eq]
    omega
  have outside : between.memory.size <
      addr.toNat + 4 * pixelCount current.screen.width current.screen.height := by
    rw [running.resolution]
    omega
  obtain ⟨cause, ticked, stopwatch, gives, stalled⟩ :=
    Pipeline.tick_refused on.steady on.within small steps points room outside
  rw [← loaded] at gives
  have within : ticked.Within (emulator.steps + 1) := by
    obtain ⟨frames_le, faults_le, events_le⟩ := on.within
    obtain ⟨frames, faults, events⟩ := stalled.stepped
    rw [← frames] at frames_le
    constructor <;> omega
  refine ⟨cause, _, _, _, tick_of_pipeline gives, ?_, rfl, stalled.stepped.events⟩
  -- Asking for the picture has changed nothing but the log.
  exact on.stepped stalled.scale stalled.steady within stalled.stepped.events
    (next.log _) (.refl _) on.wellFormed (Nat.le_succ _)

/-- While the timer can count it, every tick of a running rom steps the core. -/
theorem Enduring.tick (standard : Clockwork.Standard)
    (on : Enduring bench scale emulator rig) (loaded : emulator.lifecycle = .loaded current)
    (addressable : bench.Addressable scale) (small : emulator.steps + 1 < 2 ^ 32) :
    ∃ answer next after exchanges, emulator.tick.Gives rig (answer, next) after exchanges ∧
      Enduring bench scale next after ∧ next.lifecycle = emulator.lifecycle ∧
      next.steps = emulator.steps + 1 ∧ (bench.screenPastEnd = false → answer = .ok true) := by
  -- The core points to the picture or behind the end of memory, and this does not change in a
  -- session.
  cases pastEnd : bench.screenPastEnd with
  | false =>
    obtain ⟨next, after, exchanges, gives, keeps, lifecycle, steps⟩ :=
      on.tick_draws standard loaded addressable pastEnd small
    exact ⟨_, next, after, exchanges, gives, keeps, lifecycle, steps, fun _ => rfl⟩
  | true =>
    obtain ⟨cause, next, after, exchanges, gives, keeps, lifecycle, steps⟩ :=
      on.tick_fails loaded addressable pastEnd small
    exact ⟨_, next, after, exchanges, gives, keeps, lifecycle, steps, fun inside => nomatch inside⟩

/-- The tick whose step the timer cannot count does not come to an end. -/
theorem Enduring.tick_overflows (on : Enduring bench scale emulator rig)
    (loaded : emulator.lifecycle = .loaded current) (addressable : bench.Addressable scale)
    (exhausted : 2 ^ 32 ≤ emulator.steps + 1) : emulator.tick.Faults rig .overflow := by
  obtain ⟨running, -⟩ := on.running current loaded
  -- The step itself is made, and only counting it fails.
  obtain ⟨between, steps, -⟩ := Bench.step_answer emulator.pipeline.stepMode running.live
    (on.resolution ▸ area_of_enlarged running.enlarged addressable.area) on.countable
  unfold Emulator.tick
  rw [loaded]
  exact (Pipeline.tick_exhausted exhausted steps).bind

/-! ## §5 The other operations -/

/-- An operation that makes no step keeps the invariant. -/
theorem Enduring.moved {next : Emulator} (on : Enduring bench scale emulator rig)
    (stepless : Stepless bench.screen emulator next rig after) :
    Enduring bench scale next after := by
  obtain ⟨⟨made, moves⟩, factor, steady, statistics, running⟩ := stepless
  have setup := moves.sameSetup fun _ upkeep => upkeep
  have tended := moves.tended
  have same_steps : next.steps = emulator.steps := congrArg (·.stepTime.events.toNat) statistics
  obtain ⟨frames_le, faults_le, events_le⟩ := on.within
  refine ⟨setup.heapSize.trans on.heapSize, setup.screen.trans on.resolution,
    setup.screenPastEnd.trans on.screenPastEnd, ?_, factor.trans on.factor, steady, ?_, ?_,
    tended.wellFormed on.wellFormed, ?_, ?_⟩
  · rw [setup.frames, on.counted, same_steps]
  · rw [same_steps]
    constructor <;> rw [statistics] <;> assumption
  · rw [tended.draws, same_steps]
    exact on.draws
  -- Nothing has been reserved but the picture, for which there is room below the bound.
  · have length := moves.memory_le fun _ upkeep => upkeep
    rw [on.pictureEnd, Nat.max_eq_right on.memory] at length
    exact length
  · intro current loaded
    rcases running current loaded with ⟨running, suits⟩ | ⟨before, pressed, buttons⟩
    · exact ⟨on.factor ▸ running, suits.pixelCount_pos⟩
    · obtain ⟨running, positive⟩ := on.running current before
      exact ⟨running.of_button buttons, positive⟩

/-- Every operation that comes to an end keeps the invariant. -/
theorem Enduring.perform (standard : Clockwork.Standard)
    (on : Enduring bench scale emulator rig) (addressable : bench.Addressable scale)
    {operation : Operation}
    {outcome : Outcome Bench Canvas (Except Error operation.Answer × Emulator)}
    (run : (emulator.perform operation).run rig = .ok outcome) :
    Enduring bench scale outcome.value.2 outcome.rig := by
  -- Everything but a tick of a running rom leaves the counters alone.
  by_cases idle : operation = .tick → emulator.lifecycle = .empty
  · exact on.moved (stepless_of_perform on.steady on.resolution idle run).1
  · obtain ⟨rfl, running⟩ := Classical.not_imp.1 idle
    cases hlifecycle : emulator.lifecycle with
    | empty => exact absurd hlifecycle running
    | loaded current =>
      by_cases small : emulator.steps + 1 < 2 ^ 32
      -- The tick has come to an end, so it is the one that the timer can count.
      · obtain ⟨answer, next, after, exchanges, ⟨journal, ticks, -⟩, keeps, -⟩ :=
          on.tick standard hlifecycle addressable small
        obtain rfl := Except.ok.inj (ticks.symm.trans run)
        exact keeps
      · -- The tick would not have come to an end.
        obtain ⟨journal, cut⟩ := on.tick_overflows hlifecycle addressable (Nat.le_of_not_lt small)
        cases cut.symm.trans run

theorem Enduring.performAll (standard : Clockwork.Standard)
    {operations : List Operation} (on : Enduring bench scale emulator rig)
    (addressable : bench.Addressable scale)
    {outcome : Outcome Bench Canvas (List Deed × Emulator)}
    (run : (emulator.performAll operations).run rig = .ok outcome) :
    Enduring bench scale outcome.value.2 outcome.rig := by
  induction operations generalizing emulator rig outcome with
  | nil =>
    obtain rfl := Except.ok.inj run
    exact on
  | cons operation operations ih =>
    obtain ⟨first, rest, hfirst, hrest, rfl⟩ := Act.run_bind_eq_ok_iff.1 run
    obtain ⟨others, hothers, rfl⟩ := Act.run_map_eq_ok_iff.1 hrest
    show Enduring bench scale others.value.2 others.rig
    exact ih (on.perform standard addressable hfirst) hothers

theorem enduring_new (options : EmulatorOptions) (encoding : PixelEncoding)
    (limit : UInt32 × UInt32) (stopwatch : Stopwatch) (frames : bench.frames = 0) :
    Enduring bench options.scale (new options) (freshRig bench encoding limit stopwatch) := by
  refine ⟨rfl, rfl, rfl, ?_, rfl, Pipeline.steady_new _ _, Pipeline.within_new _ _, Nat.le_refl 0,
    rfl, ?_, ?_⟩
  · show bench.frames.toNat = 0
    rw [frames]
    rfl
  · show (Array.replicate bench.heapSize.toNat (0 : UInt8)).size ≤ _
    rw [Array.size_replicate]
    exact Nat.le_add_right ..
  · intro current impossible
    cases impossible

/-! ## §6 Ticks without an end

Both halves of the theorem are inductions on the number of ticks with the state generalized: below
the limit each tick leads from one state of the invariant to the next, and beyond it the fault comes
by the limit at the latest. -/

/-- While their number is a word of the timer, the ticks go on. -/
theorem Enduring.tickTimes (standard : Clockwork.Standard)
    {count : Nat} (on : Enduring bench scale emulator rig)
    (loaded : emulator.lifecycle = .loaded current)
    (addressable : bench.Addressable scale)
    (few : emulator.steps + count < 2 ^ 32) :
    ∃ answers next after exchanges,
      (emulator.tickTimes count).Gives rig (answers, next) after exchanges ∧
      Enduring bench scale next after ∧ next.steps = emulator.steps + count ∧
      answers.length = count ∧
      (bench.screenPastEnd = false → ∀ answer ∈ answers, answer = .ok true) := by
  -- By induction on the number of ticks: each leads from one invariant state to the next.
  induction count generalizing emulator rig with
  | zero => exact ⟨[], emulator, rig, [], Act.gives_pure _ _, on, rfl, rfl, by simp⟩
  | succ count ih =>
    obtain ⟨answer, middle, between, made, ticks, keeps, lifecycle, one_more, draws⟩ :=
      on.tick standard loaded addressable (by omega)
    obtain ⟨answers, next, after, more, rest, final, steps, length, all_draw⟩ :=
      ih keeps (lifecycle.trans loaded) (by omega)
    refine ⟨answer :: answers, next, after, made ++ more, ?_, final, by omega,
      congrArg (· + 1) length, ?_⟩
    · exact ticks.bind (rest.then_quietly (Act.gives_pure _ _))
    · intro inside
      exact List.forall_mem_cons.2 ⟨draws inside, all_draw inside⟩

/-- More ticks than the timer can count do not come to an end. -/
theorem Enduring.tickTimes_overflows (standard : Clockwork.Standard)
    {count : Nat} (on : Enduring bench scale emulator rig)
    (loaded : emulator.lifecycle = .loaded current)
    (addressable : bench.Addressable scale)
    (many : 2 ^ 32 ≤ emulator.steps + count) :
    (emulator.tickTimes count).Faults rig .overflow := by
  induction count generalizing emulator rig with
  | zero =>
    -- The timer cannot have counted so many steps already.
    have := emulator.statistics.stepTime.events.toNat_lt
    unfold steps at many
    omega
  | succ count ih =>
    by_cases small : emulator.steps + 1 < 2 ^ 32
    · obtain ⟨answer, middle, between, made, ticks, keeps, lifecycle, one_more, -⟩ :=
        on.tick standard loaded addressable small
      -- The tick goes through, and the rest of them come to the end of the timer.
      exact ticks.bind_faults (ih keeps (lifecycle.trans loaded) (by omega)).bind
    · exact (on.tick_overflows loaded addressable (Nat.le_of_not_lt small)).bind

/-- Whatever has been done before, a running rom can be ticked as often as the timer can count,
and no more often.  The timer is the first to come to its end: neither of the other counters is
ahead of it, and the clock, whose words are wide enough for all frames that can be counted, tells
the frames. -/
theorem ticks_until_overflow (standard : Clockwork.Standard) (heapSize : UInt32)
    (screen : Screen) (stepStatus : Int32) (screenPastEnd : Bool) (mischief : Mischief)
    (options : EmulatorOptions) (encoding : PixelEncoding) (limit : UInt32 × UInt32)
    (stopwatch : Stopwatch) (operations : List Operation)
    (area : screen.width.toNat * options.scale.toNat *
      (screen.height.toNat * options.scale.toNat) ≤ 2 ^ 32)
    (addressable : screenPastEnd = true →
      heapSize.toNat + 4 * pixelCount screen.width screen.height < 2 ^ 32)
    {outcome : Outcome Bench Canvas (List Deed × Emulator)}
    (run : ((new options).performAll operations).run
      (freshRig { heapSize, screen, stepStatus, screenPastEnd, mischief } encoding limit
        stopwatch) = .ok outcome)
    (loaded : outcome.value.2.isLoaded = true) (count : Nat) :
    (outcome.value.2.steps + count < 2 ^ 32 →
      ∃ final, (outcome.value.2.tickTimes count).run outcome.rig = .ok final ∧
        final.value.1.length = count ∧
        (screenPastEnd = false → ∀ answer ∈ final.value.1, answer = .ok true) ∧
        final.value.2.steps = outcome.value.2.steps + count ∧
        final.value.2.statistics.frames.toNat ≤ final.value.2.steps ∧
        final.value.2.statistics.faults.toNat ≤ final.value.2.steps ∧
        final.value.2.clock.femtos =
          final.value.2.statistics.frames.toNat * Clockwork.refresh.femtos) ∧
    (2 ^ 32 ≤ outcome.value.2.steps + count →
      ∃ journal, (outcome.value.2.tickTimes count).run outcome.rig =
        .error ⟨.overflow, journal⟩) := by
  -- The invariant holds at the start, and so it holds after whatever has been done.
  have start : Enduring { heapSize, screen, stepStatus, screenPastEnd, mischief } options.scale
      (new options) _ := enduring_new options encoding limit stopwatch rfl
  have on := start.performAll standard ⟨area, addressable⟩ run
  cases hlifecycle : outcome.value.2.lifecycle with
  | empty => simp [isLoaded, hlifecycle, Lifecycle.isLoaded, Lifecycle.current?] at loaded
  | loaded current =>
    constructor
    · intro few
      -- The invariant after the last tick bounds the other counters and reads the clock.
      obtain ⟨answers, next, after, exchanges, ⟨journal, ticks, -⟩, final, steps, length,
        all_draw⟩ := on.tickTimes standard hlifecycle ⟨area, addressable⟩ few
      exact ⟨_, ticks, length, all_draw, steps, final.within.frames, final.within.faults,
        final.steady.clock⟩
    · exact on.tickTimes_overflows standard hlifecycle ⟨area, addressable⟩

end Sessions

/-- A small session: a rom has been loaded and has run for one frame. -/
theorem ticks_until_overflow_of_first_frame :
    ∃ outcome, ((new { scale := 1 }).performAll [.loadRom #[7], .tick]).run
        (freshRig { heapSize := 64, screen := ⟨1, 1⟩ } .rgba (10, 10) {}) = .ok outcome ∧
      outcome.value.2.isLoaded = true ∧ outcome.value.2.steps = 1 ∧
      (∃ final, (outcome.value.2.tickTimes (2 ^ 32 - 2)).run outcome.rig = .ok final ∧
        (∀ answer ∈ final.value.1, answer = .ok true) ∧ final.value.2.steps = 2 ^ 32 - 1) ∧
      ∃ journal, (outcome.value.2.tickTimes (2 ^ 32 - 1)).run outcome.rig =
        .error ⟨.overflow, journal⟩ := by
  obtain ⟨outcome, run, loaded, counted⟩ := Checked.exists_of_any
    (show (((new { scale := 1 }).performAll [.loadRom #[7], .tick]).run
      (freshRig { heapSize := 64, screen := ⟨1, 1⟩ } .rgba (10, 10) {})).toOption.any
        fun outcome => outcome.value.2.isLoaded = true ∧ outcome.value.2.steps = 1 by
      decide +kernel)
  have ticks := ticks_until_overflow Platform.clockwork_standard 64 ⟨1, 1⟩ 0 false {}
    { scale := 1 } .rgba (10, 10) {} _ (by decide) (by decide) run loaded
  obtain ⟨final, rest, -, all_draw, steps, -⟩ := (ticks (2 ^ 32 - 2)).1 (by rw [counted]; decide)
  rw [counted] at steps
  exact ⟨outcome, run, loaded, counted, ⟨final, rest, all_draw rfl, steps⟩,
    (ticks (2 ^ 32 - 1)).2 (by rw [counted]; decide)⟩

/-- A rom that has just been loaded cannot be ticked once for every word of 32 bits, let alone once
for every word of 64 bits. -/
theorem ticks_overflow_after_load :
    ∃ outcome, ((new { scale := 1 }).performAll [.loadRom #[7]]).run
        (freshRig { heapSize := 64, screen := ⟨1, 1⟩ } .rgba (10, 10) {}) = .ok outcome ∧
      outcome.value.2.isLoaded = true ∧
      ¬ ∀ count < 2 ^ 64, ∃ final, (outcome.value.2.tickTimes count).run outcome.rig =
        .ok final := by
  obtain ⟨outcome, run, loaded⟩ := Checked.exists_of_any
    (show (((new { scale := 1 }).performAll [.loadRom #[7]]).run
      (freshRig { heapSize := 64, screen := ⟨1, 1⟩ } .rgba (10, 10) {})).toOption.any
        fun outcome => outcome.value.2.isLoaded = true by
      decide +kernel)
  refine ⟨outcome, run, loaded, fun forever => ?_⟩
  -- A run of `2 ^ 32` ticks is asked for, and it would have an outcome.
  obtain ⟨final, ticks⟩ := forever (2 ^ 32) (by decide)
  have start : Enduring { heapSize := 64, screen := ⟨1, 1⟩ } 1 (new { scale := 1 }) _ :=
    enduring_new { scale := 1 } .rgba (10, 10) {} rfl
  have on := start.performAll Platform.clockwork_standard ⟨by decide, by decide⟩ run
  cases hlifecycle : outcome.value.2.lifecycle with
  | empty => simp [isLoaded, hlifecycle, Lifecycle.isLoaded, Lifecycle.current?] at loaded
  | loaded current =>
    obtain ⟨journal, cut⟩ :=
      on.tickTimes_overflows Platform.clockwork_standard hlifecycle ⟨by decide, by decide⟩
        (Nat.le_add_left _ _)
    cases cut.symm.trans ticks

end Emulator

end Handheld
