import Handheld.Proofs.Bench.Loading
import Handheld.Proofs.Session.Operation
import Handheld.Proofs.Session.Tick
import Handheld.Proofs.Session.Upkeep
import Handheld.Rehearsal.Platform

/-!
# Sessions on the Bench

A controller of the bench core that draws on a canvas.  The main result,
`Emulator.tick_shows_frame`, goes from one end to the other: whatever has been done before, a tick
of a running rom succeeds, and the canvas then shows, enlarged and in its own encoding, the
picture whose number is that of the successful ticks so far.

`Emulator.OnBench` is the invariant of such a session.  A load establishes what a tick needs of
the running rom, everything but a tick leaves the number of frames alone, and a tick draws the
one picture that comes next.
-/

namespace Handheld.Emulator

/-! ## §1 The invariant

Besides what is known of every pipeline, `OnBench` bounds the counters of core, timer and canvas by
the number of operations so far, and says that a running rom has an instance, a screen and a canvas
that fits it. -/

/-- A controller between two operations of a session on the bench, after at most so many of
them. -/
structure OnBench [Clockwork] (bench : Bench) (scale : UInt32) (encoding : PixelEncoding)
    (count : Nat) (emulator : Emulator) (rig : Rig Bench Canvas) : Prop where
  heapSize : rig.machine.state.heapSize = bench.heapSize
  resolution : rig.machine.state.screen = bench.screen
  screenPastEnd : rig.machine.state.screenPastEnd = false
  /-- The core and the pipeline count the same frames. -/
  frames : rig.machine.state.frames = emulator.statistics.frames
  factor : emulator.pipeline.scale = scale
  steady : emulator.pipeline.Steady
  within : emulator.pipeline.Within count
  encoding : rig.display.backing.encoding = encoding
  wellFormed : rig.display.backing.WellFormed
  draws : rig.display.draws.toNat ≤ count
  running : ∀ current, emulator.lifecycle = .loaded current →
    Running bench.screen scale current rig

variable {bench : Bench} {scale : UInt32} {encoding : PixelEncoding} {count : Nat}
  {emulator : Emulator} {rig after : Rig Bench Canvas} {current : LoadedRom}

/-! ## §2 A tick

From the bytes that the core stores for a pixel to the pixel that can be read from the canvas.  The
place of a point in memory, in the frame and on the enlarged canvas is computed three times, and
`picture_pixel` and `shows_of_drawn` connect the three. -/

/-- Every pixel of the picture that has been fetched after a step tells its place and the number
of the step. -/
theorem picture_pixel {before memory : Bytes} {picture : Frame} {x y : Nat}
    (drawn : Bench.Drawn bench before (bench.screen.height.toNat * bench.screen.width.toNat) memory)
    (pictures : Pipeline.Pictures picture bench.screen encoding memory bench.heapSize)
    (hx : x < bench.screen.width.toNat) (hy : y < bench.screen.height.toNat) :
    picture.bitmap[y * bench.screen.width.toNat + x]? =
      some ((Pixel.rgba bench.frames.toUInt8 (UInt8.ofNat x) (UInt8.ofNat y) 0xFF).encode
        encoding) := by
  have place := Frame.place_lt hx hy
  -- The core has stored the pixel at this place, and encoding keeps the place.
  have holds := drawn.pixels x y hx (by rw [Nat.mul_comm bench.screen.height.toNat]; exact place)
  exact pictures.pixels _ place _ _ _ _ holds

/-- The canvas shows the enlarged picture with the given number. -/
def Shows (screen : Screen) (scale : UInt32) (encoding : PixelEncoding) (frame : UInt64)
    (canvas : Canvas) : Prop :=
  ∀ x y : UInt32, x.toNat < screen.width.toNat * scale.toNat →
    y.toNat < screen.height.toNat * scale.toNat →
    canvas.backing.getPixel x y =
      .ok (some ((Bench.framePixel frame (x / scale) (y / scale)).encode encoding))

/-- A canvas onto which the picture of a step has been copied shows it. -/
theorem shows_of_drawn {canvas : Canvas} {before memory : Bytes} {picture : Frame}
    (area : pixelCount canvas.backing.width canvas.backing.height ≤ 2 ^ 32)
    (fits : canvas.Fits bench.screen.width bench.screen.height scale)
    (drawn : Bench.Drawn bench before (bench.screen.height.toNat * bench.screen.width.toNat) memory)
    (pictures : Pipeline.Pictures picture bench.screen encoding memory bench.heapSize)
    (copied : ∀ x y, x < canvas.backing.width.toNat → y < canvas.backing.height.toNat →
      canvas.backing.bitmap[y * canvas.backing.width.toNat + x]? =
        picture.bitmap[y / scale.toNat * picture.width.toNat + x / scale.toNat]?) :
    Shows bench.screen scale encoding bench.frames canvas := by
  intro x y hx hy
  rw [← fits.width] at hx
  rw [← fits.height] at hy
  have inside : canvas.backing.Contains x y :=
    -- A point of the canvas belongs to one point of the screen, which is found by dividing by the
    -- scale.
    ⟨UInt32.lt_iff_toNat_lt.2 hx, UInt32.lt_iff_toNat_lt.2 hy⟩
  have column : x.toNat / scale.toNat < bench.screen.width.toNat := by
    apply Nat.div_lt_of_lt_mul
    rw [Nat.mul_comm, ← fits.width]
    exact hx
  have row : y.toNat / scale.toNat < bench.screen.height.toNat := by
    apply Nat.div_lt_of_lt_mul
    rw [Nat.mul_comm, ← fits.height]
    exact hy
  apply Frame.getPixel_ok area inside
  rw [copied x.toNat y.toNat hx hy, pictures.width, picture_pixel drawn pictures column row,
    ← UInt32.toNat_div, ← UInt32.toNat_div]
  rfl

/-- A screen is not larger than it is when enlarged. -/
theorem area_of_enlarged {screen : Screen} (enlarged : scale ≠ 0)
    (area : screen.width.toNat * scale.toNat * (screen.height.toNat * scale.toNat) ≤ 2 ^ 32) :
    pixelCount screen.width screen.height ≤ 2 ^ 32 := by
  have positive : 0 < scale.toNat := Checked.toNat_pos enlarged
  calc pixelCount screen.width screen.height
      ≤ screen.width.toNat * scale.toNat * (screen.height.toNat * scale.toNat) :=
        Nat.mul_le_mul (Nat.le_mul_of_pos_right _ positive) (Nat.le_mul_of_pos_right _ positive)
    _ ≤ 2 ^ 32 := area

/-- The canvas takes the picture of a frame and shows it. -/
theorem draw_picture {before after : Machine Bench} {canvas : Canvas} {picture : Frame}
    (next : Bench.NextFrame before after) (wellFormed : canvas.backing.WellFormed)
    (fits : canvas.Fits after.state.screen.width after.state.screen.height scale)
    (area : pixelCount canvas.backing.width canvas.backing.height ≤ 2 ^ 32)
    (countable : canvas.draws.toNat + 1 < 2 ^ 64)
    (pictures : Pipeline.Pictures picture after.state.screen encoding after.memory
      after.state.heapSize) :
    ∃ display, canvas.draw picture scale = .ok (.ok (), display) ∧ display.backing.WellFormed ∧
      Canvas.SameShape canvas display ∧ display.draws.toNat = canvas.draws.toNat + 1 ∧
      Shows after.state.screen scale encoding after.state.frames display := by
  -- The frame is as large as the screen that it was read from.
  have picture_fits : canvas.Fits picture.width picture.height scale := by
    rw [pictures.width, pictures.height]
    exact fits
  obtain ⟨display, draws, wellFormed_after, same, draws_eq, copied⟩ :=
    Canvas.draw_ok wellFormed pictures.wellFormed (Frame.addressable_of_area area) picture_fits
      countable
  refine ⟨display, draws, wellFormed_after, same, draws_eq, ?_⟩
  -- The canvas has kept its size, and its pixels are those of the picture.
  rw [← same.width, ← same.height] at area copied
  exact shows_of_drawn area (fits.of_sameShape same) next.drawn pictures copied

/-- The bench core makes the step of a running rom, and the picture lies in memory. -/
theorem answers_of_running {pipeline : Pipeline} (running : Running bench.screen scale current rig)
    (resolution : rig.machine.state.screen = bench.screen)
    (area : pixelCount bench.screen.width bench.screen.height ≤ 2 ^ 32)
    (countable : rig.machine.state.frames.toNat + 1 < 2 ^ 64)
    (inside : rig.machine.state.screenPastEnd = false) :
    ∃ asked, pipeline.Answers current rig rig.machine.state.stepStatus rig.machine.state.heapSize
        asked ∧ Bench.NextFrame rig.machine asked := by
  obtain ⟨live, screen, -, -⟩ := running
  obtain ⟨stepped, asked, steps, points, next⟩ :=
    Bench.frame_answers pipeline.stepMode live (resolution ▸ area) countable inside
  refine ⟨asked, ⟨⟨stepped, steps, points⟩, ?_, ?_⟩, next⟩
  · rw [screen]
    rw [Checked.maxBufferBytes_eq]
    omega
  · rw [screen, ← resolution]
    exact next.inside

section Sessions

variable [Clockwork]

/-- A tick has led to a draw: the core has counted and drawn one frame more, and the canvas shows
it. -/
structure DrawsFrame (pipeline ticked : Pipeline) (rig after : Rig Bench Canvas) : Prop where
  ticked : pipeline.Ticked ticked
  next : Bench.NextFrame rig.machine after.machine
  wellFormed : after.display.backing.WellFormed
  same : Canvas.SameShape rig.display after.display
  draws : after.display.draws.toNat = rig.display.draws.toNat + 1
  shows : Shows after.machine.state.screen pipeline.scale rig.display.backing.encoding
    after.machine.state.frames after.display

/-- A tick of a rom that runs on the bench draws the next picture, if no counter is at its end. -/
theorem tick_running (standard : Clockwork.Standard) {pipeline : Pipeline}
    (running : Running rig.machine.state.screen pipeline.scale current rig)
    (area : rig.machine.state.screen.width.toNat * pipeline.scale.toNat *
      (rig.machine.state.screen.height.toNat * pipeline.scale.toNat) ≤ 2 ^ 32)
    (inside : rig.machine.state.screenPastEnd = false)
    (core_countable : rig.machine.state.frames.toNat + 1 < 2 ^ 64)
    (wellFormed : rig.display.backing.WellFormed)
    (drawable : rig.display.draws.toNat + 1 < 2 ^ 64) (steady : pipeline.Steady)
    (within : pipeline.Within count) (small : count + 1 < 2 ^ 32) :
    ∃ ticked after exchanges,
      (pipeline.tick (.loaded current)).Gives rig (.ok true, ticked) after exchanges ∧
      DrawsFrame pipeline ticked rig after := by
  have screen_area := area_of_enlarged running.enlarged area
  -- The core draws the next picture behind the heap.
  obtain ⟨asked, answers, next⟩ := answers_of_running running rfl screen_area core_countable inside
  -- The pipeline fetches this picture, and the canvas takes it.
  have countable := within.countable small
  obtain ⟨picture, pictures, tick⟩ :=
    Pipeline.tick_gives (steady.timely standard countable.frames) steady countable answers
  rw [running.resolution, ← next.screen, ← next.heapSize] at pictures
  have canvas_area : pixelCount rig.display.backing.width rig.display.backing.height ≤ 2 ^ 32 := by
    unfold pixelCount
    rw [running.fits.width, running.fits.height]
    exact area
  obtain ⟨display, draws, wellFormed_after, same, draws_eq, shows⟩ := draw_picture next wellFormed
    (next.screen ▸ running.fits) canvas_area drawable pictures
  obtain ⟨ticked, stopwatch, gives, after_tick⟩ := tick (.ok ()) display draws
  exact ⟨ticked, _, _, gives, after_tick, next, wellFormed_after, same, draws_eq, shows⟩

/-- A tick of a running rom succeeds, and the canvas then shows the next picture. -/
theorem OnBench.tick_loaded (standard : Clockwork.Standard)
    (on : OnBench bench scale encoding count emulator rig)
    (loaded : emulator.lifecycle = .loaded current) (small : count + 1 < 2 ^ 32)
    (area : bench.screen.width.toNat * scale.toNat *
      (bench.screen.height.toNat * scale.toNat) ≤ 2 ^ 32) :
    ∃ next after exchanges,
      emulator.tick.Gives rig (.ok true, next) after exchanges ∧
      OnBench bench scale encoding (count + 1) next after ∧
      next.statistics.frames.toNat = emulator.statistics.frames.toNat + 1 ∧
      Shows bench.screen scale encoding next.statistics.frames after.display := by
  -- The bounds of the counters follow from the number of operations so far.
  have running := on.running current loaded
  have frames_le := on.within.frames
  have draws_le := on.draws
  have core_countable : rig.machine.state.frames.toNat + 1 < 2 ^ 64 := by
    rw [on.frames]
    show emulator.pipeline.statistics.frames.toNat + 1 < 2 ^ 64
    omega
  rw [← on.resolution, ← on.factor] at running area
  obtain ⟨ticked, after, exchanges, gives, after_tick, next, wellFormed, same, draws_eq, shows⟩ :=
    tick_running standard running area on.screenPastEnd core_countable on.wellFormed (by omega)
      on.steady on.within small
  rw [← loaded] at gives
  have screen_eq : after.machine.state.screen = bench.screen := next.screen.trans on.resolution
  -- The core and the pipeline have each counted one frame more.
  have same_frames : after.machine.state.frames = ticked.statistics.frames := by
    apply UInt64.toNat_inj.1
    rw [next.frames, on.frames, after_tick.frames]
    rfl
  refine ⟨_, after, _, Emulator.tick_of_pipeline gives, ?_, after_tick.frames, ?_⟩
  -- The tick has moved the counters and the canvas, and the invariant says how far they may be.
  · refine ⟨next.heapSize.trans on.heapSize, screen_eq, next.screenPastEnd.trans on.screenPastEnd,
      same_frames, after_tick.scale.trans on.factor, after_tick.steady,
      after_tick.within on.within, same.encoding.trans on.encoding, wellFormed, ?_, ?_⟩
    · rw [draws_eq]
      omega
    -- The rom goes on running, since a step destroys no instance and a draw keeps the shape.
    · intro other still_loaded
      obtain ⟨live, resolution, enlarged, fits⟩ := on.running other still_loaded
      exact ⟨next.instances ▸ live, resolution, enlarged, fits.of_sameShape same⟩
  · rw [screen_eq, on.factor, on.encoding, same_frames] at shows
    exact shows

/-! ## §3 The other operations

Everything but a tick of a running rom makes no step.  What such an operation keeps is the same for
all of them, and `Stepless` says it once. -/

/-- What an operation does that makes no step: a rom that runs afterwards has just been loaded, or
it has been running before and nothing but buttons has been set. -/
structure Stepless (screen : Screen) (emulator next : Emulator) (rig after : Rig Bench Canvas) :
    Prop where
  moves : ∃ made, rig.Moves Request.IsUpkeep SurfaceRequest.IsResize made after
  factor : next.pipeline.scale = emulator.pipeline.scale
  steady : next.pipeline.Steady
  statistics : next.pipeline.statistics = emulator.pipeline.statistics
  running : ∀ current, next.lifecycle = .loaded current →
    (Running screen emulator.pipeline.scale current after ∧
      after.display.Suits screen emulator.pipeline.scale) ∨
    (emulator.lifecycle = .loaded current ∧
      ∃ made, rig.Moves Request.IsButton (fun _ => False) made after)

variable {screen : Screen}

/-- Every operation but a tick of a running rom makes no step and counts no frame. -/
theorem stepless_of_perform (steady : emulator.pipeline.Steady)
    (resolution : rig.machine.state.screen = screen) {operation : Operation}
    (idle : operation = .tick → emulator.lifecycle = .empty)
    {outcome : Outcome Bench Canvas (Except Error operation.Answer × Emulator)}
    (run : (emulator.perform operation).run rig = .ok outcome) :
    Stepless screen emulator outcome.value.2 rig outcome.rig ∧
      Deed.isFrame ⟨operation, outcome.value.1⟩ = false := by
  obtain ⟨⟨moves, factor, steady, statistics, running⟩, unframed⟩ :=
    upkept_of_perform steady idle run
  refine ⟨⟨moves, factor, steady, statistics, fun current loaded => ?_⟩, unframed⟩
  -- Only a load makes a rom run that has not been running before.
  rcases running current loaded with ⟨image, loading, hload, value, same⟩ | before
  · obtain ⟨-, sized⟩ := Lifecycle.sized_of_load hload value
    obtain ⟨_, ⟨⟩, running⟩ := Lifecycle.running_of_load resolution hload value
    rw [← same]
    exact .inl ⟨running, running.resolution ▸ sized.toSuits⟩
  · exact .inr before

/-- An operation that makes no step keeps the invariant. -/
theorem OnBench.moved {next : Emulator} (on : OnBench bench scale encoding count emulator rig)
    (stepless : Stepless bench.screen emulator next rig after) :
    OnBench bench scale encoding (count + 1) next after := by
  obtain ⟨⟨made, moves⟩, factor, steady, statistics, running⟩ := stepless
  have setup := moves.sameSetup fun _ upkeep => upkeep
  have tended := moves.tended
  obtain ⟨frames_le, faults_le, events_le⟩ := on.within
  refine ⟨setup.heapSize.trans on.heapSize, setup.screen.trans on.resolution,
    setup.screenPastEnd.trans on.screenPastEnd, ?_, factor.trans on.factor, steady, ?_,
    tended.encoding.trans on.encoding, tended.wellFormed on.wellFormed, ?_, ?_⟩
  -- The core has counted nothing, and the statistics are the old ones.
  · rw [setup.frames, on.frames]
    unfold Emulator.statistics
    rw [statistics]
  · constructor <;> rw [statistics] <;> omega
  · rw [tended.draws]
    exact Nat.le_succ_of_le on.draws
  -- A rom that has just been loaded runs by itself, an older one because only buttons have been
  -- set.
  · intro current loaded
    rcases running current loaded with ⟨running, -⟩ | ⟨before, pressed, buttons⟩
    · exact on.factor ▸ running
    · exact (on.running current before).of_button buttons

/-- Every operation keeps the invariant, and the only ones that count a frame are the ticks that
answer so. -/
theorem OnBench.perform (standard : Clockwork.Standard)
    (on : OnBench bench scale encoding count emulator rig) (small : count + 1 < 2 ^ 32)
    (area : bench.screen.width.toNat * scale.toNat *
      (bench.screen.height.toNat * scale.toNat) ≤ 2 ^ 32)
    {operation : Operation}
    {outcome : Outcome Bench Canvas (Except Error operation.Answer × Emulator)}
    (run : (emulator.perform operation).run rig = .ok outcome) :
    OnBench bench scale encoding (count + 1) outcome.value.2 outcome.rig ∧
      outcome.value.2.statistics.frames.toNat = emulator.statistics.frames.toNat +
        if Deed.isFrame ⟨operation, outcome.value.1⟩ then 1 else 0 := by
  -- Apart from a tick of a running rom, no operation makes a step.
  by_cases idle : operation = .tick → emulator.lifecycle = .empty
  · obtain ⟨stepless, unframed⟩ := stepless_of_perform on.steady on.resolution idle run
    refine ⟨on.moved stepless, ?_⟩
    rw [unframed]
    exact congrArg (·.frames.toNat) stepless.statistics
  · obtain ⟨rfl, running⟩ := Classical.not_imp.1 idle
    cases hlifecycle : emulator.lifecycle with
    | empty => exact absurd hlifecycle running
    | loaded current =>
      obtain ⟨next, after, exchanges, ⟨journal, ticks, -⟩, keeps, frames, -⟩ :=
        on.tick_loaded standard hlifecycle small area
      obtain rfl := Except.ok.inj (ticks.symm.trans run)
      exact ⟨keeps, frames⟩

/-- Any number of operations keeps the invariant, and the frames are the ticks that answered
so. -/
theorem OnBench.performAll (standard : Clockwork.Standard) {operations : List Operation}
    (on : OnBench bench scale encoding count emulator rig)
    (few : count + operations.length < 2 ^ 32)
    (area : bench.screen.width.toNat * scale.toNat *
      (bench.screen.height.toNat * scale.toNat) ≤ 2 ^ 32)
    {outcome : Outcome Bench Canvas (List Deed × Emulator)}
    (run : (emulator.performAll operations).run rig = .ok outcome) :
    OnBench bench scale encoding (count + operations.length) outcome.value.2 outcome.rig ∧
      outcome.value.2.statistics.frames.toNat =
        emulator.statistics.frames.toNat + outcome.value.1.countP Deed.isFrame := by
  -- The induction is on the operations: each takes one of those that are left and adds one to those
  -- that have been done.
  induction operations generalizing emulator rig count outcome with
  | nil =>
    obtain rfl := Except.ok.inj run
    exact ⟨on, rfl⟩
  | cons operation operations ih =>
    rw [List.length_cons] at few
    obtain ⟨first, rest, hfirst, hrest, rfl⟩ := Act.run_bind_eq_ok_iff.1 run
    obtain ⟨others, last, hothers, hlast, rfl⟩ := Act.run_bind_eq_ok_iff.1 hrest
    obtain rfl := Except.ok.inj hlast
    obtain ⟨middle, frames⟩ := on.perform standard (by omega) area hfirst
    obtain ⟨final, more⟩ := ih middle (by omega) hothers
    constructor
    · rw [List.length_cons, Nat.add_comm operations.length, ← Nat.add_assoc]
      exact final
    · calc others.value.2.statistics.frames.toNat
          = first.value.2.statistics.frames.toNat + others.value.1.countP Deed.isFrame := more
        _ = emulator.statistics.frames.toNat +
              (others.value.1.countP Deed.isFrame +
                if Deed.isFrame ⟨operation, first.value.1⟩ then 1 else 0) := by omega
        _ = _ := by rw [← List.countP_cons]

/-- A bench core that has done nothing yet, and an empty canvas. -/
def freshRig (bench : Bench) (encoding : PixelEncoding) (limit : UInt32 × UInt32)
    (stopwatch : Stopwatch) : Rig Bench Canvas where
  machine := Bench.machine bench
  display := (Canvas.new encoding).withLimit limit.1 limit.2
  stopwatch

theorem onBench_new (options : EmulatorOptions) (encoding : PixelEncoding)
    (limit : UInt32 × UInt32) (stopwatch : Stopwatch) (frames : bench.frames = 0)
    (inside : bench.screenPastEnd = false) :
    OnBench bench options.scale encoding 0 (new options)
      (freshRig bench encoding limit stopwatch) := by
  refine ⟨rfl, rfl, inside, frames, rfl, Pipeline.steady_new _ _, Pipeline.within_new _ _, rfl,
    rfl, ?_, ?_⟩
  · exact Nat.le_refl 0
  · intro current impossible
    cases impossible

/-! ## §4 From one end to the other

The theorem is the invariant at the start, carried through the operations, and one tick more. -/

/-- Whatever few operations have been performed, if a rom is running then a tick succeeds, and
right after it every pixel of the canvas is that of the core's picture with the number of the
successful ticks so far. -/
theorem tick_shows_frame (standard : Clockwork.Standard) (heapSize : UInt32)
    (screen : Screen) (stepStatus : Int32) (mischief : Mischief) (options : EmulatorOptions)
    (encoding : PixelEncoding) (limit : UInt32 × UInt32) (stopwatch : Stopwatch)
    (operations : List Operation) (area : screen.width.toNat * options.scale.toNat *
      (screen.height.toNat * options.scale.toNat) ≤ 2 ^ 32)
    (few : operations.length + 1 < 2 ^ 32)
    {outcome : Outcome Bench Canvas (List Deed × Emulator)}
    (run : ((new options).performAll operations).run
      (freshRig { heapSize, screen, stepStatus, mischief } encoding limit stopwatch) = .ok outcome)
    (loaded : outcome.value.2.isLoaded = true) :
    ∃ final, outcome.value.2.tick.run outcome.rig = .ok final ∧ final.value.1 = .ok true ∧
      final.value.2.statistics.frames.toNat = outcome.value.1.countP Deed.isFrame + 1 ∧
      ∀ x y : UInt32, x.toNat < screen.width.toNat * options.scale.toNat →
        y.toNat < screen.height.toNat * options.scale.toNat →
        final.rig.display.backing.getPixel x y =
          .ok (some ((Bench.framePixel final.value.2.statistics.frames (x / options.scale)
            (y / options.scale)).encode encoding)) := by
  have start : OnBench { heapSize, screen, stepStatus, mischief } options.scale encoding 0
      (new options) _ := onBench_new options encoding limit stopwatch rfl rfl
  obtain ⟨on, frames⟩ := start.performAll standard (by omega) area run
  cases hlifecycle : outcome.value.2.lifecycle with
  | empty => simp [isLoaded, hlifecycle, Lifecycle.isLoaded, Lifecycle.current?] at loaded
  | loaded current =>
    obtain ⟨next, after, exchanges, ⟨journal, ticks, -⟩, -, next_frames, shows⟩ :=
      on.tick_loaded standard hlifecycle (by omega) area
    -- All the frames that the controller has counted are among the deeds.
    refine ⟨_, ticks, rfl, ?_, shows⟩
    rw [next_frames, frames]
    simp [new, statistics]

end Sessions

/-- Another rom takes the place of the first one after its only frame. -/
def reload : List Operation := [.loadRom #[7], .tick, .loadRom #[8, 9]]

theorem tick_shows_frame_of_reload :
    ∃ outcome, ((new { scale := 2 }).performAll reload).run
        (freshRig { heapSize := 64, screen := ⟨2, 1⟩ } .argb (10, 10) {}) = .ok outcome ∧
      outcome.value.2.isLoaded = true ∧ outcome.value.1.countP Deed.isFrame = 1 ∧
      ∃ final, outcome.value.2.tick.run outcome.rig = .ok final ∧ final.value.1 = .ok true ∧
        final.value.2.statistics.frames.toNat = 2 ∧
        ∀ x y : UInt32, x.toNat < 4 → y.toNat < 2 →
          final.rig.display.backing.getPixel x y =
            .ok (some ((Bench.framePixel final.value.2.statistics.frames (x / 2)
              (y / 2)).encode .argb)) := by
  -- The session up to the reload is evaluated, and the tick behind it is the theorem's.
  have facts : (((new { scale := 2 }).performAll reload).run
      (freshRig { heapSize := 64, screen := ⟨2, 1⟩ } .argb (10, 10) {})).toOption.any
        fun outcome => outcome.value.2.isLoaded && outcome.value.1.countP Deed.isFrame == 1 := by
    decide +kernel
  cases hrun : ((new { scale := 2 }).performAll reload).run
      (freshRig { heapSize := 64, screen := ⟨2, 1⟩ } .argb (10, 10) {}) with
  | error cut => simp [hrun, Except.toOption] at facts
  | ok outcome =>
    simp only [hrun, Except.toOption, Option.any_some, Bool.and_eq_true, beq_iff_eq] at facts
    obtain ⟨loaded, counted⟩ := facts
    obtain ⟨final, ticks, answer, frames, shows⟩ :=
      tick_shows_frame Platform.clockwork_standard 64 ⟨2, 1⟩ 0 {} { scale := 2 } .argb (10, 10) {}
        reload (by decide) (by decide) hrun loaded
    rw [counted] at frames
    exact ⟨outcome, rfl, loaded, counted, final, ticks, answer, frames, shows⟩

end Handheld.Emulator
