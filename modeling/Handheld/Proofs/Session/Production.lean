import Handheld.Proofs.Session.Execution
import Handheld.Proofs.Session.Moves
import Handheld.Proofs.Session.Tick

/-!
# Producing and Publishing

A tick has two parts (`Pipeline.tickLoaded_eq`).  Producing a frame calls the core and nobody
else, and it touches neither the clock nor what the hand-off holds; a frame is counted when it is
committed.

The statements are about every pipeline and every answer, and so also about a tick that fails.
-/

namespace Handheld.Pipeline

open Act

variable {σ τ : Type} {pipeline : Pipeline} {rig after : Rig σ τ} {calls : List Entry}

/-! ## §1 What producing keeps

`Kept` has all fields of a pipeline that a production does not touch.  It composes, so each part of
the production has its own short lemma. -/

/-- What producing a frame leaves alone. -/
structure Kept (before after : Pipeline) : Prop where
  scale : after.scale = before.scale
  clock : after.clock = before.clock
  period : after.period = before.period
  waiting : after.handoff.queue = before.handoff.queue
  shown : after.handoff.lastClock = before.handoff.lastClock
  frames : after.statistics.frames = before.statistics.frames

theorem Kept.refl (pipeline : Pipeline) : Kept pipeline pipeline := ⟨rfl, rfl, rfl, rfl, rfl, rfl⟩

theorem Kept.trans {first second third : Pipeline} (kept : Kept first second)
    (then_kept : Kept second third) : Kept first third where
  scale := then_kept.scale.trans kept.scale
  clock := then_kept.clock.trans kept.clock
  period := then_kept.period.trans kept.period
  waiting := then_kept.waiting.trans kept.waiting
  shown := then_kept.shown.trans kept.shown
  frames := then_kept.frames.trans kept.frames

/-- Producing a frame keeps a pipeline steady. -/
theorem Steady.of_kept [Clockwork] {produced : Pipeline} (steady : pipeline.Steady)
    (kept : Kept pipeline produced) : produced.Steady := by
  obtain ⟨-, clock, period, waiting, shown, frames⟩ := kept
  refine ⟨period.trans steady.period, ?_, ?_, ?_⟩
  · rw [clock, frames]
    exact steady.clock
  · rw [waiting]
    exact steady.waiting
  · rw [shown, clock]
    exact steady.shown

theorem stopTimer_keeps {now : Nat} {stopped : Pipeline}
    (stops : pipeline.stopTimer now = .ok stopped) : Kept pipeline stopped := by
  unfold stopTimer at stops
  obtain ⟨timer, -, made⟩ := Checked.bind_eq_ok_iff.1 stops
  obtain rfl := Except.ok.inj made
  exact ⟨rfl, rfl, rfl, rfl, rfl, rfl⟩

theorem countFault_keeps (pipeline : Pipeline) (status : Int32) :
    (pipeline.countFault status : Act σ τ _).Ensures (Kept pipeline) := by
  unfold countFault
  split
  · exact ensures_pure (.refl _)
  · refine bind_ensures fun _ => bind_ensures fun faults => ensures_pure ?_
    exact ⟨rfl, rfl, rfl, rfl, rfl, rfl⟩

theorem step_keeps [NativeCore σ] (pipeline : Pipeline) (handle : Handle) :
    (pipeline.step handle : Act σ τ _).Ensures fun given => Kept pipeline given.2 := by
  unfold step
  refine bind_ensures fun start => bind_ensures fun answer => ?_
  have started : Kept pipeline (pipeline.startTimer start) := ⟨rfl, rfl, rfl, rfl, rfl, rfl⟩
  cases answer with
  | error cause => exact ensures_pure started
  | ok status =>
    refine bind_ensures fun stop => (ensures_ofFaulty _).bind fun stopped stops => ?_
    refine (countFault_keeps stopped status).bind fun counted counts => ensures_pure ?_
    exact started.trans ((stopTimer_keeps stops).trans counts)

theorem prepare_keeps {screen : Screen} {wanted : PixelEncoding} {prepared : Pipeline}
    (prepares : pipeline.prepare screen wanted = .ok prepared) : Kept pipeline prepared := by
  unfold prepare at prepares
  obtain ⟨staging, -, made⟩ := Checked.bind_eq_ok_iff.1 prepares
  obtain rfl := Except.ok.inj made
  exact ⟨rfl, rfl, rfl, rfl, rfl, rfl⟩

theorem fetch_keeps [Surface τ] (pipeline : Pipeline) (screen : Screen) (addr : UInt32) :
    (pipeline.fetch screen addr : Act σ τ _).Ensures fun given => Kept pipeline given.2 := by
  unfold fetch
  refine bind_ensures fun wanted => (ensures_ofFaulty _).bind fun prepared prepares => ?_
  have kept := prepare_keeps prepares
  refine bind_ensures fun view => ?_
  cases view with
  | error cause => exact ensures_pure kept
  | ok bytes =>
    -- Only the staging frame can be another one, whether or not it has been filled.
    have filled : Kept pipeline
        { prepared with staging := (prepared.staging.copyBytes bytes).2 } :=
      kept.trans ⟨rfl, rfl, rfl, rfl, rfl, rfl⟩
    dsimp only
    split
    · exact ensures_pure filled
    · exact ensures_pure filled

theorem produce_keeps [NativeCore σ] [Surface τ] (pipeline : Pipeline) (rom : LoadedRom) :
    (pipeline.produce rom : Act σ τ _).Ensures fun given => Kept pipeline given.2 := by
  unfold produce
  refine (step_keeps pipeline rom.handle).bind fun stepped kept => ?_
  obtain ⟨steps, stepped⟩ := stepped
  cases steps with
  | error cause => exact ensures_pure kept
  | ok =>
    refine bind_ensures fun answer => ?_
    cases answer with
    | error cause => exact ensures_pure kept
    | ok addr =>
      exact (fetch_keeps stepped rom.screen addr).mono fun _ fetched => kept.trans fetched

/-! ## §2 What the parts call

The core is called by the production alone, and the surface by the publication alone. -/

section Calls

variable [NativeCore σ] [Surface τ] {requests : Request → Prop} {shows : SurfaceRequest → Prop}

theorem countFault_moves (pipeline : Pipeline) (status : Int32) :
    (pipeline.countFault status : Act σ τ _).MovesBy requests shows := by
  unfold countFault
  split
  · exact movesBy_pure _
  · exact (movesBy_note _).bind fun _ => (movesBy_ofFaulty _).bind fun _ => movesBy_pure _

theorem step_moves (pipeline : Pipeline) (handle : Handle) :
    (pipeline.step handle : Act σ τ _).MovesBy Request.IsFrame shows := by
  unfold step
  refine movesBy_readStopwatch.bind fun start => (movesBy_ask (.inl rfl)).bind fun answer => ?_
  cases answer with
  | error cause => exact movesBy_pure _
  | ok status =>
    refine movesBy_readStopwatch.bind fun stop => (movesBy_ofFaulty _).bind fun stopped => ?_
    exact (countFault_moves stopped status).bind fun _ => movesBy_pure _

theorem fetch_moves (pipeline : Pipeline) (screen : Screen) (addr : UInt32) :
    (pipeline.fetch screen addr : Act σ τ _).MovesBy requests shows := by
  unfold fetch
  refine movesBy_encoding.bind fun wanted => (movesBy_ofFaulty _).bind fun prepared => ?_
  refine MovesBy.bind (movesBy_memory.bind fun memory => movesBy_pure _) fun view => ?_
  cases view with
  | error cause => exact movesBy_pure _
  | ok bytes =>
    dsimp only
    split
    · exact movesBy_pure _
    · exact movesBy_pure _

/-- Producing a frame calls the core only. -/
theorem produce_moves (pipeline : Pipeline) (rom : LoadedRom) :
    (pipeline.produce rom : Act σ τ _).MovesBy Request.IsFrame shows := by
  unfold produce
  refine (step_moves pipeline rom.handle).bind fun stepped => ?_
  obtain ⟨steps, stepped⟩ := stepped
  cases steps with
  | error cause => exact movesBy_pure _
  | ok =>
    refine (movesBy_ask (.inr rfl)).bind fun answer => ?_
    cases answer with
    | error cause => exact movesBy_pure _
    | ok addr => exact fetch_moves stepped rom.screen addr

theorem commit_moves [Clockwork] (pipeline : Pipeline) :
    (pipeline.commit : Act σ τ _).MovesBy requests shows :=
  (movesBy_ofFaulty _).bind fun _ => (movesBy_ofNoted _).bind fun _ =>
    (movesBy_ofFaulty _).bind fun _ => movesBy_pure _

theorem drawPending_moves (drawn : ∀ frame scale, shows (.draw frame scale)) (scale : UInt32)
    (handoff : Handoff) : (drawPending scale handoff : Act σ τ _).MovesBy requests shows := by
  induction handoff using drawPending.induct with
  | case1 handoff rest found =>
    rw [drawPending_of_none found]
    exact (movesBy_ofNoted _).bind fun _ => movesBy_pure _
  | case2 handoff clock frame rest found ih =>
    rw [drawPending_of_some found]
    refine (movesBy_ofNoted _).bind fun _ => (movesBy_present (drawn _ _)).bind fun answer => ?_
    cases answer with
    | error cause => exact movesBy_pure _
    | ok => exact ih

/-- Publishing a frame calls the surface only. -/
theorem publish_moves [Clockwork] (drawn : ∀ frame scale, shows (.draw frame scale))
    (pipeline : Pipeline) :
    (pipeline.publish : Act σ τ _).MovesBy requests shows :=
  (commit_moves pipeline).bind fun _ =>
    (drawPending_moves drawn _ _).bind fun _ => movesBy_pure _

end Calls

/-! ## §3 Counting frames

A commit is taken apart completely, in both directions; from it a publication counts one frame. -/

/-- A commit moves the clock on by a period, hands the staging frame on and counts it. -/
theorem commit_gives_iff [Clockwork] {committed : Pipeline} :
    (pipeline.commit : Act σ τ _).Gives rig committed after calls ↔
      ∃ clock frames, pipeline.clock.advance pipeline.period = .ok clock ∧
        Checked.next64 pipeline.statistics.frames = .ok frames ∧
        committed = { pipeline with
          clock
          handoff := (pipeline.handoff.add clock pipeline.staging).value
          statistics.frames := frames } ∧ after = rig ∧ calls = [] := by
  constructor
  · intro gives
    -- The three parts of a commit are taken off one by one; none of them makes a call.
    unfold commit at gives
    obtain ⟨clock, _, _, _, moved, adds, rfl⟩ := gives_bind_iff.1 gives
    obtain ⟨advances, rfl, rfl⟩ := gives_ofFaulty_iff.1 moved
    obtain ⟨handoff, _, _, _, added, rest, rfl⟩ := gives_bind_iff.1 adds
    obtain ⟨rfl, rfl, rfl⟩ := gives_ofNoted_iff.1 added
    obtain ⟨frames, _, _, _, counted, made, rfl⟩ := gives_bind_iff.1 rest
    obtain ⟨counts, rfl, rfl⟩ := gives_ofFaulty_iff.1 counted
    obtain ⟨rfl, rfl, rfl⟩ := gives_pure_iff.1 made
    exact ⟨clock, frames, advances, counts, rfl, rfl, rfl⟩
  · rintro ⟨clock, frames, advances, counts, rfl, rfl, rfl⟩
    refine (gives_ofFaulty advances _).quietly ?_
    refine (gives_ofNoted (pipeline.handoff.add clock pipeline.staging) _).quietly ?_
    exact (gives_ofFaulty counts _).quietly (gives_pure _ _)

/-- A publication counts one frame, whether or not it can be drawn. -/
theorem publish_frames [Clockwork] [Surface τ] (pipeline : Pipeline) :
    (pipeline.publish : Act σ τ _).Ensures fun given =>
      given.2.statistics.frames.toNat = pipeline.statistics.frames.toNat + 1 := by
  have commits : (pipeline.commit : Act σ τ _).Ensures fun committed =>
      committed.statistics.frames.toNat = pipeline.statistics.frames.toNat + 1 := by
    intro rig committed after calls gives
    obtain ⟨clock, frames, -, counts, rfl, -, -⟩ := commit_gives_iff.1 gives
    exact (Checked.next64_eq_ok_iff.1 counts).2
  exact commits.bind fun committed counted => bind_ensures fun drawn => ensures_pure counted

/-- A fault in drawing the only frame that waits ends the drawing. -/
theorem drawPending_faults [Surface τ] {scale : UInt32} {handoff : Handoff} {clock : Instant}
    {frame : Frame} {fault : Fault} (single : handoff.queue.items = [(clock, frame)])
    (newer : Handoff.IsNewer handoff.lastClock clock)
    (cut : Surface.draw frame scale rig.display = .error fault) :
    (drawPending scale handoff : Act σ τ _).Faults rig fault := by
  rw [drawPending_of_some (Handoff.next_of_single single newer)]
  refine (Act.gives_ofNoted ⟨(), handoff.next.notes⟩ rig).bind_faults ?_
  have presents : (Act.present (.draw frame scale) : Act σ τ _).Faults rig fault :=
    Act.faults_present cut
  exact presents.bind

variable [Clockwork]

theorem publish_faults [Surface τ] {fault : Fault}
    (timely : pipeline.Timely) (steady : pipeline.Steady)
    (countable : pipeline.statistics.frames.toNat + 1 < 2 ^ 64)
    (cut : Surface.draw pipeline.staging pipeline.scale rig.display = .error fault) :
    (pipeline.publish : Act σ τ _).Faults rig fault := by
  obtain ⟨clock, frames, commits, -, newer, -⟩ := commit_gives timely steady countable rig
  refine commits.bind_faults (Act.Faults.bind ?_)
  exact drawPending_faults rfl newer cut

/-! ## §4 The whole tick

From the parts to the tick, for the ways in which it can go wrong. -/

variable [NativeCore σ] [Surface τ]

/-- A tick counts at most one frame. -/
theorem tick_frames (pipeline : Pipeline) (lifecycle : Lifecycle) :
    (pipeline.tick lifecycle : Act σ τ _).Ensures fun given =>
      given.2.statistics.frames = pipeline.statistics.frames ∨
        given.2.statistics.frames.toNat = pipeline.statistics.frames.toNat + 1 := by
  unfold tick
  cases lifecycle with
  | empty => exact ensures_pure (.inl rfl)
  | loaded rom =>
    -- A frame is counted where it is published, so a tick that produces none counts none.
    have loaded : (pipeline.tickLoaded rom : Act σ τ _).Ensures fun given =>
        given.2.statistics.frames = pipeline.statistics.frames ∨
          given.2.statistics.frames.toNat = pipeline.statistics.frames.toNat + 1 := by
      rw [tickLoaded_eq]
      refine (produce_keeps pipeline rom).bind fun produced kept => ?_
      obtain ⟨produces, produced⟩ := produced
      cases produces with
      | error cause => exact ensures_pure (.inl kept.frames)
      | ok =>
        rw [← kept.frames]
        exact (publish_frames produced).mono fun _ counted => .inr counted
    exact loaded.bind fun given counted => ensures_pure counted

/-- A tick that produces a picture ends with the fault of drawing it. -/
theorem tick_faults {current : LoadedRom} {status : Int32} {addr : UInt32}
    {machine : Machine σ} {fault : Fault} (timely : pipeline.Timely)
    (steady : pipeline.Steady) (countable : pipeline.Countable)
    (answers : pipeline.Answers current rig status addr machine)
    (cut : ∀ picture,
      Pictures picture current.screen (Surface.encoding rig.display) machine.memory addr →
      Surface.draw picture pipeline.scale rig.display = .error fault) :
    (pipeline.tick (.loaded current) : Act σ τ _).Faults rig fault := by
  obtain ⟨produced, stopwatch, produces, scale, -, produced_steady, stepped, pictures⟩ :=
    produce_gives steady countable answers
  have countable : produced.statistics.frames.toNat + 1 < 2 ^ 64 := by
    rw [stepped.frames]
    exact countable.frames
  have cut := cut _ pictures
  rw [← scale] at cut
  have publishes : (produced.publish : Act σ τ _).Faults ⟨machine, rig.display, stopwatch⟩ fault :=
    publish_faults (timely.of_frames steady produced_steady stepped.frames) produced_steady
      countable cut
  have ticks : (pipeline.tickLoaded current : Act σ τ _).Faults rig fault := by
    rw [tickLoaded_eq]
    exact produces.bind_faults publishes
  exact ticks.bind

/-- A tick that produces a picture for which the clock has no time left ends there. -/
theorem tick_late {current : LoadedRom} {status : Int32} {addr : UInt32}
    {machine : Machine σ} (late : ¬ pipeline.Timely) (steady : pipeline.Steady)
    (countable : pipeline.Countable)
    (answers : pipeline.Answers current rig status addr machine) :
    (pipeline.tick (.loaded current) : Act σ τ _).Faults rig .overflow := by
  obtain ⟨produced, stopwatch, produces, -, -, produced_steady, stepped, -⟩ :=
    produce_gives steady countable answers
  -- Producing a picture does not move the clock.
  have still_late : ¬ produced.Timely := fun timely =>
    late (timely.of_frames produced_steady steady stepped.frames.symm)
  have stops : produced.clock.advance produced.period = .error .overflow := if_neg still_late
  -- The commit stops before anything is shown.
  have commits : (produced.commit : Act σ τ _).Faults ⟨machine, rig.display, stopwatch⟩
      .overflow := (faults_ofFaulty stops _).bind
  have ticks : (pipeline.tickLoaded current : Act σ τ _).Faults rig .overflow := by
    rw [tickLoaded_eq]
    exact produces.bind_faults commits.bind
  exact ticks.bind

/-- A tick calls the core and draws. -/
theorem tick_moves (pipeline : Pipeline) (lifecycle : Lifecycle) :
    (pipeline.tick lifecycle : Act σ τ _).MovesBy Request.IsFrame SurfaceRequest.IsDraw := by
  unfold tick
  cases lifecycle with
  | empty => exact movesBy_pure _
  | loaded rom =>
    refine MovesBy.bind ?_ fun _ => movesBy_pure _
    rw [tickLoaded_eq]
    refine (produce_moves pipeline rom).bind fun produced => ?_
    obtain ⟨produces, produced⟩ := produced
    cases produces with
    | error cause => exact movesBy_pure _
    | ok => exact publish_moves (fun _ _ => trivial) produced

end Handheld.Pipeline

namespace Handheld.Emulator

theorem tick_moves [Clockwork] {σ τ : Type} [NativeCore σ] [Surface τ] (emulator : Emulator) :
    (emulator.tick : Act σ τ _).MovesBy Request.IsFrame SurfaceRequest.IsDraw :=
  (emulator.pipeline.tick_moves emulator.lifecycle).bind fun _ => Act.movesBy_pure _

end Handheld.Emulator
