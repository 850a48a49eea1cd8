import Handheld.Proofs.Session.Presentation
import Handheld.Rehearsal.Platform

/-!
# Every Frame That Is Drawn Is the Picture

The staging frame of a pipeline is used again and again: it keeps its pixels when it is resized,
it is relabelled before anything is copied into it, and a tick that fails leaves it half prepared.
Nevertheless a frame that is drawn is the core's picture and nothing else
(`Pipeline.Reachable.draws_capture`).

- `Portrays` says that a frame is the picture of a screen that lies in memory at an address;
- `Pipeline.Captures` says that it is the picture that the core gives in this tick;
- `Pipeline.Reachable` are the pipelines that any history leads to.
-/

namespace Handheld

/-! ## §1 Pictures in memory

What it is to be the picture of a screen: size, encoding and every pixel are fixed, so two frames
that portray one picture are equal. -/

/-- The frame is the picture of a screen that lies in memory at an address, every pixel of it, and
there is no other pixel. -/
structure Portrays (frame : Frame) (screen : Screen) (wanted : PixelEncoding) (memory : Bytes)
    (addr : UInt32) : Prop where
  width : frame.width = screen.width
  height : frame.height = screen.height
  encoding : frame.encoding = wanted
  size : frame.bitmap.size = pixelCount screen.width screen.height
  pixels : ∀ i < pixelCount screen.width screen.height, ∃ red green blue alpha,
    Frame.HoldsPixel memory (addr.toNat + 4 * i) red green blue alpha ∧
      frame.bitmap[i]? = some ((Pixel.rgba red green blue alpha).encode wanted)

/-- There is one picture at most. -/
theorem Portrays.unique {first second : Frame} {screen : Screen} {wanted : PixelEncoding}
    {memory : Bytes} {addr : UInt32} (portrays : Portrays first screen wanted memory addr)
    (other : Portrays second screen wanted memory addr) : first = second := by
  have bitmaps : first.bitmap = second.bitmap := by
    refine Array.ext (portrays.size.trans other.size.symm) fun i hi hj => ?_
    have inside : i < pixelCount screen.width screen.height := portrays.size ▸ hi
    obtain ⟨red, green, blue, alpha, holds, pixel⟩ := portrays.pixels i inside
    obtain ⟨red', green', blue', alpha', holds', pixel'⟩ := other.pixels i inside
    -- The same bytes hold both pixels.
    obtain rfl := Option.some.inj (holds.red.symm.trans holds'.red)
    obtain rfl := Option.some.inj (holds.green.symm.trans holds'.green)
    obtain rfl := Option.some.inj (holds.blue.symm.trans holds'.blue)
    obtain rfl := Option.some.inj (holds.alpha.symm.trans holds'.alpha)
    rw [Array.getElem?_eq_getElem hi] at pixel
    rw [Array.getElem?_eq_getElem hj] at pixel'
    exact Option.some.inj (pixel.trans pixel'.symm)
  -- Everything else of a picture is the size and the encoding that both have been given.
  obtain ⟨width, height, encoding, bitmap⟩ := first
  obtain ⟨width', height', encoding', bitmap'⟩ := second
  obtain rfl : width = width' := portrays.width.trans other.width.symm
  obtain rfl : height = height' := portrays.height.trans other.height.symm
  obtain rfl : encoding = encoding' := portrays.encoding.trans other.encoding.symm
  obtain rfl : bitmap = bitmap' := bitmaps
  rfl

namespace Pipeline

open Act

variable {σ τ : Type} {pipeline : Pipeline} {rig after : Rig σ τ} {made : List Entry}

theorem Pictures.portrays {frame : Frame} {screen : Screen} {wanted : PixelEncoding}
    {memory : Bytes} {addr : UInt32} (pictures : Pictures frame screen wanted memory addr)
    (inside : addr.toNat + 4 * pixelCount screen.width screen.height ≤ memory.size) :
    Portrays frame screen wanted memory addr := by
  obtain ⟨wellFormed, width, height, encoding, pixels⟩ := pictures
  refine ⟨width, height, encoding, ?_, fun i hi => ?_⟩
  · rw [wellFormed, width, height]
  · have there : addr.toNat + 4 * i + 4 ≤ memory.size := by omega
    obtain ⟨red, green, blue, alpha, holds⟩ := Frame.exists_holdsPixel there
    exact ⟨red, green, blue, alpha, holds, pixels i hi red green blue alpha holds⟩

/-! ## §2 Producing a frame

A frame that has been produced has gone through every part of the production, and none of its pixels
is older. -/

/-- A picture that is fetched has a size that a frame can have, and it lies inside of memory. -/
theorem room_of_fetch [Surface τ] {screen : Screen} {addr : UInt32} {fetched : Pipeline}
    (gives : (pipeline.fetch screen addr).Gives rig (.ok (), fetched) after made) :
    4 * pixelCount screen.width screen.height ≤ Checked.maxBufferBytes ∧
      addr.toNat + 4 * pixelCount screen.width screen.height ≤ rig.machine.memory.size := by
  -- A fetch that has succeeded has come through all of its parts, so each of them has succeeded.
  unfold fetch at gives
  obtain ⟨wanted, _, _, _, wants, rest, -⟩ := gives_bind_iff.1 gives
  obtain ⟨-, rfl, -⟩ := gives_encoding_iff.1 wants
  obtain ⟨prepared, _, _, _, made_ready, views, -⟩ := gives_bind_iff.1 rest
  obtain ⟨prepares, rfl, -⟩ := gives_ofFaulty_iff.1 made_ready
  obtain ⟨view, _, _, _, viewed, copies, -⟩ := gives_bind_iff.1 views
  obtain ⟨memory, remembers, rfl⟩ := gives_map_iff.1 viewed
  obtain ⟨rfl, rfl, -⟩ := gives_memory_iff.1 remembers
  obtain ⟨staging, resizes, -⟩ := Checked.bind_eq_ok_iff.1 prepares
  have room := Frame.room_of_resize resizes
  refine ⟨room, ?_⟩
  rw [← Screen.frameBytes_of_room room]
  -- A view that is refused would have ended the fetch.
  cases hview : Memory.view _ addr screen.frameBytes with
  | error cause =>
    rw [hview] at copies
    cases (gives_pure_iff.1 copies).1
  | ok bytes => exact Memory.inside_of_view hview

theorem fetch_portrays [Surface τ] {screen : Screen} {addr : UInt32} {fetched : Pipeline}
    (gives : (pipeline.fetch screen addr).Gives rig (.ok (), fetched) after made) :
    after = rig ∧
      Portrays fetched.staging screen (Surface.encoding rig.display) rig.machine.memory addr := by
  obtain ⟨room, inside⟩ := room_of_fetch gives
  obtain ⟨staging, fetches, pictures⟩ :
      ∃ staging, (pipeline.fetch screen addr).Gives rig _ rig [] ∧
        Pictures staging screen _ _ addr := fetch_gives room inside
  obtain ⟨journal, run, -⟩ := gives
  obtain ⟨hvalue, hafter, -⟩ := fetches.outcome_eq run
  cases hvalue
  exact ⟨hafter, pictures.portrays inside⟩

/-- The core makes the step, says where its picture is, and the frame portrays the picture that
lies there right then, in the encoding that the surface wants. -/
def Captures [NativeCore σ] [Surface τ] (pipeline : Pipeline) (rom : LoadedRom) (rig : Rig σ τ)
    (frame : Frame) : Prop :=
  ∃ status stepped addr machine,
    NativeCore.answer (.step rom.handle pipeline.stepMode) rig.machine =
      .ok (.ok status, stepped) ∧
    NativeCore.answer (.screenPointer rom.handle) stepped = .ok (.ok addr, machine) ∧
    Portrays frame rom.screen (Surface.encoding rig.display) machine.memory addr

theorem rig_of_countFault {status : Int32} {counted : Pipeline}
    (gives : (pipeline.countFault status).Gives rig counted after made) : after = rig := by
  unfold countFault at gives
  split at gives
  · exact (gives_pure_iff.1 gives).2.1
  · obtain ⟨_, _, _, _, notes, rest, -⟩ := gives_bind_iff.1 gives
    obtain ⟨rfl, -⟩ := gives_note_iff.1 notes
    obtain ⟨faults, counts, -⟩ := gives_map_iff.1 rest
    exact (gives_ofFaulty_iff.1 counts).2.1

theorem answer_of_step [NativeCore σ] {handle : Handle} {stepped : Pipeline}
    (gives : (pipeline.step handle).Gives rig (.ok (), stepped) after made) :
    (∃ status, NativeCore.answer (.step handle pipeline.stepMode) rig.machine =
      .ok (.ok status, after.machine)) ∧ after.display = rig.display := by
  unfold step at gives
  obtain ⟨start, _, _, _, starts, rest, -⟩ := gives_bind_iff.1 gives
  obtain ⟨-, rfl, -⟩ := gives_readStopwatch_iff.1 starts
  obtain ⟨answer, _, _, _, asks, stops, -⟩ := gives_bind_iff.1 rest
  obtain ⟨machine, answered, rfl, -⟩ := gives_ask_iff.1 asks
  cases answer with
  | error cause => cases (gives_pure_iff.1 stops).1
  | ok status =>
    obtain ⟨stop, _, _, _, reads, counts, -⟩ := gives_bind_iff.1 stops
    obtain ⟨-, rfl, -⟩ := gives_readStopwatch_iff.1 reads
    obtain ⟨stopped, _, _, _, stopped_at, counted, -⟩ := gives_bind_iff.1 counts
    obtain ⟨-, rfl, -⟩ := gives_ofFaulty_iff.1 stopped_at
    obtain ⟨final, counted, -⟩ := gives_map_iff.1 counted
    obtain rfl := rig_of_countFault counted
    exact ⟨⟨status, answered⟩, rfl⟩

/-- A frame that a tick produces is the picture, whatever the staging frame was before. -/
theorem captures_of_produce [NativeCore σ] [Surface τ] {rom : LoadedRom} {produced : Pipeline}
    (gives : (pipeline.produce rom).Gives rig (.ok (), produced) after made) :
    pipeline.Captures rom rig produced.staging ∧ after.display = rig.display := by
  unfold produce at gives
  obtain ⟨⟨result, stepped⟩, _, _, _, steps, asks, -⟩ := gives_bind_iff.1 gives
  cases result with
  -- The tick has got a picture, so neither the step nor the question can have failed.
  | error cause => cases (gives_pure_iff.1 asks).1
  | ok =>
    obtain ⟨⟨status, stepped_ok⟩, same⟩ := answer_of_step steps
    obtain ⟨answer, _, _, _, asked, fetches, -⟩ := gives_bind_iff.1 asks
    obtain ⟨machine, answered, rfl, -⟩ := gives_ask_iff.1 asked
    cases answer with
    | error cause => cases (gives_pure_iff.1 fetches).1
    | ok addr =>
      obtain ⟨rfl, portrays⟩ := fetch_portrays fetches
      -- The surface wants the encoding that it wanted before the step.
      dsimp only at portrays ⊢
      rw [same] at portrays
      exact ⟨⟨status, _, addr, machine, stepped_ok, answered, portrays⟩, same⟩

/-! ## §3 Coming to the draw

The draw is the only request of a tick to the surface.  What the surface makes of it cannot be put
off to a later tick, since nothing is left waiting. -/

/-- The tick comes to its draw with a frame: it has produced the frame, and the frame's clock and
number are in range. -/
def ComesToDraw [Clockwork] [NativeCore σ] [Surface τ] (pipeline : Pipeline) (rom : LoadedRom)
    (rig : Rig σ τ) (frame : Frame) : Prop :=
  ∃ produced middle made committed last more,
    (pipeline.produce rom).Gives rig (.ok (), produced) middle made ∧
    produced.commit.Gives middle committed last more ∧ frame = produced.staging

section Draws

variable [NativeCore σ] [Surface τ] {rom : LoadedRom} {frame : Frame} {request : SurfaceRequest}
  {answer : Except HostError Unit}

/-- The only frame that waits is the only one that the surface is shown. -/
theorem drawn_of_drawPending {scale : UInt32} {handoff : Handoff} {clock : Instant}
    (single : handoff.queue.items = [(clock, frame)])
    (newer : Handoff.IsNewer handoff.lastClock clock)
    (shown : .surface request answer ∈ (drawPending scale handoff : Act σ τ _).journal rig) :
    request = .draw frame scale ∧
      ∃ display, Surface.draw frame scale rig.display = .ok (answer, display) := by
  rw [drawPending_of_some (Handoff.next_of_single single newer)] at shown
  -- The note comes first; it is no request.
  rcases mem_journal_bind shown with noted | ⟨_, notes, shown⟩
  · exact absurd noted (movesBy_ofNoted _).shows_nothing
  obtain rfl := Except.ok.inj notes
  rcases mem_journal_bind shown with presented | ⟨drawn, -, later⟩
  · obtain ⟨given, display, performed, same⟩ := mem_journal_present presented
    cases same
    exact ⟨rfl, display, performed⟩
  · -- Behind the draw the hand-off is empty.
    exfalso
    cases hdrawn : drawn.value with
    | error cause =>
      rw [hdrawn] at later
      exact (movesBy_pure _).shows_nothing later
    | ok =>
      rw [hdrawn] at later
      dsimp only at later
      rw [drawPending_of_none (Handoff.next_of_empty rfl)] at later
      exact ((movesBy_ofNoted _).bind fun _ => movesBy_pure _).shows_nothing later

/-- A steady pipeline shows the surface only the frame with which the tick comes to its draw, and
with the pipeline's scale. -/
theorem Steady.drawn [Clockwork] (steady : pipeline.Steady)
    (shown : .surface request answer ∈ (pipeline.tick (.loaded rom)).journal rig) :
    ∃ frame, request = .draw frame pipeline.scale ∧ pipeline.ComesToDraw rom rig frame ∧
      ∃ display, Surface.draw frame pipeline.scale rig.display = .ok (answer, display) := by
  -- A request to the surface stands in one of the parts of the tick, and only the draw can have
  -- made it.
  rcases mem_journal_bind shown with loaded | ⟨_, -, later⟩
  swap
  · exact absurd later (movesBy_pure _).shows_nothing
  rw [tickLoaded_eq] at loaded
  rcases mem_journal_bind loaded with produced | ⟨⟨⟨result, produced⟩, middle, made⟩, run, shown⟩
  -- Producing the frame calls the core only.
  · have calls_only : (pipeline.produce rom : Act σ τ _).MovesBy (fun _ => True) fun _ => False :=
      (produce_moves pipeline rom).mono (fun _ _ => trivial) fun _ => id
    exact absurd produced calls_only.shows_nothing
  dsimp only at shown
  cases result with
  | error cause => exact absurd shown (movesBy_pure _).shows_nothing
  | ok =>
    have kept := produce_keeps pipeline rom (.of_run run)
    obtain ⟨-, display⟩ := captures_of_produce (.of_run run)
    rcases mem_journal_bind shown with committed | ⟨committed, commits, shown⟩
    · exact absurd committed (commit_moves produced).shows_nothing
    have comes : pipeline.ComesToDraw rom rig produced.staging :=
      ⟨produced, middle, _, committed.value, _, _, .of_run run, .of_run commits, rfl⟩
    obtain ⟨single, newer⟩ := (steady.of_kept kept).of_commit (.of_run commits)
    obtain ⟨_, _, -, -, hcommitted, hrig, -⟩ := commit_gives_iff.1 (.of_run commits)
    rcases mem_journal_bind shown with drawn | ⟨_, -, later⟩
    swap
    · exact absurd later (movesBy_pure _).shows_nothing
    obtain ⟨rfl, shows⟩ := drawn_of_drawPending single newer drawn
    rw [hrig, display] at shows
    rw [show committed.value.scale = pipeline.scale by rw [hcommitted, kept.scale]] at shows ⊢
    exact ⟨produced.staging, rfl, comes, shows⟩

/-- Whatever the surface makes of a frame with which the tick comes to its draw, the tick ends with
it. -/
theorem Steady.draws [Clockwork] (steady : pipeline.Steady)
    (comes : pipeline.ComesToDraw rom rig frame) :
    (∀ fault, Surface.draw frame pipeline.scale rig.display = .error fault →
      (pipeline.tick (.loaded rom)).Faults rig fault) ∧
    ∀ answer display, Surface.draw frame pipeline.scale rig.display = .ok (answer, display) →
      ∃ value after calls, (pipeline.tick (.loaded rom)).Gives rig value after calls ∧
        .surface (.draw frame pipeline.scale) answer ∈ calls := by
  obtain ⟨produced, middle, made, committed, last, more, produces, commits, rfl⟩ := comes
  have kept := produce_keeps pipeline rom produces
  obtain ⟨-, same⟩ := captures_of_produce produces
  obtain ⟨single, newer⟩ := (steady.of_kept kept).of_commit commits
  obtain ⟨_, _, -, -, hcommitted, rfl, -⟩ := commit_gives_iff.1 commits
  have scale : committed.scale = pipeline.scale := by rw [hcommitted, kept.scale]
  -- On both sides the tick goes the same way up to the draw.
  rw [← same, ← scale]
  constructor
  · intro fault cut
    have publishes : (produced.publish : Act σ τ _).Faults last fault :=
      commits.bind_faults (Faults.bind (drawPending_faults single newer cut))
    have ticks : (pipeline.tickLoaded rom : Act σ τ _).Faults rig fault := by
      rw [tickLoaded_eq]
      exact produces.bind_faults publishes
    exact ticks.bind
  · intro answer display draws
    -- The answer of the surface only decides how the draw ends.
    obtain ⟨result, rest, after, drawn⟩ : ∃ result rest after,
        (drawPending committed.scale committed.handoff).Gives last (result, rest) after
          [.surface (.draw produced.staging committed.scale) answer] :=
      ⟨_, _, _, drawPending_gives single newer draws⟩
    have publishes : (produced.publish).Gives last (result, { committed with handoff := rest })
        after (more ++ [.surface (.draw produced.staging committed.scale) answer]) :=
      commits.bind (drawn.then_quietly (gives_pure _ _))
    have ticks : (pipeline.tick (.loaded rom)).Gives rig
        (result.map fun () => true, { committed with handoff := rest }) after
        (made ++ (more ++ [.surface (.draw produced.staging committed.scale) answer])) :=
      (tickLoaded_of_produced produces publishes).then_quietly (gives_pure _ _)
    exact ⟨_, _, _, ticks, by simp⟩

end Draws

/-! ## §4 Any history

A history may change the core, the surface and the rom with every tick.  All that is needed of the
pipeline is that it is steady, and this every reset and every tick keeps. -/

/-- The pipelines that a history of resets and ticks leads to.  A reset may be for any size, and
every tick may find another rom, another core and another surface. -/
inductive Reachable [Clockwork] : Pipeline → Prop
  | new (scale : UInt32) (stepMode : StepMode) : Reachable { scale, stepMode }
  | reset {pipeline fresh : Pipeline} {width height : UInt32} (reachable : Reachable pipeline)
      (resets : pipeline.reset width height = .ok fresh) : Reachable fresh
  | tick {σ τ : Type} [NativeCore σ] [Surface τ] {pipeline : Pipeline} {lifecycle : Lifecycle}
      {rig : Rig σ τ} {outcome : Outcome σ τ (Except Error Bool × Pipeline)}
      (reachable : Reachable pipeline) (ticks : (pipeline.tick lifecycle).run rig = .ok outcome) :
      Reachable outcome.value.2

theorem Steady.tick [Clockwork] [NativeCore σ] [Surface τ] {lifecycle : Lifecycle}
    {outcome : Outcome σ τ (Except Error Bool × Pipeline)} (steady : pipeline.Steady)
    (ticks : (pipeline.tick lifecycle).run rig = .ok outcome) :
    outcome.value.2.Steady ∧ outcome.value.2.scale = pipeline.scale := by
  cases lifecycle with
  | empty =>
    obtain rfl := Except.ok.inj ticks
    exact ⟨steady, rfl⟩
  | loaded rom =>
    obtain ⟨loaded, run, rfl⟩ := run_map_eq_ok_iff.1 ticks
    have presents := steady.tickLoaded run
    exact ⟨presents.steady, presents.scale⟩

theorem Reachable.steady [Clockwork] (reachable : pipeline.Reachable) : pipeline.Steady := by
  induction reachable with
  | new scale stepMode => exact steady_new scale stepMode
  | reset _ resets ih => exact (ih.reset resets).1
  | tick _ ticks ih => exact (ih.tick ticks).1

/-- Whatever the history of a pipeline, all that its tick shows the surface is the frame with which
it comes to its draw, and this frame is the picture that the core gives in this tick.  The surface
is shown the frame whenever the tick comes to its draw: its fault ends the tick, and its answer
stands in the journal. -/
theorem Reachable.draws_capture [Clockwork] [NativeCore σ] [Surface τ]
    (reachable : pipeline.Reachable) (rom : LoadedRom) (rig : Rig σ τ) :
    (∀ request answer, .surface request answer ∈ (pipeline.tick (.loaded rom)).journal rig →
      ∃ frame, request = .draw frame pipeline.scale ∧ pipeline.ComesToDraw rom rig frame) ∧
    ∀ frame, pipeline.ComesToDraw rom rig frame →
      pipeline.Captures rom rig frame ∧
      (∀ fault, Surface.draw frame pipeline.scale rig.display = .error fault →
        (pipeline.tick (.loaded rom)).Faults rig fault) ∧
      ∀ answer display, Surface.draw frame pipeline.scale rig.display = .ok (answer, display) →
        ∃ value after calls, (pipeline.tick (.loaded rom)).Gives rig value after calls ∧
          .surface (.draw frame pipeline.scale) answer ∈ calls := by
  refine ⟨fun request answer shown => ?_, fun frame comes => ⟨?_, reachable.steady.draws comes⟩⟩
  · obtain ⟨frame, drawn, comes, -⟩ := reachable.steady.drawn shown
    exact ⟨frame, drawn, comes⟩
  -- What the tick shows is what it has produced, and that has been captured from memory.
  · obtain ⟨produced, _, _, _, _, _, produces, -, rfl⟩ := comes
    exact (captures_of_produce produces).1

/-- A pipeline whose staging frame is larger than the screen and in another encoding. -/
def stalePipeline [Clockwork] : Pipeline where
  scale := 1
  stepMode := .vsync
  staging := ⟨3, 2, .rgba, Array.replicate 6 0⟩

/-- A rom with a screen of one point. -/
def pointRom : LoadedRom := ⟨⟨1, by decide⟩, ⟨16, 1, by decide⟩, ⟨1, 1⟩⟩

/-- A bench core that runs the rom, and a canvas of its size. -/
def pointStand : Rig Bench Canvas where
  machine := Bench.machine { heapSize := 64, screen := ⟨1, 1⟩, instances := [⟨1, by decide⟩] }
  display := { backing := ⟨1, 1, .argb, #[0]⟩ }

theorem draws_capture_of_stale_frame :
    stalePipeline.Reachable ∧
      (∃ answer, .surface (.draw ⟨1, 1, .argb, #[0xFF010000]⟩ 1) answer ∈
        (stalePipeline.tick (.loaded pointRom)).journal pointStand) ∧
      stalePipeline.Captures pointRom pointStand ⟨1, 1, .argb, #[0xFF010000]⟩ := by
  have reachable : stalePipeline.Reachable :=
    .reset (.new 1 .vsync) (show Pipeline.reset _ 3 2 = .ok stalePipeline from rfl)
  have drawn : ((stalePipeline.tick (.loaded pointRom)).journal pointStand).draws =
      [(⟨1, 1, .argb, #[0xFF010000]⟩, 1)] := by decide +kernel
  obtain ⟨answer, shown⟩ := Journal.exists_of_mem_draws (drawn ▸ List.mem_singleton_self _)
  obtain ⟨draws, comes⟩ := reachable.draws_capture pointRom pointStand
  obtain ⟨frame, same, reached⟩ := draws _ _ shown
  cases same
  exact ⟨reachable, ⟨answer, shown⟩, (comes _ reached).1⟩

end Pipeline

end Handheld
