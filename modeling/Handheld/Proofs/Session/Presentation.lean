import Mathlib.Data.List.Basic
import Handheld.Bench.Core
import Handheld.Proofs.Session.Production
import Handheld.Rehearsal.Platform
import Handheld.Rehearsal.Stage

/-!
# Presentation in Order

A renderer is a lifecycle and a pipeline that work on one rig.  Its turns are loads, unloads,
resets and ticks, in any order.  What a turn commits is drawn in the same turn, once and with the
pipeline's scale, whatever the core and the surface answer; so the draws of a run are its committed
frames in their order.  The invariant that carries this from turn to turn is `Pipeline.Steady`.
-/

namespace Handheld

/-! ## §1 Draws

The draws of a run are read off its journal, whatever the surface has answered. -/

/-- The picture that the surface is asked to draw, with its scale. -/
def SurfaceRequest.drawn? : SurfaceRequest → Option (Frame × UInt32)
  | .resize _ _ => none
  | .draw frame scale => some (frame, scale)

/-- What the surface was asked to draw in a run, whatever its answers were. -/
def Journal.draws (journal : Journal) : List (Frame × UInt32) :=
  journal.surfaceRequests.filterMap SurfaceRequest.drawn?

@[simp] theorem Journal.draws_append (first second : Journal) :
    Journal.draws (first ++ second) = Journal.draws first ++ Journal.draws second := by
  simp only [draws, surfaceRequests_append, List.filterMap_append]

/-- Diagnostics draw nothing. -/
theorem Journal.draws_exchanges (journal : Journal) :
    Journal.draws journal.exchanges = journal.draws := by
  unfold draws
  rw [surfaceRequests_exchanges]

/-- Every draw has been answered. -/
theorem Journal.exists_of_mem_draws {journal : Journal} {frame : Frame} {scale : UInt32}
    (drawn : (frame, scale) ∈ journal.draws) :
    ∃ answer, .surface (.draw frame scale) answer ∈ journal := by
  obtain ⟨request, hrequest, hframe⟩ := List.mem_filterMap.1 drawn
  obtain ⟨entry, hentry, hshown⟩ := List.mem_filterMap.1 hrequest
  -- Of all entries only a request to the surface can stand for a draw.
  cases entry with
  | native | host | diagnostic => cases hshown
  | surface asked answer =>
    obtain rfl := Option.some.inj hshown
    cases asked with
    | resize => cases hframe
    | draw =>
      cases hframe
      exact ⟨answer, hentry⟩

/-- An act that does not draw draws nothing. -/
theorem Act.MovesBy.draws_nothing {σ τ α : Type} [NativeCore σ] [Surface τ] {act : Act σ τ α}
    {calls : Request → Prop} {shows : SurfaceRequest → Prop} {rig : Rig σ τ}
    {outcome : Outcome σ τ α} (moves : act.MovesBy calls shows)
    (others : ∀ frame scale, ¬ shows (.draw frame scale)) (run : act.run rig = .ok outcome) :
    outcome.journal.draws = [] := by
  rw [← Journal.draws_exchanges]
  apply List.filterMap_eq_nil_iff.2
  intro request hrequest
  obtain ⟨entry, hentry, shown⟩ := List.mem_filterMap.1 hrequest
  -- Every exchange of the act is of the given kinds, a request to the surface as well.
  have kind := (moves.of_run run).kinds entry hentry
  cases entry with
  | native | host | diagnostic => cases shown
  | surface asked answer =>
    obtain rfl := Option.some.inj shown
    cases asked with
    | resize => rfl
    | draw => exact absurd kind (others _ _)

/-! ## §2 Turns

A renderer is what is left of a controller without the events of a user, so that its resets may
stand anywhere. -/

/-- A lifecycle and a pipeline. -/
structure Renderer where
  lifecycle : Lifecycle
  pipeline : Pipeline

/-- What can be done with a renderer. -/
inductive Turn
  | load (image : Bytes) (scale : UInt32)
  | unload
  | reset (width height : UInt32)
  | tick
deriving DecidableEq, Repr

/-- What a turn gives if it succeeds. -/
@[reducible] def Turn.Answer : Turn → Type
  | .load _ _ => Screen
  | .tick => Bool
  | .unload | .reset _ _ => Unit

/-- What one turn has committed to the hand-off and what it has drawn. -/
structure Take where
  committed : Option Frame
  draws : List (Frame × UInt32)
deriving DecidableEq, Repr

/-- The frame that a tick commits: the one that it has produced. -/
def Pipeline.committed? {σ τ : Type} [NativeCore σ] [Surface τ] (pipeline : Pipeline)
    (rom : LoadedRom) (rig : Rig σ τ) : Option Frame :=
  match (pipeline.produce rom).run rig with
  | .ok ⟨(.ok (), produced), _, _⟩ => some produced.staging
  | .ok ⟨(.error _, _), _, _⟩ | .error _ => none

namespace Renderer

variable [Clockwork] {σ τ : Type} [NativeCore σ] [Surface τ]

/-- Takes a turn and gives its answer. -/
def answer (renderer : Renderer) :
    (turn : Turn) → Act σ τ (Except Error turn.Answer × Renderer)
  | .load image scale => do
    let (answer, lifecycle) ← renderer.lifecycle.load image scale
    return (answer, { renderer with lifecycle })
  | .unload => do
    let (answer, lifecycle) ← renderer.lifecycle.unload
    return (answer, { renderer with lifecycle })
  | .reset width height => do
    let pipeline ← Act.ofFaulty (renderer.pipeline.reset width height)
    return (.ok (), { renderer with pipeline })
  | .tick => do
    let (answer, pipeline) ← renderer.pipeline.tick renderer.lifecycle
    return (answer, { renderer with pipeline })

/-- Takes a turn, whether or not it fails. -/
def perform (renderer : Renderer) (turn : Turn) : Act σ τ Renderer := do
  return (← renderer.answer turn).2

/-- The frame that a turn commits.  Only a tick with a rom commits any. -/
def committed? (renderer : Renderer) (rig : Rig σ τ) : Turn → Option Frame
  | .load _ _ | .unload | .reset _ _ => none
  | .tick => renderer.lifecycle.current?.bind fun rom => renderer.pipeline.committed? rom rig

/-- Takes turns one after another and keeps a record of them. -/
def takeTurns (renderer : Renderer) (rig : Rig σ τ) :
    List Turn → Except Interruption (List Take × Renderer × Rig σ τ)
  | [] => return ([], renderer, rig)
  | turn :: turns => do
    let outcome ← (renderer.perform turn).run rig
    let (takes, last, after) ← outcome.value.takeTurns outcome.rig turns
    return (⟨renderer.committed? rig turn, outcome.journal.draws⟩ :: takes, last, after)

end Renderer

/-! ## §3 Publishing

A frame waits from its commit to its draw only.  It is newer than all that have been shown, so it is
never stale. -/

namespace Pipeline

open Act

variable {σ τ : Type} {pipeline : Pipeline} {rig after : Rig σ τ} {result : Except Error Unit}
  {calls : List Entry}

/-- A frame that waits alone and is newer than all that have been shown is drawn once, whatever
the surface answers, and then nothing waits. -/
theorem drawPending_draws [Surface τ] {scale : UInt32} {handoff rest : Handoff} {clock : Instant}
    {frame : Frame} (single : handoff.queue.items = [(clock, frame)])
    (newer : Handoff.IsNewer handoff.lastClock clock)
    (gives : (drawPending scale handoff).Gives rig (result, rest) after calls) :
    Journal.draws calls = [(frame, scale)] ∧ rest.queue.items = [] ∧
      rest.lastClock = some clock := by
  have taken := gives
  rw [drawPending_of_some (Handoff.next_of_single single newer)] at taken
  obtain ⟨_, _, _, _, noted, draws, -⟩ := gives_bind_iff.1 taken
  obtain ⟨-, rfl, -⟩ := gives_ofNoted_iff.1 noted
  obtain ⟨given, _, _, _, presents, -, -⟩ := gives_bind_iff.1 draws
  -- The answer of the surface decides the rest.
  obtain ⟨answer, display, performed, -, -, -⟩ := gives_present_iff.1 presents
  obtain ⟨journal, run, rfl⟩ := gives
  obtain ⟨value, -, drawn⟩ := (drawPending_gives single newer performed).outcome_eq run
  cases value
  rw [drawn]
  exact ⟨rfl, rfl, rfl⟩

/-- A frame that a steady pipeline commits waits alone, and it is newer than all that have been
shown. -/
theorem Steady.of_commit [Clockwork] {committed : Pipeline} (steady : pipeline.Steady)
    (commits : (pipeline.commit).Gives rig committed after calls) :
    committed.handoff.queue.items = [(committed.clock, pipeline.staging)] ∧
      Handoff.IsNewer committed.handoff.lastClock committed.clock := by
  obtain ⟨clock, frames, advances, -, rfl, rfl, rfl⟩ := commit_gives_iff.1 commits
  obtain ⟨-, rfl⟩ := Instant.advance_eq_ok_iff.1 advances
  -- Nothing has been waiting, so the new frame is all that waits.
  have added := Handoff.add_of_empty steady.waiting
    ⟨pipeline.clock.femtos + pipeline.period.femtos⟩ pipeline.staging
  refine ⟨congrArg (·.queue.items) added, ?_⟩
  intro shown hshown
  have hshown : shown ∈ pipeline.handoff.lastClock := by
    rwa [congrArg Handoff.lastClock added] at hshown
  -- What has been shown was not newer than the old clock.
  have old := steady.shown shown hshown
  have period : 0 < pipeline.period.femtos := by
    rw [steady.period]
    exact Clockwork.refresh_pos
  show shown.femtos < pipeline.clock.femtos + pipeline.period.femtos
  omega

/-- A steady pipeline draws what it publishes, and nothing else, and is steady again. -/
theorem Steady.publish [Clockwork] [Surface τ] {published : Pipeline} (steady : pipeline.Steady)
    (gives : (pipeline.publish).Gives rig (result, published) after calls) :
    Journal.draws calls = [(pipeline.staging, pipeline.scale)] ∧ published.Steady ∧
      published.scale = pipeline.scale := by
  -- The number of frames is read off before the parts of the publication are taken apart.
  have counted := publish_frames pipeline gives
  unfold Pipeline.publish at gives
  obtain ⟨committed, _, _, _, commits, shows, rfl⟩ := gives_bind_iff.1 gives
  obtain ⟨single, newer⟩ := steady.of_commit commits
  obtain ⟨clock, frames, advances, -, rfl, rfl, rfl⟩ := commit_gives_iff.1 commits
  obtain ⟨-, rfl⟩ := Instant.advance_eq_ok_iff.1 advances
  obtain ⟨⟨answer, rest⟩, _, _, _, drawn, returned, rfl⟩ := gives_bind_iff.1 shows
  obtain ⟨made, rfl, rfl⟩ := gives_pure_iff.1 returned
  cases made
  obtain ⟨draws, waiting, shown⟩ := drawPending_draws single newer drawn
  -- The clock of the pipeline and that of the frame shown last are those of the commit.
  refine ⟨by simpa using draws, ⟨steady.period, ?_, waiting, ?_⟩, rfl⟩
  · show pipeline.clock.femtos + pipeline.period.femtos = _
    rw [counted, steady.clock, steady.period, Nat.succ_mul]
  · intro last hlast
    rw [shown] at hlast
    cases hlast
    exact Nat.le_refl _

end Pipeline

/-! ## §4 One turn

A turn commits and draws one frame, or neither. -/

namespace Pipeline

open Act

variable [Clockwork] {σ τ : Type} {pipeline : Pipeline} {rig : Rig σ τ}

/-- What one turn does to a pipeline: what it commits is counted and drawn. -/
structure Presents (before : Pipeline) (committed : Option Frame) (draws : List (Frame × UInt32))
    (after : Pipeline) : Prop where
  steady : after.Steady
  scale : after.scale = before.scale
  frames : after.statistics.frames.toNat =
    before.statistics.frames.toNat + committed.toList.length
  draws : draws = committed.toList.map (·, before.scale)

/-- A turn that leaves the pipeline as it is draws nothing. -/
theorem Steady.presents_nothing (steady : pipeline.Steady) {draws : List (Frame × UInt32)}
    (nothing : draws = []) : Presents pipeline none draws pipeline :=
  ⟨steady, rfl, rfl, nothing⟩

theorem Steady.tickLoaded [NativeCore σ] [Surface τ] {rom : LoadedRom}
    {outcome : Outcome σ τ (Except Error Unit × Pipeline)} (steady : pipeline.Steady)
    (run : (pipeline.tickLoaded rom).run rig = .ok outcome) :
    Presents pipeline (pipeline.committed? rom rig) outcome.journal.draws outcome.value.2 := by
  rw [tickLoaded_eq] at run
  obtain ⟨⟨⟨result, produced⟩, middle, journal⟩, last, hproduce, hnext, rfl⟩ :=
    run_bind_eq_ok_iff.1 run
  have kept := produce_keeps pipeline rom (.of_run hproduce)
  have shows_nothing : (pipeline.produce rom : Act σ τ _).MovesBy _ fun _ => False :=
    produce_moves pipeline rom
  -- Producing a frame draws nothing, so all draws are those of its publication.
  have quiet : Journal.draws journal = [] :=
    shows_nothing.draws_nothing (fun _ _ => not_false) hproduce
  unfold committed?
  rw [hproduce]
  simp only [Journal.draws_append, quiet, List.nil_append]
  cases result with
  -- A frame that has not been produced is not committed.
  | error cause =>
    obtain rfl := Except.ok.inj hnext
    refine ⟨steady.of_kept kept, kept.scale, ?_, rfl⟩
    rw [kept.frames]
    rfl
  | ok =>
    obtain ⟨draws, published, scale⟩ := (steady.of_kept kept).publish (.of_run hnext)
    rw [Journal.draws_exchanges, kept.scale] at draws
    refine ⟨published, scale.trans kept.scale, ?_, draws⟩
    rw [publish_frames produced (.of_run hnext), kept.frames]
    rfl

end Pipeline

namespace Renderer

open Act

variable {σ τ : Type} [NativeCore σ] [Surface τ] {renderer : Renderer} {rig : Rig σ τ}

theorem perform_presents [Clockwork] {turn : Turn} {outcome : Outcome σ τ Renderer}
    (steady : renderer.pipeline.Steady) (run : (renderer.perform turn).run rig = .ok outcome) :
    renderer.pipeline.Presents (renderer.committed? rig turn) outcome.journal.draws
      outcome.value.pipeline := by
  obtain ⟨answered, hanswer, rfl⟩ := run_map_eq_ok_iff.1 run
  cases turn with
  | load image scale =>
    obtain ⟨inner, hload, rfl⟩ := run_map_eq_ok_iff.1 hanswer
    exact steady.presents_nothing <|
      (renderer.lifecycle.load_tends image scale).draws_nothing (fun _ _ => not_false) hload
  | unload =>
    obtain ⟨inner, hunload, rfl⟩ := run_map_eq_ok_iff.1 hanswer
    have shows_nothing : (renderer.lifecycle.unload : Act σ τ _).MovesBy _ fun _ => False :=
      renderer.lifecycle.unload_tends
    exact steady.presents_nothing (shows_nothing.draws_nothing (fun _ _ => not_false) hunload)
  | reset width height =>
    -- A reset is no act; it leaves the scale and the number of frames.
    obtain ⟨inner, hreset, rfl⟩ := run_map_eq_ok_iff.1 hanswer
    obtain ⟨fresh, resets, rfl⟩ := run_ofFaulty_eq_ok_iff.1 hreset
    obtain ⟨fresh_steady, scale, statistics⟩ := steady.reset resets
    refine ⟨fresh_steady, scale, ?_, rfl⟩
    rw [statistics]
    rfl
  | tick =>
    obtain ⟨⟨⟨answer, ticked⟩, middle, journal⟩, htick, rfl⟩ := run_map_eq_ok_iff.1 hanswer
    unfold committed?
    unfold Pipeline.tick at htick
    cases hlifecycle : renderer.lifecycle with
    | empty =>
      rw [hlifecycle] at htick
      cases htick
      exact steady.presents_nothing rfl
    | loaded rom =>
      rw [hlifecycle] at htick
      obtain ⟨inner, hloaded, heq⟩ := run_map_eq_ok_iff.1 htick
      cases heq
      exact steady.tickLoaded hloaded

/-! ## §5 All turns

By induction on the turns: the invariant goes from one turn to the next, and the draws add up. -/

/-- What is true after some turns of a renderer that started with a steady pipeline. -/
theorem takeTurns_presents [Clockwork] {turns : List Turn} {takes : List Take} {last : Renderer}
    {after : Rig σ τ} (steady : renderer.pipeline.Steady)
    (run : renderer.takeTurns rig turns = .ok (takes, last, after)) :
    last.pipeline.Steady ∧ last.pipeline.scale = renderer.pipeline.scale ∧
      last.pipeline.statistics.frames.toNat = renderer.pipeline.statistics.frames.toNat +
        (takes.flatMap Take.draws).length ∧
      ∀ take ∈ takes, take.draws = take.committed.toList.map (·, renderer.pipeline.scale) := by
  induction turns generalizing renderer rig takes with
  | nil =>
    cases run
    exact ⟨steady, rfl, rfl, fun _ impossible => nomatch impossible⟩
  | cons turn turns ih =>
    -- The run of the other turns begins with the renderer and the rig that this turn leaves.
    unfold takeTurns at run
    cases hturn : (renderer.perform turn).run rig with
    | error cut =>
      rw [hturn] at run
      cases run
    | ok outcome =>
      rw [hturn] at run
      cases hrest : outcome.value.takeTurns outcome.rig turns with
      | error cut => simp [bind, Except.bind, hrest] at run
      | ok rest =>
        obtain ⟨others, final, display⟩ := rest
        simp only [bind, Except.bind, hrest] at run
        cases run
        obtain ⟨stays_steady, scale, frames, draws⟩ := perform_presents steady hturn
        obtain ⟨final_steady, final_scale, final_frames, final_draws⟩ := ih stays_steady hrest
        refine ⟨final_steady, final_scale.trans scale, ?_, ?_⟩
        -- The draws of all turns are those of the first and those of the others.
        · rw [final_frames, frames, List.flatMap_cons, List.length_append, draws, List.length_map,
            Nat.add_assoc]
        · intro take htake
          rcases List.mem_cons.1 htake with rfl | later
          · exact draws
          · rw [← scale]
            exact final_draws take later

/-- Between the turns of a renderer with a new pipeline the clock tells the number of frames,
nothing waits, and what was shown last is not newer than the clock.  As many pictures have been
drawn as frames are counted; they are the committed frames in their order, each drawn in the turn
that committed it. -/
theorem frames_presented_in_order [Clockwork] {lifecycle : Lifecycle} {scale : UInt32}
    {stepMode : StepMode} {turns : List Turn} {takes : List Take} {last : Renderer}
    {after : Rig σ τ}
    (run : takeTurns ⟨lifecycle, { scale, stepMode }⟩ rig turns = .ok (takes, last, after)) :
    last.pipeline.period = Clockwork.refresh ∧
      last.pipeline.clock.femtos = Instant.start.femtos +
        last.pipeline.statistics.frames.toNat * last.pipeline.period.femtos ∧
      last.pipeline.handoff.queue.items = [] ∧
      (∀ shown ∈ last.pipeline.handoff.lastClock,
        shown.femtos ≤ last.pipeline.clock.femtos) ∧
      (takes.flatMap Take.draws).length = last.pipeline.statistics.frames.toNat ∧
      takes.flatMap Take.draws = (takes.filterMap Take.committed).map (·, scale) ∧
      ∀ take ∈ takes, take.draws = take.committed.toList.map (·, scale) := by
  obtain ⟨steady, -, frames, draws⟩ :=
    takeTurns_presents (Pipeline.steady_new scale stepMode) run
  refine ⟨steady.period, ?_, steady.waiting, steady.shown, ?_, ?_, draws⟩
  · rw [steady.clock, steady.period]
    exact (Nat.zero_add _).symm
  · rw [frames]
    exact (Nat.zero_add _).symm
  -- Each turn draws what it commits, so the draws of all turns are what they commit, in order.
  · rw [List.filterMap_eq_flatMap_toList, List.map_flatMap]
    exact List.flatMap_congr draws

/-- The bench core fails its third step, and the stage its second draw. -/
def flakyRig : Rig (Scripted Bench) Stage where
  machine.memory := Array.replicate 64 0
  machine.state :=
    Scripted.setScript { inner := { heapSize := 64, screen := ⟨1, 1⟩ } } .step
      [.pass, .pass, .fail (.native "busy")]
  display := { canvas := .new .rgba, draws := [.pass, .fail (.specific "lost")] }

/-- A draw fails, a step fails, and another rom is loaded behind a reset. -/
def unevenTurns : List Turn :=
  [.tick, .load #[7] 1, .tick, .tick, .reset 3 2, .tick, .load #[8] 1, .tick, .unload]

theorem frames_presented_in_order_of_failures :
    ∃ takes last after,
      takeTurns ⟨.empty, { scale := 1, stepMode := .vsync }⟩ flakyRig unevenTurns =
        .ok (takes, last, after) ∧
      takes.map (·.committed.isSome) =
        [false, false, true, true, false, false, false, true, false] ∧
      (takes.flatMap Take.draws).length = last.pipeline.statistics.frames.toNat ∧
      takes.flatMap Take.draws = (takes.filterMap Take.committed).map (·, 1) := by
  obtain ⟨⟨takes, last, after⟩, run, commits⟩ :
      ∃ result, takeTurns ⟨.empty, { scale := 1, stepMode := .vsync }⟩ flakyRig unevenTurns =
          .ok result ∧
        result.1.map (·.committed.isSome) =
          [false, false, true, true, false, false, false, true, false] := by
    apply Checked.exists_of_any
    decide +kernel
  obtain ⟨-, -, -, -, counted, drawn, -⟩ := frames_presented_in_order run
  exact ⟨takes, last, after, run, commits, counted, drawn⟩

end Renderer

end Handheld
