import Handheld.Proofs.Loop.Handling
import Handheld.Proofs.Session.Resetting
import Handheld.Rehearsal.Platform

/-!
# The Statistics Count What Happened

The three counters of a pipeline against the calls of a run.  A step that the core has made is an
event, and a fault if its status is not zero; a tick whose picture lies where the core says is a
frame.  The counters advance at different places of a tick, so each part of a tick says which of
them it moves (`Statistics.Counts`).

`Renderer.statistics_count_calls` reads the counters off the calls so far, after any turns of a
renderer with a new pipeline.
-/

namespace Handheld

/-! ## §1 What is counted

The counters and the journal are compared by three numbers: steps, steps with a status other than
zero, and pictures.  The first two are read off the journal, and `Counts` adds up along a run. -/

/-- The status of a step that the core has made. -/
def Entry.status? : Entry → Option Int32
  | .native (.step _ _) (.ok status) => some status
  | .native _ _ | .surface _ _ | .host _ | .diagnostic _ => none

/-- The place at which the core says that its picture is. -/
def Entry.place? : Entry → Option UInt32
  | .native (.screenPointer _) (.ok addr) => some addr
  | .native _ _ | .surface _ _ | .host _ | .diagnostic _ => none

namespace Journal

/-- The statuses of the steps that the core has made, in order. -/
def statuses (journal : Journal) : List Int32 := journal.filterMap Entry.status?

/-- The places at which the core has said that its picture is, in order. -/
def places (journal : Journal) : List UInt32 := journal.filterMap Entry.place?

@[simp] theorem statuses_append (first second : Journal) :
    statuses (first ++ second) = statuses first ++ statuses second := List.filterMap_append

@[simp] theorem places_append (first second : Journal) :
    places (first ++ second) = places first ++ places second := List.filterMap_append

/-- Diagnostics are no steps. -/
theorem statuses_exchanges (journal : Journal) : statuses journal.exchanges = statuses journal := by
  unfold statuses exchanges
  rw [List.filterMap_filter]
  congr 1
  funext entry
  cases entry <;> rfl

theorem places_exchanges (journal : Journal) : places journal.exchanges = places journal := by
  unfold places exchanges
  rw [List.filterMap_filter]
  congr 1
  funext entry
  cases entry <;> rfl

end Journal

/-- A call that is no step has no status. -/
theorem Rig.Moves.statuses_eq_nil {σ τ : Type} [NativeCore σ] [Surface τ] {calls : Request → Prop}
    {shows : SurfaceRequest → Prop} {rig after : Rig σ τ} {made : List Entry}
    (moves : rig.Moves calls shows made after)
    (others : ∀ request, calls request → request.function ≠ .step) :
    Journal.statuses made = [] := by
  refine List.filterMap_eq_nil_iff.2 fun entry listed => ?_
  -- What the run calls is of the given kinds, and a step is of none of them.
  have kind := moves.kinds entry listed
  cases entry with
  | surface | host | diagnostic => rfl
  | native request answer =>
    cases request with
    | step => exact absurd rfl (others _ kind)
    | _ => rfl

/-- How far the counters have moved on: by the steps that were made, by those of them with a status
other than zero, and by a number of frames. -/
structure Statistics.Counts (before after : Statistics) (statuses : List Int32) (frames : Nat) :
    Prop where
  events : after.stepTime.events.toNat = before.stepTime.events.toNat + statuses.length
  faults : after.faults.toNat = before.faults.toNat + statuses.countP (· ≠ 0)
  frames : after.frames.toNat = before.frames.toNat + frames

namespace Statistics

theorem counts_refl (statistics : Statistics) : Counts statistics statistics [] 0 := ⟨rfl, rfl, rfl⟩

theorem Counts.trans {first second third : Statistics} {statuses more : List Int32}
    {frames others : Nat} (counts : Counts first second statuses frames)
    (then_counts : Counts second third more others) :
    Counts first third (statuses ++ more) (frames + others) where
  events := by
    rw [then_counts.events, counts.events, List.length_append, Nat.add_assoc]
  faults := by
    rw [then_counts.faults, counts.faults, List.countP_append, Nat.add_assoc]
  frames := by
    rw [then_counts.frames, counts.frames, Nat.add_assoc]

end Statistics

/-! ## §2 One tick

Each part of a tick moves one of the counters.  Whether there is a picture depends on the memory at
the time of the fetch, so this part of the tick says it of its own state. -/

namespace Pipeline

open Act

variable {σ τ : Type} {pipeline : Pipeline} {rig after : Rig σ τ} {calls : List Entry}

/-- A timer that runs counts one event more when it is stopped. -/
theorem events_of_stopTimer {now later : Nat} {stopped : Pipeline}
    (stops : (pipeline.startTimer now).stopTimer later = .ok stopped) :
    stopped.statistics.faults = pipeline.statistics.faults ∧
      stopped.statistics.stepTime.events.toNat =
        pipeline.statistics.stepTime.events.toNat + 1 := by
  obtain ⟨timer, stop, made⟩ := Checked.bind_eq_ok_iff.1 stops
  obtain rfl := Except.ok.inj made
  refine ⟨rfl, ?_⟩
  obtain ⟨events, counted, recorded⟩ := Checked.bind_eq_ok_iff.1 stop
  obtain rfl := Except.ok.inj recorded
  exact (Checked.add32_eq_ok_iff.1 counted).2

/-- A status is counted as a fault if it is not zero. -/
theorem faults_of_countFault {status : Int32} {counted : Pipeline}
    (gives : (pipeline.countFault status).Gives rig counted after calls) :
    calls = [] ∧ counted.statistics.stepTime = pipeline.statistics.stepTime ∧
      counted.statistics.faults.toNat =
        pipeline.statistics.faults.toNat + [status].countP (· ≠ 0) := by
  unfold countFault at gives
  split at gives
  -- The success is counted as none, and the fault as one.
  · next success =>
    obtain ⟨rfl, -, rfl⟩ := gives_pure_iff.1 gives
    subst success
    exact ⟨rfl, rfl, rfl⟩
  · next fault =>
    obtain ⟨_, _, _, _, notes, rest, rfl⟩ := gives_bind_iff.1 gives
    obtain ⟨-, rfl⟩ := gives_note_iff.1 notes
    obtain ⟨faults, counted, rfl⟩ := gives_map_iff.1 rest
    obtain ⟨counts, -, rfl⟩ := gives_ofFaulty_iff.1 counted
    refine ⟨rfl, rfl, ?_⟩
    rw [List.countP_singleton, if_pos (by simpa using fault)]
    exact (Checked.next64_eq_ok_iff.1 counts).2

/-- A step moves on the events and the faults by its own status, if the core makes it at all. -/
theorem step_counts [NativeCore σ] {handle : Handle} {result : Except Error Unit}
    {stepped : Pipeline} (gives : (pipeline.step handle).Gives rig (result, stepped) after calls) :
    pipeline.statistics.Counts stepped.statistics (Journal.statuses calls) 0 ∧
      Journal.places calls = [] ∧ (result = .ok () → (Journal.statuses calls).length = 1) := by
  -- That a step counts no frame has been shown for every step.
  have frames := (step_keeps pipeline handle gives).frames
  unfold step at gives
  obtain ⟨start, _, _, _, starts, rest, rfl⟩ := gives_bind_iff.1 gives
  obtain ⟨-, rfl, rfl⟩ := gives_readStopwatch_iff.1 starts
  obtain ⟨answer, _, _, _, asks, ends, rfl⟩ := gives_bind_iff.1 rest
  obtain ⟨machine, -, rfl, rfl⟩ := gives_ask_iff.1 asks
  cases answer with
  | error cause =>
    -- The timer runs on, but it has counted nothing.
    obtain ⟨made, -, rfl⟩ := gives_pure_iff.1 ends
    cases made
    exact ⟨⟨rfl, rfl, rfl⟩, rfl, nofun⟩
  | ok status =>
    -- The timer has counted the step before the status is looked at.
    obtain ⟨stop, _, _, _, reads, counts, rfl⟩ := gives_bind_iff.1 ends
    obtain ⟨-, rfl, rfl⟩ := gives_readStopwatch_iff.1 reads
    obtain ⟨stopped, _, _, _, halts, counted, rfl⟩ := gives_bind_iff.1 counts
    obtain ⟨stops, rfl, rfl⟩ := gives_ofFaulty_iff.1 halts
    obtain ⟨final, counted, made⟩ := gives_map_iff.1 counted
    cases made
    obtain ⟨before, events⟩ := events_of_stopTimer stops
    obtain ⟨rfl, timer, faults⟩ := faults_of_countFault counted
    refine ⟨⟨?_, ?_, ?_⟩, rfl, fun _ => rfl⟩
    · rw [timer, events]
      rfl
    · rw [faults, before]
      rfl
    · rw [frames]
      rfl

/-- A picture is fetched exactly if it lies inside of memory; nothing is called or counted. -/
theorem fetch_counts [Surface τ] {screen : Screen} {addr : UInt32} {result : Except Error Unit}
    {fetched : Pipeline}
    (gives : (pipeline.fetch screen addr).Gives rig (result, fetched) after calls) :
    fetched.statistics = pipeline.statistics ∧ after = rig ∧ calls = [] ∧
      (result = .ok () ↔
        addr.toNat + 4 * pixelCount screen.width screen.height ≤ rig.machine.memory.size) := by
  -- That the picture has room follows from the frame that has been prepared for it.
  have room : 4 * pixelCount screen.width screen.height ≤ Checked.maxBufferBytes := by
    unfold fetch at gives
    obtain ⟨wanted, _, _, _, wants, rest, -⟩ := gives_bind_iff.1 gives
    obtain ⟨-, rfl, -⟩ := gives_encoding_iff.1 wants
    obtain ⟨prepared, _, _, _, prepares, -, -⟩ := gives_bind_iff.1 rest
    obtain ⟨staging, resizes, -⟩ := Checked.bind_eq_ok_iff.1 (gives_ofFaulty_iff.1 prepares).1
    exact Frame.room_of_resize resizes
  -- Inside of memory the fetch succeeds, outside it fails; it cannot do both.
  by_cases inside :
      addr.toNat + 4 * pixelCount screen.width screen.height ≤ rig.machine.memory.size
  · obtain ⟨staging, succeeds, -⟩ : ∃ staging, (pipeline.fetch screen addr).Gives rig _ rig [] ∧
        Pictures staging screen _ _ addr := fetch_gives room inside
    obtain ⟨made, rfl, rfl⟩ := gives.unique succeeds
    cases made
    exact ⟨rfl, rfl, rfl, fun _ => inside, fun _ => rfl⟩
  · obtain ⟨staging, fails⟩ : ∃ staging, (pipeline.fetch screen addr).Gives rig
        (_, { pipeline with handoff := _, staging }) rig [] :=
      fetch_refused room (Nat.not_le.1 inside)
    obtain ⟨made, rfl, rfl⟩ := gives.unique fails
    cases made
    exact ⟨rfl, rfl, rfl, nofun, fun other => absurd other inside⟩

/-- A frame is published if the picture of a step that was made lies where the core says. -/
theorem produce_counts [NativeCore σ] [Surface τ] {rom : LoadedRom} {result : Except Error Unit}
    {produced : Pipeline}
    (gives : (pipeline.produce rom).Gives rig (result, produced) after calls) :
    pipeline.statistics.Counts produced.statistics (Journal.statuses calls) 0 ∧
      (result = .ok () ↔ ∃ addr ∈ Journal.places calls,
        addr.toNat + 4 * pixelCount rom.screen.width rom.screen.height ≤
          after.machine.memory.size) ∧
      (result = .ok () → (Journal.statuses calls).length = 1) := by
  unfold produce at gives
  obtain ⟨⟨steps, stepped⟩, _, _, _, makes, rest, rfl⟩ := gives_bind_iff.1 gives
  obtain ⟨counts, no_places, one⟩ := step_counts makes
  cases steps with
  -- A step that fails ends the tick before the core has been asked for a place.
  | error cause =>
    obtain ⟨made, -, rfl⟩ := gives_pure_iff.1 rest
    cases made
    rw [List.append_nil, no_places]
    exact ⟨counts, by simp, nofun⟩
  | ok =>
    obtain ⟨answer, _, _, _, asks, fetches, rfl⟩ := gives_bind_iff.1 rest
    obtain ⟨machine, -, rfl, rfl⟩ := gives_ask_iff.1 asks
    cases answer with
    | error cause =>
      obtain ⟨made, -, rfl⟩ := gives_pure_iff.1 fetches
      cases made
      have asked : Journal.statuses [.native (.screenPointer rom.handle) (.error cause)] = [] ∧
          Journal.places [.native (.screenPointer rom.handle) (.error cause)] = [] := ⟨rfl, rfl⟩
      rw [List.append_nil, Journal.statuses_append, Journal.places_append, asked.1, asked.2,
        no_places, List.append_nil]
      exact ⟨counts, by simp, nofun⟩
    | ok addr =>
      -- From here on only the place decides.
      obtain ⟨statistics, rfl, rfl, fetched⟩ := fetch_counts fetches
      have asked : Journal.statuses [.native (.screenPointer rom.handle) (.ok addr)] = [] ∧
          Journal.places [.native (.screenPointer rom.handle) (.ok addr)] = [addr] := ⟨rfl, rfl⟩
      rw [List.append_nil, Journal.statuses_append, Journal.places_append, asked.1, asked.2,
        no_places, List.append_nil, List.nil_append, statistics]
      exact ⟨counts, by simpa using fetched, fun _ => one rfl⟩

variable [Clockwork]

/-- A publication counts one frame and no step. -/
theorem publish_counts [Surface τ] (pipeline : Pipeline) :
    (pipeline.publish : Act σ τ _).Ensures fun given =>
      pipeline.statistics.Counts given.2.statistics [] 1 := by
  have commits : (pipeline.commit : Act σ τ _).Ensures fun committed =>
      pipeline.statistics.Counts committed.statistics [] 1 := by
    intro rig committed after calls gives
    obtain ⟨clock, frames, -, counts, rfl, -, -⟩ := commit_gives_iff.1 gives
    exact ⟨rfl, rfl, (Checked.next64_eq_ok_iff.1 counts).2⟩
  exact commits.bind fun committed counted => bind_ensures fun drawn => ensures_pure counted

variable [NativeCore σ] [Surface τ]

/-- A publication calls the surface only. -/
theorem quiet_of_publish {given : Except Error Unit × Pipeline}
    (gives : pipeline.publish.Gives rig given after calls) :
    after.machine = rig.machine ∧ Journal.statuses calls = [] ∧ Journal.places calls = [] := by
  have draws : (pipeline.publish : Act σ τ _).MovesBy (fun _ => False) SurfaceRequest.IsDraw :=
    publish_moves (fun _ _ => trivial) pipeline
  have moves := draws.of_gives gives
  have kept : rig.machine = after.machine := moves.invariant nofun nofun rfl
  refine ⟨kept.symm, moves.statuses_eq_nil nofun, List.filterMap_eq_nil_iff.2 fun entry made => ?_⟩
  have kind := moves.kinds entry made
  cases entry with
  | native => exact kind.elim
  | surface | host | diagnostic => rfl

/-- A tick with a rom counts the step that it makes, and a frame if the picture of this step lies
inside of memory. -/
theorem tickLoaded_counts {rom : LoadedRom} {given : Except Error Unit × Pipeline}
    (gives : (pipeline.tickLoaded rom).Gives rig given after calls) :
    ∃ frames, pipeline.statistics.Counts given.2.statistics (Journal.statuses calls) frames ∧
      frames ≤ (Journal.statuses calls).length ∧
      frames = if (Journal.places calls).any fun addr =>
          addr.toNat + 4 * pixelCount rom.screen.width rom.screen.height ≤
            after.machine.memory.size then 1 else 0 := by
  rw [tickLoaded_eq] at gives
  obtain ⟨⟨produces, produced⟩, middle, made, more, makes, rest, rfl⟩ := gives_bind_iff.1 gives
  obtain ⟨counts, pictured, one⟩ := produce_counts makes
  cases produces with
  -- No frame has been produced, so there was no picture to be seen.
  | error cause =>
    obtain ⟨rfl, rfl, rfl⟩ := gives_pure_iff.1 rest
    rw [List.append_nil]
    refine ⟨0, counts, Nat.zero_le _, (if_neg ?_).symm⟩
    simpa using pictured
  | ok =>
    -- Publishing calls the surface only, so the steps and the places are those of the production.
    obtain ⟨machine, statuses, places⟩ := quiet_of_publish rest
    rw [Journal.statuses_append, Journal.places_append, statuses, places, List.append_nil,
      List.append_nil, machine]
    refine ⟨1, ?_, Nat.le_of_eq (one rfl).symm, (if_pos ?_).symm⟩
    · simpa using counts.trans (publish_counts produced rest)
    · simpa using pictured.1 rfl

end Pipeline

/-! ## §3 One turn

A sight keeps what a turn has called and where the machine was then; a tick is pictured by what can
be seen in its sight. -/

/-- The turn is a tick, and the picture lies inside of memory where the core says. -/
def Sight.isPictured {σ τ : Type} (sight : Sight σ τ) : Bool :=
  match sight.turn, sight.lifecycle with
  | .tick, .loaded rom =>
    (Journal.places sight.journal).any fun addr =>
      addr.toNat + 4 * pixelCount rom.screen.width rom.screen.height ≤ sight.machine.memory.size
  | _, _ => false

/-- The counters as they stand after the turn. -/
def Sight.counters {σ τ : Type} (sight : Sight σ τ) : Statistics where
  frames := sight.frames
  faults := sight.faults
  stepTime := { events := sight.events }

namespace Renderer

open Act

section Watches

variable [Clockwork] {σ τ : Type} [NativeCore σ] [Surface τ] {renderer : Renderer} {rig : Rig σ τ}
  {turn : Turn} {turns : List Turn}

/-- A turn that is no tick counts nothing: it makes no step. -/
theorem still_of_answer {outcome : Outcome σ τ (Except Error turn.Answer × Renderer)}
    (other : turn ≠ .tick) (run : (renderer.answer turn).run rig = .ok outcome) :
    outcome.value.2.pipeline.statistics = renderer.pipeline.statistics ∧
      Journal.statuses outcome.journal = [] ∧ (sight turn outcome).isPictured = false := by
  cases turn with
  | load image scale =>
    obtain ⟨inner, loads, rfl⟩ := run_map_eq_ok_iff.1 run
    refine ⟨rfl, ?_, rfl⟩
    -- A load makes no step, whatever becomes of it.
    rw [← Journal.statuses_exchanges]
    exact ((renderer.lifecycle.load_tends image scale).of_run loads).statuses_eq_nil fun _ => id
  | unload =>
    obtain ⟨inner, unloads, rfl⟩ := run_map_eq_ok_iff.1 run
    have tends : (renderer.lifecycle.unload : Act σ τ _).MovesBy Request.IsUpkeep fun _ => False :=
      renderer.lifecycle.unload_tends
    refine ⟨rfl, ?_, rfl⟩
    rw [← Journal.statuses_exchanges]
    exact (tends.of_run unloads).statuses_eq_nil fun _ => id
  | reset width height =>
    obtain ⟨inner, made, rfl⟩ := run_map_eq_ok_iff.1 run
    obtain ⟨pipeline, resets, rfl⟩ := run_ofFaulty_eq_ok_iff.1 made
    exact ⟨Pipeline.reset_statistics resets, rfl, rfl⟩
  | tick => exact absurd rfl other

/-- A turn counts the steps that it makes and the picture that it shows. -/
theorem answer_counts {outcome : Outcome σ τ (Except Error turn.Answer × Renderer)}
    (run : (renderer.answer turn).run rig = .ok outcome) :
    ∃ frames, renderer.pipeline.statistics.Counts outcome.value.2.pipeline.statistics
        (Journal.statuses outcome.journal) frames ∧
      frames ≤ (Journal.statuses outcome.journal).length ∧
      frames = if (sight turn outcome).isPictured then 1 else 0 := by
  by_cases tick : turn = .tick
  · subst tick
    obtain ⟨⟨⟨result, ticked⟩, after, journal⟩, ticks, rfl⟩ := run_map_eq_ok_iff.1 run
    unfold Pipeline.tick at ticks
    -- A tick without a rom calls nobody.
    cases current : renderer.lifecycle with
    | empty =>
      rw [current] at ticks
      cases ticks
      refine ⟨0, Statistics.counts_refl _, Nat.le_refl _, ?_⟩
      simp [sight, Sight.isPictured]
    | loaded rom =>
      rw [current] at ticks
      obtain ⟨inner, loaded, made⟩ := run_map_eq_ok_iff.1 ticks
      cases made
      obtain ⟨frames, counts, bound, pictured⟩ := Pipeline.tickLoaded_counts (.of_run loaded)
      -- The sight of the turn shows the same calls as its journal.
      rw [Journal.statuses_exchanges] at counts bound
      rw [Journal.places_exchanges] at pictured
      refine ⟨frames, counts, bound, ?_⟩
      simp only [sight, Sight.isPictured]
      exact pictured
  -- Every other turn counts nothing, and it shows nothing.
  · obtain ⟨statistics, statuses, unpictured⟩ := still_of_answer tick run
    rw [statistics, statuses, unpictured]
    exact ⟨0, Statistics.counts_refl _, Nat.le_refl _, rfl⟩

/-! ## §4 All turns

By induction on the turns.  Two sights of one watch are compared by the turns between them. -/

/-- After any turns the counters have moved on by what was made in all of them, and no more pictures
have been shown than steps made. -/
theorem watch_counts {before after : List (Sight σ τ)} {last : Sight σ τ}
    (split : (renderer.watch rig turns).sights = before ++ last :: after) :
    renderer.pipeline.statistics.Counts last.counters
        (Journal.statuses ((before ++ [last]).flatMap Sight.journal))
        ((before ++ [last]).countP Sight.isPictured) ∧
      (before ++ [last]).countP Sight.isPictured ≤
        (Journal.statuses ((before ++ [last]).flatMap Sight.journal)).length := by
  induction turns generalizing renderer rig before with
  | nil =>
    rw [watch] at split
    simp at split
  | cons turn turns ih =>
    cases run : (renderer.answer turn).run rig with
    | error cut =>
      -- After a turn that is cut short nothing is seen any more.
      rw [watch_of_cut run] at split
      simp at split
    | ok outcome =>
      rw [watch_of_run run] at split
      obtain ⟨frames, counts, bound, pictured⟩ := answer_counts run
      cases before with
      | nil =>
        obtain ⟨rfl, -⟩ := List.cons.inj split
        rw [List.nil_append, List.countP_singleton, ← pictured, List.flatMap_singleton]
        exact ⟨⟨counts.events, counts.faults, counts.frames⟩, bound⟩
      | cons first before =>
        -- What the first turn has counted comes before what the turns up to the last one count.
        obtain ⟨rfl, rest⟩ := List.cons.inj split
        obtain ⟨rest_counts, rest_bound⟩ := ih rest
        rw [List.cons_append, List.flatMap_cons, Journal.statuses_append, List.countP_cons,
          ← pictured, Nat.add_comm _ frames, List.length_append]
        exact ⟨counts.trans rest_counts, Nat.add_le_add bound rest_bound⟩

/-- Every sight is that of a turn. -/
theorem exists_of_mem_watch {seen : Sight σ τ} (mem : seen ∈ (renderer.watch rig turns).sights) :
    ∃ (before : Renderer) (reached : Rig σ τ) (turn : Turn)
      (outcome : Outcome σ τ (Except Error turn.Answer × Renderer)),
      (before.answer turn).run reached = .ok outcome ∧ seen = sight turn outcome := by
  induction turns generalizing renderer rig with
  | nil => cases mem
  | cons turn turns ih =>
    -- A turn that is cut short has no sight, and ends the watch.
    cases run : (renderer.answer turn).run rig with
    | error cut =>
      rw [watch_of_cut run] at mem
      cases mem
    | ok outcome =>
      rw [watch_of_run run] at mem
      rcases List.mem_cons.1 mem with rfl | later
      · exact ⟨renderer, rig, turn, outcome, run, rfl⟩
      · exact ih later

/-- From one turn to a later one the counters move on by what was made in between. -/
theorem watch_counts_between {older newer after : List (Sight σ τ)} {earlier last : Sight σ τ}
    (split : (renderer.watch rig turns).sights = older ++ earlier :: newer ++ last :: after) :
    earlier.counters.Counts last.counters
      (Journal.statuses ((newer ++ [last]).flatMap Sight.journal))
      ((newer ++ [last]).countP Sight.isPictured) := by
  -- The turns up to the earlier sight are a beginning of those up to the later one; the difference
  -- is what was made in between.
  obtain ⟨⟨events, faults, frames⟩, -⟩ := watch_counts split
  rw [List.append_assoc, List.cons_append] at split
  obtain ⟨⟨first_events, first_faults, first_frames⟩, -⟩ := watch_counts split
  have joined :
      older ++ earlier :: newer ++ [last] = (older ++ [earlier]) ++ (newer ++ [last]) := by
    simp
  rw [joined, List.flatMap_append, Journal.statuses_append, List.length_append] at events
  rw [joined, List.flatMap_append, Journal.statuses_append, List.countP_append] at faults
  rw [joined, List.countP_append] at frames
  constructor <;> omega

/-- A turn that is no tick leaves the counters as the turn before has left them. -/
theorem counters_of_still {older after : List (Sight σ τ)} {previous last : Sight σ τ}
    (split : (renderer.watch rig turns).sights = older ++ [previous] ++ last :: after)
    (other : last.turn ≠ .tick) :
    last.events = previous.events ∧ last.faults = previous.faults ∧
      last.frames = previous.frames := by
  have adjacent : (renderer.watch rig turns).sights = older ++ previous :: [] ++ last :: after :=
    split
  obtain ⟨events, faults, frames⟩ := watch_counts_between adjacent
  -- The sight is that of a turn, and this turn makes no step and shows nothing.
  have seen : last ∈ (renderer.watch rig turns).sights := by
    rw [split]
    simp
  obtain ⟨here, reached, turn, outcome, run, same⟩ := exists_of_mem_watch seen
  have still : turn ≠ .tick := by
    rw [same] at other
    exact other
  obtain ⟨-, statuses, unpictured⟩ := still_of_answer still run
  have nothing : Journal.statuses ([last].flatMap Sight.journal) = [] := by
    rw [List.flatMap_singleton, same]
    exact statuses
  rw [List.nil_append, nothing] at events faults
  rw [List.nil_append, List.countP_singleton, same, unpictured] at frames
  rw [same] at events faults ⊢
  exact ⟨UInt32.toNat_inj.1 events, UInt64.toNat_inj.1 faults, UInt64.toNat_inj.1 frames⟩

/-- The counters of a renderer with a new pipeline, after any of its turns, whatever the core and
the surface answer: the events are the steps that the core has made, the faults those of them with a
status other than zero, and the frames the ticks whose picture lay inside of memory where the core
said.  So there are at most as many frames and faults as events; no turn lowers a counter, and only
a tick changes one. -/
theorem statistics_count_calls {lifecycle : Lifecycle} {scale : UInt32} {stepMode : StepMode}
    {before after : List (Sight σ τ)} {last : Sight σ τ}
    (split : (watch ⟨lifecycle, { scale, stepMode }⟩ rig turns).sights = before ++ last :: after) :
    last.events.toNat =
        (Journal.statuses ((before ++ [last]).flatMap Sight.journal)).length ∧
      last.faults.toNat =
        (Journal.statuses ((before ++ [last]).flatMap Sight.journal)).countP (· ≠ 0) ∧
      last.frames.toNat = (before ++ [last]).countP Sight.isPictured ∧
      last.frames.toNat ≤ last.events.toNat ∧ last.faults.toNat ≤ last.events.toNat ∧
      (∀ earlier ∈ before, earlier.events ≤ last.events ∧ earlier.faults ≤ last.faults ∧
        earlier.frames ≤ last.frames) ∧
      ∀ previous ∈ before.getLast?, last.turn ≠ .tick →
        last.events = previous.events ∧ last.faults = previous.faults ∧
          last.frames = previous.frames := by
  obtain ⟨⟨events, faults, frames⟩, bound⟩ := watch_counts split
  -- The counters of a new pipeline are zero, so what was made in all turns is what they tell.
  have events := events.trans (Nat.zero_add _)
  have faults := faults.trans (Nat.zero_add _)
  have frames := frames.trans (Nat.zero_add _)
  have faults_le : (Journal.statuses ((before ++ [last]).flatMap Sight.journal)).countP (· ≠ 0) ≤
      (Journal.statuses ((before ++ [last]).flatMap Sight.journal)).length :=
    List.countP_le_length
  refine ⟨events, faults, frames, ?_, ?_, fun earlier mem => ?_, fun previous mem other => ?_⟩
  -- A picture is that of a step, and a fault is a step as well.
  · exact Nat.le_trans (Nat.le_of_eq frames) (Nat.le_trans bound (Nat.le_of_eq events.symm))
  · exact Nat.le_trans (Nat.le_of_eq faults) (Nat.le_trans faults_le (Nat.le_of_eq events.symm))
  · obtain ⟨older, newer, rfl⟩ := List.append_of_mem mem
    obtain ⟨events, faults, frames⟩ := watch_counts_between split
    exact ⟨UInt32.le_iff_toNat_le.2 (events ▸ Nat.le_add_right _ _),
      UInt64.le_iff_toNat_le.2 (faults ▸ Nat.le_add_right _ _),
      UInt64.le_iff_toNat_le.2 (frames ▸ Nat.le_add_right _ _)⟩
  · obtain ⟨older, rfl⟩ := List.getLast?_eq_some_iff.1 mem
    exact counters_of_still split other

end Watches

/-- The second step of the bench core is a fault whose picture cannot be found, and the third step
fails. -/
def faultyRig : Rig (Scripted Bench) Stage :=
  { flakyRig with
    machine.state :=
      (Scripted.setScript { inner := { heapSize := 64, screen := ⟨1, 1⟩ } } .step
        [.pass, .answer 3, .fail (.native "busy")]).setScript .screenPointer
          [.pass, .fail (.native "lost")] }

theorem statistics_count_calls_of_faults :
    ∃ before last after,
      (watch ⟨.empty, { scale := 1, stepMode := .vsync }⟩ faultyRig unevenTurns).sights =
        before ++ last :: after ∧ before.length = 8 ∧
      last.events = 3 ∧ last.faults = 1 ∧ last.frames = 2 ∧
      (Journal.statuses ((before ++ [last]).flatMap Sight.journal)).length = 3 ∧
      (before ++ [last]).countP Sight.isPictured = 2 := by
  -- The run is evaluated once for its length and once for the counters at its end.
  have length : (watch ⟨.empty, { scale := 1, stepMode := .vsync }⟩ faultyRig
      unevenTurns).sights.length = 9 := by decide +kernel
  have counters : ((watch ⟨.empty, { scale := 1, stepMode := .vsync }⟩ faultyRig
      unevenTurns).sights.getLast?.map fun sight => (sight.events, sight.faults, sight.frames)) =
        some (3, 1, 2) := by decide +kernel
  obtain ⟨last, found, counted⟩ := Option.map_eq_some_iff.1 counters
  obtain ⟨events, faults, frames⟩ : last.events = 3 ∧ last.faults = 1 ∧ last.frames = 2 := by
    simpa using counted
  obtain ⟨before, split⟩ := List.getLast?_eq_some_iff.1 found
  obtain ⟨all_events, -, all_frames, -⟩ := statistics_count_calls split
  rw [split, List.length_append, List.length_singleton] at length
  refine ⟨before, last, [], split, by omega, events, faults, frames, ?_, ?_⟩
  · rw [← all_events, events]
    rfl
  · rw [← all_frames, frames]
    rfl

end Renderer

end Handheld
