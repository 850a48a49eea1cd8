import Handheld.Proofs.Session.Indifference
import Handheld.Rehearsal.Platform

/-!
# Resets Cannot Be Seen

`Renderer.watch` takes the turns of a renderer and keeps, for each of them, all that can be seen
of it: its answer, the calls that it makes, and how the renderer, the core and the surface stand
after it.  `Renderer.resets_invisible` says that resets may be put between the other turns as one
likes: what is seen of the other turns stays the same.

A reset throws away what waits, what was shown last and the staging frame.  The invariant of the
proof is that the two pipelines are alike without these (`Pipeline.Twins`).
-/

namespace Handheld

/-! ## §1 Watching a renderer

A sight holds all that can be observed of a turn; a watch is the row of sights up to a fault.  The
turns that are resets can be taken out of a watch. -/

def Turn.isReset : Turn → Bool
  | .reset _ _ => true
  | .load _ _ | .unload | .tick => false

/-- A reset needs a staging frame of its size; other turns need nothing. -/
def Turn.HasRoom : Turn → Prop
  | .reset width height => 4 * pixelCount width height ≤ Checked.maxBufferBytes
  | .load _ _ | .unload | .tick => True

instance : DecidablePred Turn.HasRoom := fun turn =>
  match turn with
  | .reset _ _ => inferInstanceAs (Decidable (_ ≤ _))
  | .load _ _ | .unload | .tick => inferInstanceAs (Decidable True)

/-- All that can be seen of a turn. -/
structure Sight (σ τ : Type) where
  turn : Turn
  answer : Except Error turn.Answer
  /-- The calls that the turn makes, with their arguments and answers, and its diagnostics. -/
  journal : Journal
  lifecycle : Lifecycle
  clock : Instant
  encoding : PixelEncoding
  frames : UInt64
  faults : UInt64
  events : UInt32
  machine : Machine σ
  display : τ

/-- What has been seen of turns in a row. -/
structure Watch (σ τ : Type) where
  sights : List (Sight σ τ)
  /-- The fault that ended the last turn, with what had been done in this turn. -/
  cut : Option Interruption

namespace Watch

variable {σ τ : Type}

/-- A turn is seen, and then the rest. -/
def cons (sight : Sight σ τ) (rest : Watch σ τ) : Watch σ τ :=
  { rest with sights := sight :: rest.sights }

/-- Only the turns that are no resets. -/
def withoutResets (watched : Watch σ τ) : Watch σ τ :=
  { watched with sights := watched.sights.filter fun sight => !sight.turn.isReset }

theorem withoutResets_cons_of_reset {sight : Sight σ τ} (reset : sight.turn.isReset = true)
    (rest : Watch σ τ) : (cons sight rest).withoutResets = rest.withoutResets := by
  simp only [withoutResets, cons, List.filter_cons, reset, Bool.not_true, Bool.false_eq_true,
    if_false]

theorem withoutResets_cons {sight : Sight σ τ} (real : sight.turn.isReset = false)
    (rest : Watch σ τ) : (cons sight rest).withoutResets = cons sight rest.withoutResets := by
  simp only [withoutResets, cons, List.filter_cons, real, Bool.not_false, if_true]

end Watch

namespace Renderer

variable {σ τ : Type} [NativeCore σ] [Surface τ]

/-- What is seen of a turn that has led to an outcome. -/
def sight (turn : Turn) (outcome : Outcome σ τ (Except Error turn.Answer × Renderer)) :
    Sight σ τ where
  turn
  answer := outcome.value.1
  journal := outcome.journal
  lifecycle := outcome.value.2.lifecycle
  clock := outcome.value.2.pipeline.clock
  encoding := outcome.value.2.pipeline.encoding
  frames := outcome.value.2.pipeline.statistics.frames
  faults := outcome.value.2.pipeline.statistics.faults
  events := outcome.value.2.pipeline.statistics.stepTime.events
  machine := outcome.rig.machine
  display := outcome.rig.display

section Watches

variable [Clockwork]

/-- Takes turns one after another, whether or not one fails, up to a fault. -/
def watch (renderer : Renderer) (rig : Rig σ τ) : List Turn → Watch σ τ
  | [] => ⟨[], none⟩
  | turn :: turns =>
    match (renderer.answer turn).run rig with
    | .error cut => ⟨[], some cut⟩
    | .ok outcome => .cons (sight turn outcome) (outcome.value.2.watch outcome.rig turns)

theorem watch_of_cut {renderer : Renderer} {rig : Rig σ τ} {turn : Turn} {turns : List Turn}
    {cut : Interruption} (run : (renderer.answer turn).run rig = .error cut) :
    renderer.watch rig (turn :: turns) = ⟨[], some cut⟩ := by
  rw [watch, run]

theorem watch_of_run {renderer : Renderer} {rig : Rig σ τ} {turn : Turn} {turns : List Turn}
    {outcome : Outcome σ τ (Except Error turn.Answer × Renderer)}
    (run : (renderer.answer turn).run rig = .ok outcome) :
    renderer.watch rig (turn :: turns) =
      .cons (sight turn outcome) (outcome.value.2.watch outcome.rig turns) := by
  rw [watch, run]

/-! ## §2 One turn

A turn that is no reset looks the same for twins, and it leaves twins behind.  A reset of one of
them leaves twins behind as well. -/

/-- The renderers run the same rom and have pipelines that are alike. -/
structure Twins (renderer twin : Renderer) : Prop where
  lifecycle : renderer.lifecycle = twin.lifecycle
  pipeline : renderer.pipeline.Twins twin.pipeline

variable {renderer twin : Renderer} {rig other : Rig σ τ} {turn : Turn} {turns : List Turn}

/-- Of a turn that is no reset the same is seen. -/
theorem Twins.answer (twins : renderer.Twins twin) (real : turn.isReset = false) :
    (renderer.answer turn : Act σ τ _).Alike Eq
      (fun given other => given.1 = other.1 ∧ given.2.Twins other.2) (twin.answer turn) := by
  obtain ⟨lifecycle, pipelines⟩ := twins
  -- Each turn does to both renderers what it does to lifecycles that are equal or to pipelines that
  -- are twins.
  cases turn with
  | reset => cases real
  | load image scale =>
    unfold Renderer.answer
    rw [lifecycle]
    refine Act.Alike.bind (twin.lifecycle.load_blind Machine.indistinct_eq image scale) ?_
    rintro ⟨answer, after⟩ _ rfl
    exact Act.alike_pure ⟨rfl, rfl, pipelines⟩
  | unload =>
    unfold Renderer.answer
    rw [lifecycle]
    refine Act.Alike.bind (twin.lifecycle.unload_blind Machine.indistinct_eq) ?_
    rintro ⟨answer, after⟩ _ rfl
    exact Act.alike_pure ⟨rfl, rfl, pipelines⟩
  | tick =>
    unfold Renderer.answer
    rw [lifecycle]
    -- The pipelines are no longer equal, but a tick does not tell twins apart.
    refine Act.Alike.bind (pipelines.tick Machine.indistinct_eq twin.lifecycle) ?_
    rintro ⟨answer, ticked⟩ ⟨_, after⟩ ⟨rfl, same⟩
    exact Act.alike_pure ⟨rfl, rfl, same⟩

omit [NativeCore σ] [Surface τ] in
theorem sight_eq {outcome companion : Outcome σ τ (Except Error turn.Answer × Renderer)}
    (outcomes : outcome.Alike Eq (fun given other => given.1 = other.1 ∧ given.2.Twins other.2)
      companion) : sight turn outcome = sight turn companion := by
  obtain ⟨⟨answers, lifecycle, ⟨-, -, clock, encoding, frames, faults, events⟩, -, -⟩,
    ⟨machine, display⟩, journal⟩ := outcomes
  unfold sight
  rw [answers, journal, lifecycle, clock, encoding, frames, faults, events, machine, display]

/-- A reset for which there is room makes no call, and what it leaves behind is alike. -/
theorem Twins.reset (twins : renderer.Twins twin) {width height : UInt32}
    (room : 4 * pixelCount width height ≤ Checked.maxBufferBytes) (rig : Rig σ τ) :
    ∃ fresh : Renderer,
      (renderer.answer (.reset width height)).run rig = .ok ⟨(.ok (), fresh), rig, []⟩ ∧
      fresh.Twins twin := by
  obtain ⟨pipeline, resets⟩ : ∃ pipeline, renderer.pipeline.reset width height = .ok pipeline := by
    rw [Pipeline.reset_eq, Checked.capacity_ok room]
    exact ⟨_, rfl⟩
  have run : (Act.ofFaulty (renderer.pipeline.reset width height)).run rig =
      .ok ⟨pipeline, rig, []⟩ := Act.run_ofFaulty_eq_ok_iff.2 ⟨pipeline, resets, rfl⟩
  exact ⟨{ renderer with pipeline }, Act.run_map_eq_ok_iff.2 ⟨_, run, rfl⟩, twins.lifecycle,
    twins.pipeline.reset resets⟩

/-- Whatever the size, a reset makes no call. -/
theorem journal_of_reset {outcome : Outcome σ τ (Except Error turn.Answer × Renderer)}
    (reset : turn.isReset = true) (run : (renderer.answer turn).run rig = .ok outcome) :
    outcome.journal = [] := by
  cases turn with
  | load | unload | tick => cases reset
  | reset width height =>
    obtain ⟨inner, resets, rfl⟩ := Act.run_map_eq_ok_iff.1 run
    obtain ⟨pipeline, -, rfl⟩ := Act.run_ofFaulty_eq_ok_iff.1 resets
    rfl

/-! ## §3 All turns

By induction on the turns, for any pair of twins. -/

/-- What is seen of twins is the same, if one of them is reset now and then and the other never. -/
theorem Twins.watch (twins : renderer.Twins twin) (rigs : rig.Alike Eq other)
    (room : ∀ turn ∈ turns, turn.HasRoom) :
    (renderer.watch rig turns).withoutResets =
      twin.watch other (turns.filter fun turn => !turn.isReset) := by
  -- The renderers, the rigs and the turns vary; that the two are twins carries the induction.
  induction turns generalizing renderer twin rig other with
  | nil => rfl
  | cons turn turns ih =>
    obtain ⟨turn_room, rest_room⟩ := List.forall_mem_cons.1 room
    cases hreset : turn.isReset with
    | true =>
      cases turn with
      | load | unload | tick => cases hreset
      | reset width height =>
        obtain ⟨fresh, run, still_twins⟩ := twins.reset turn_room rig
        rw [watch_of_run run, Watch.withoutResets_cons_of_reset rfl]
        exact ih still_twins rigs rest_room
    | false =>
      rw [List.filter_cons_of_pos (by simp [hreset])]
      -- Both take the turn, and either a fault ends both watches or both go on as twins.
      have agree := twins.answer hreset rigs
      generalize hrun : (renderer.answer turn).run rig = run,
        htwin : (twin.answer turn).run other = twin_run at agree
      cases agree with
      | error cut =>
        rw [watch_of_cut hrun, watch_of_cut htwin, Watch.withoutResets, List.filter_nil]
      | ok outcomes =>
        rw [watch_of_run hrun, watch_of_run htwin, Watch.withoutResets_cons hreset,
          sight_eq outcomes, ih outcomes.value.2 outcomes.rig rest_room]

theorem resets_make_no_call {sight : Sight σ τ} (seen : sight ∈ (renderer.watch rig turns).sights)
    (reset : sight.turn.isReset = true) : sight.journal = [] := by
  induction turns generalizing renderer rig with
  | nil => cases seen
  | cons turn turns ih =>
    -- A turn that is cut short is not seen, and neither is what would have come after it.
    cases run : (renderer.answer turn).run rig with
    | error cut =>
      rw [watch_of_cut run] at seen
      cases seen
    | ok outcome =>
      rw [watch_of_run run] at seen
      rcases List.mem_cons.1 seen with rfl | later
      · exact journal_of_reset reset run
      · exact ih later

/-- Resets for which there is room, put anywhere between the turns of a renderer with a new
pipeline, cannot be seen: they make no call, and every other turn gives the same answer, makes the
same calls and leaves the same behind as without them; if a fault ends one, it is the same fault at
the same place.  The readings of the stopwatch need not be the same. -/
theorem resets_invisible {lifecycle : Lifecycle} {scale : UInt32} {stepMode : StepMode}
    (room : ∀ turn ∈ turns, turn.HasRoom) (machine : Machine σ) (display : τ)
    (stopwatch other : Stopwatch) :
    (watch ⟨lifecycle, { scale, stepMode }⟩ ⟨machine, display, stopwatch⟩ turns).withoutResets =
        watch ⟨lifecycle, { scale, stepMode }⟩ ⟨machine, display, other⟩
          (turns.filter fun turn => !turn.isReset) ∧
      ∀ sight ∈ (watch ⟨lifecycle, { scale, stepMode }⟩ ⟨machine, display, stopwatch⟩ turns).sights,
        sight.turn.isReset = true → sight.journal = [] := by
  have twins : Twins ⟨lifecycle, { scale, stepMode }⟩ ⟨lifecycle, { scale, stepMode }⟩ :=
    ⟨rfl, (Pipeline.steady_new scale stepMode).twins⟩
  exact ⟨twins.watch ⟨rfl, rfl⟩ room, fun _ seen => resets_make_no_call seen⟩

end Watches

/-- Before and after each of the turns there is a reset to another size. -/
def resetTurns : List Turn := unevenTurns.flatMap fun turn => [.reset 5 5, turn, .reset 0 7]

theorem resets_invisible_of_failures :
    (∀ turn ∈ resetTurns, turn.HasRoom) ∧
      ((watch ⟨.empty, { scale := 1, stepMode := .vsync }⟩ flakyRig resetTurns).sights.filter
        fun sight => !sight.turn.isReset).map (·.frames) = [0, 0, 1, 2, 2, 2, 3, 3] ∧
      (watch ⟨.empty, { scale := 1, stepMode := .vsync }⟩ flakyRig resetTurns).withoutResets =
        watch ⟨.empty, { scale := 1, stepMode := .vsync }⟩ flakyRig
          [.tick, .load #[7] 1, .tick, .tick, .tick, .load #[8] 1, .tick, .unload] := by
  have room : ∀ turn ∈ resetTurns, turn.HasRoom := by decide
  refine ⟨room, by decide +kernel, ?_⟩
  exact (resets_invisible room flakyRig.machine flakyRig.display flakyRig.stopwatch
    flakyRig.stopwatch).1

end Renderer

end Handheld
