import Handheld.Display.Canvas
import Handheld.Proofs.Bench.Answers
import Handheld.Proofs.Session.Indifference
import Handheld.Proofs.Session.Operation
import Handheld.Rehearsal.Platform

/-!
# Keys Do Not Disturb

Two sessions with one controller of the bench core that have the same loads, unloads and ticks, and
keys in between as the user likes.  `Emulator.keys_disturb_nothing` says that nothing but the keys
themselves tells the sessions apart: without the calls that set a button, even the core's log is the
same.

The core answers every call without a look at its log (`Bench.answer_withCalls`).  So machines that
differ in the button calls of their logs cannot be told apart, and what keeps two sessions together
is that they lead to machines and pipelines that are alike.
-/

namespace Handheld

/-! ## §1 The core does not look at its log

An equation for each call: the answer on a machine with another log is the answer, with the log
replaced in the machine that is left behind. -/

namespace Bench

variable {machine twin : Machine Bench} {request : Request}

/-- The machine with another log. -/
def withCalls (machine : Machine Bench) (calls : List Request) : Machine Bench :=
  { machine with state.calls := calls }

/-- A reply that leaves a machine with another log behind. -/
def relogged {α : Type} (calls : List Request) (reply : α × Machine Bench) : α × Machine Bench :=
  (reply.1, withCalls reply.2 calls)

theorem malloc_withCalls (bench : Bench) (size : Nat) (len : UInt32) (calls : List Request) :
    { bench with calls }.malloc size len =
      (bench.malloc size len).map fun given => (given.1, { given.2 with calls }) := by
  unfold malloc
  dsimp only
  -- The log is copied in every branch, and no branch looks into it.
  split
  · rfl
  · split
    · unfold misplace
      cases Checked.sub32 (UInt32.ofNat size) 2 <;> rfl
    · unfold bump
      dsimp only
      split
      · cases alignUp (bench.nextAlloc + len) <;> rfl
      · rfl

theorem destroy_withCalls (bench : Bench) (handle : Handle) (calls : List Request) :
    { bench with calls }.destroy handle =
      ((bench.destroy handle).1, { (bench.destroy handle).2 with calls }) := by
  unfold destroy
  by_cases fails : bench.mischief.failDestroy = true
  · simp only [if_pos fails]
  · simp only [if_neg fails]
    by_cases live : handle ∈ bench.instances
    · simp only [if_pos live]
    · simp only [if_neg live]

/-- The core refuses a rom as it is told to, or because the block is not one of its own. -/
def Refuses (bench : Bench) (rom len : UInt32) : Prop :=
  bench.mischief.failCreate = true ∨ len = 0 ∨ blockLen? bench.blocks rom ≠ some len

theorem create_of_refuses (machine : Machine Bench) {rom len : UInt32}
    (refuses : machine.state.Refuses rom len) :
    create machine rom len = .ok (none, { machine with state.mischief.failCreate := false }) :=
  if_pos refuses

theorem create_of_accepts (machine : Machine Bench) {rom len : UInt32}
    (accepts : ¬ machine.state.Refuses rom len) :
    create machine rom len =
      match Handle.ofRaw? machine.state.nextHandle with
      | none => .ok (none, { machine with state.mischief.failCreate := false })
      | some handle => do
        let nextHandle ← Checked.next32 machine.state.nextHandle
        let memory ← machine.state.reserveScreen machine.memory
        return (some handle, ⟨memory, { machine.state with
          mischief.failCreate := false
          nextHandle
          instances := machine.state.instances ++ [handle] }⟩) :=
  if_neg accepts

theorem create_withCalls (machine : Machine Bench) (rom len : UInt32) (calls : List Request) :
    create (withCalls machine calls) rom len = (create machine rom len).map (relogged calls) := by
  -- Whether the rom is refused depends on the mischief and the blocks only.
  by_cases refuses : machine.state.Refuses rom len
  · rw [create_of_refuses (withCalls machine calls) refuses, create_of_refuses machine refuses]
    rfl
  · rw [create_of_accepts (withCalls machine calls) refuses, create_of_accepts machine refuses]
    show (match Handle.ofRaw? machine.state.nextHandle with | none => _ | some handle => _) = _
    cases Handle.ofRaw? machine.state.nextHandle with
    | none => rfl
    | some handle =>
      dsimp only [withCalls]
      cases Checked.next32 machine.state.nextHandle with
      | error fault => rfl
      | ok nextHandle =>
        show (reserveScreen machine.state machine.memory >>= _) =
          (reserveScreen machine.state machine.memory >>= _).map (relogged calls)
        cases reserveScreen machine.state machine.memory <;> rfl

theorem step_withCalls (machine : Machine Bench) (calls : List Request) :
    step (withCalls machine calls) = (step machine).map (relogged calls) := by
  simp only [step, withCalls]
  cases Checked.next64 machine.state.frames with
  | error fault => rfl
  | ok frames =>
    show (drawFrame { machine.state with frames } machine.memory >>= _) =
      (drawFrame { machine.state with frames } machine.memory >>= _).map (relogged calls)
    cases drawFrame { machine.state with frames } machine.memory <;> rfl

theorem forInstance_withCalls {α : Type} (machine : Machine Bench) (handle : Handle)
    {answer other : Faulty (α × Machine Bench)} (calls : List Request)
    (same : other = answer.map (relogged calls)) :
    forInstance (withCalls machine calls) handle other =
      (forInstance machine handle answer).map (relogged calls) := by
  subst same
  unfold forInstance
  by_cases live : handle ∈ machine.state.instances
  · rw [if_pos live, if_pos (show handle ∈ (withCalls machine calls).state.instances from live)]
    cases answer <;> rfl
  · rw [if_neg live, if_neg (show handle ∉ (withCalls machine calls).state.instances from live)]
    rfl

/-- The core never looks at its log. -/
theorem answer_withCalls (machine : Machine Bench) (request : Request) (calls : List Request) :
    answer (withCalls machine calls) request =
      (answer machine request).map (relogged calls) := by
  -- The functions that compute with faults are taken apart at the place where one can arise.
  cases request with
  | malloc len =>
    simp only [answer, withCalls]
    rw [malloc_withCalls]
    cases machine.state.malloc machine.memory.size len <;> rfl
  | free addr =>
    simp only [answer, withCalls, free]
    cases blockLen? machine.state.blocks addr <;> rfl
  | create rom len =>
    simp only [answer]
    rw [create_withCalls]
    cases create machine rom len <;> rfl
  | destroy handle =>
    simp only [answer, withCalls]
    rw [destroy_withCalls]
    rfl
  | step handle mode =>
    exact forInstance_withCalls machine handle calls (step_withCalls machine calls)
  | screenPointer handle =>
    refine forInstance_withCalls machine handle calls ?_
    show (screenAddr machine.state machine.memory.size >>= _) =
      (screenAddr machine.state machine.memory.size >>= _).map (relogged calls)
    cases screenAddr machine.state machine.memory.size <;> rfl
  | screenWidth handle => exact forInstance_withCalls machine handle calls rfl
  | screenHeight handle => exact forInstance_withCalls machine handle calls rfl
  | setButtonState handle button state => exact forInstance_withCalls machine handle calls rfl

/-- A call that has been answered is the last one in the log, and nothing else in it has changed. -/
theorem calls_of_answer {reply : Reply Error request.Answer (Machine Bench)}
    (answered : NativeCore.answer request machine = .ok reply) :
    reply.2.state.calls = machine.state.calls ++ [request] := by
  have answered : answer (log machine request) request = .ok reply := answered
  -- The log of the machine put in the place of itself changes nothing.
  have relog := answer_withCalls (log machine request) request (log machine request).state.calls
  rw [show withCalls (log machine request) (log machine request).state.calls = log machine request
    from rfl, answered] at relog
  exact congrArg (fun reply => reply.2.state.calls) (Except.ok.inj relog)

/-! ## §2 Machines that have heard different keys -/

instance : DecidablePred Request.IsButton := fun request =>
  inferInstanceAs (Decidable (request.function = .setButtonState))

/-- The calls that do not set a button. -/
def withoutButtons (calls : List Request) : List Request :=
  calls.filter fun request => ¬ request.IsButton

theorem withoutButtons_append (first second : List Request) :
    withoutButtons (first ++ second) = withoutButtons first ++ withoutButtons second :=
  List.filter_append ..

/-- The machine as if no button had ever been set. -/
def muted (machine : Machine Bench) : Machine Bench :=
  withCalls machine (withoutButtons machine.state.calls)

theorem eq_withCalls_of_muted (same : muted machine = muted twin) :
    twin = withCalls machine twin.state.calls :=
  calc twin
    _ = withCalls (muted twin) twin.state.calls := rfl
    _ = withCalls (muted machine) twin.state.calls := by rw [same]
    _ = withCalls machine twin.state.calls := rfl

/-- Whatever is called, the core answers as if no button had ever been set. -/
theorem indistinct_muted : Machine.Indistinct fun machine twin => muted machine = muted twin where
  memory same := congrArg (·.memory) same
  write same memory := congrArg (fun machine => { machine with memory }) same
  answer := by
    intro machine twin same request
    have heard : withoutButtons machine.state.calls = withoutButtons twin.state.calls :=
      congrArg (·.state.calls) same
    -- The twin differs in its log, so the request is appended to another list.
    have logs : log twin request =
        withCalls (log machine request) (twin.state.calls ++ [request]) :=
      congrArg (log · request) (eq_withCalls_of_muted same)
    show Agree _ (answer (log machine request) request) (answer (log twin request) request)
    rw [logs, answer_withCalls]
    cases answered : answer (log machine request) request with
    | error fault => exact .error fault
    | ok reply =>
      refine .ok ⟨rfl, ?_⟩
      have logged : reply.2.state.calls = machine.state.calls ++ [request] :=
        calls_of_answer answered
      show withCalls reply.2 (withoutButtons reply.2.state.calls) =
        withCalls reply.2 (withoutButtons (twin.state.calls ++ [request]))
      rw [logged, withoutButtons_append, withoutButtons_append, heard]

/-- Setting a button leaves the machine as it is, but for the log. -/
theorem setButtonState_answer (machine : Machine Bench) (handle : Handle) (button : Button)
    (state : ButtonState) :
    ∃ answer, NativeCore.answer (.setButtonState handle button state) machine =
      .ok (answer, log machine (.setButtonState handle button state)) := by
  by_cases live : handle ∈ machine.state.instances
  · exact ⟨.ok (), if_pos live⟩
  · exact ⟨.error (noInstance handle), if_neg live⟩

theorem muted_log {request : Request} (button : request.IsButton) (machine : Machine Bench) :
    muted (log machine request) = muted machine := by
  have unheard : withoutButtons [request] = [] := by simp [withoutButtons, button]
  show withCalls machine (withoutButtons (machine.state.calls ++ [request])) = _
  rw [withoutButtons_append, unheard, List.append_nil]
  rfl

end Bench

/-! ## §3 Sessions without their keys

`Rendering` is all that a session leaves behind, with the keys taken out of the deeds, the journal
and the core's log.  A run that a fault cuts short has a rendering as well, so the sessions can be
compared without a case for each way to end. -/

def Operation.isKey : Operation → Bool
  | .press _ | .release _ | .key _ => true
  | .loadRom _ | .unload | .tick => false

/-- What is done for a key: it is noted, and a button is set. -/
def Entry.isKey : Entry → Bool
  | .native request _ => request.IsButton
  | .diagnostic (.forwarded _ _ _) => true
  | .diagnostic _ | .surface _ _ | .host _ => false

def Journal.withoutKeys (journal : Journal) : Journal := journal.filter fun entry => !entry.isKey

theorem Journal.withoutKeys_append (first second : Journal) :
    Journal.withoutKeys (first ++ second) =
      Journal.withoutKeys first ++ Journal.withoutKeys second := List.filter_append ..

/-- What there is of a session but its keys. -/
structure Rendering (τ : Type) where
  /-- The loads, unloads and ticks with their answers. -/
  deeds : List Deed
  /-- The calls with their arguments and answers, drawn frames among them, and the diagnostics. -/
  journal : Journal
  lifecycle : Lifecycle
  clock : Instant
  frames : UInt64
  faults : UInt64
  events : UInt32
  /-- The core with its memory, blocks and instances, as if no button had ever been set. -/
  machine : Machine Bench
  display : τ

variable {τ : Type}

/-- What there is of a session but its keys, up to the fault that ends it if there is one. -/
def rendering :
    Except Interruption (Outcome Bench τ (List Deed × Emulator)) → Except Interruption (Rendering τ)
  | .error cut => .error { cut with journal := cut.journal.withoutKeys }
  | .ok ⟨(deeds, emulator), rig, journal⟩ => .ok {
      deeds := deeds.filter fun deed => !deed.operation.isKey
      journal := journal.withoutKeys
      lifecycle := emulator.lifecycle
      clock := emulator.clock
      frames := emulator.statistics.frames
      faults := emulator.statistics.faults
      events := emulator.statistics.stepTime.events
      machine := Bench.muted rig.machine
      display := rig.display }

/-- A session that begins with another deed. -/
def Rendering.after (deed : Deed) (journal : Journal) :
    Except Interruption (Rendering τ) → Except Interruption (Rendering τ)
  | .error cut => .error { cut with journal := journal.withoutKeys ++ cut.journal }
  | .ok rest => .ok { rest with
      deeds := [deed].filter (fun deed => !deed.operation.isKey) ++ rest.deeds
      journal := journal.withoutKeys ++ rest.journal }

/-- A key that has come first leaves nothing behind. -/
theorem Rendering.after_of_key {deed : Deed} {journal : Journal} (key : deed.operation.isKey = true)
    (quiet : journal.withoutKeys = []) (rest : Except Interruption (Rendering τ)) :
    after deed journal rest = rest := by
  have left_out : [deed].filter (fun deed => !deed.operation.isKey) = [] := by simp [key]
  cases rest with
  | error cut => simp only [after, quiet, List.nil_append]
  | ok rest => simp only [after, left_out, quiet, List.nil_append]

namespace Emulator

section Sessions

variable [Clockwork] [Surface τ] {emulator twin : Emulator} {rig other : Rig Bench τ}
  {operation : Operation} {operations : List Operation}

theorem rendering_of_cut {cut : Interruption}
    (run : (emulator.perform operation).run rig = .error cut) :
    rendering ((emulator.performAll (operation :: operations)).run rig) =
      .error { cut with journal := cut.journal.withoutKeys } := by
  rw [performAll, Act.run_bind, run]
  rfl

theorem rendering_of_run {outcome : Outcome Bench τ (Except Error operation.Answer × Emulator)}
    (run : (emulator.perform operation).run rig = .ok outcome) :
    rendering ((emulator.performAll (operation :: operations)).run rig) =
      Rendering.after ⟨operation, outcome.value.1⟩ outcome.journal
        (rendering ((outcome.value.2.performAll operations).run outcome.rig)) := by
  -- The journals of the operation and of the rest follow each other, in a run that is cut short
  -- too.
  rw [performAll, Act.run_bind, run]
  dsimp only
  rw [Act.run_bind]
  cases (outcome.value.2.performAll operations).run outcome.rig with
  | error cut => simp only [rendering, Rendering.after, Journal.withoutKeys_append]
  | ok rest =>
    obtain ⟨⟨deeds, last⟩, after, journal⟩ := rest
    simp only [Act.run_pure, List.append_nil, rendering, Rendering.after,
      Journal.withoutKeys_append]
    rw [← List.filter_append, List.singleton_append]

/-! ## §4 One operation -/

/-- The controllers run the same rom and have pipelines that are alike.  What they do with unmapped
keys may differ. -/
structure Twins (emulator twin : Emulator) : Prop where
  lifecycle : emulator.lifecycle = twin.lifecycle
  pipeline : emulator.pipeline.Twins twin.pipeline

/-- Two machines that have heard different keys. -/
def SameButKeys (machine twin : Machine Bench) : Prop := Bench.muted machine = Bench.muted twin

theorem Twins.loadRom (twins : emulator.Twins twin) (image : Bytes) :
    (emulator.loadRom image : Act Bench τ _).Alike SameButKeys
      (fun given other => given.1 = other.1 ∧ given.2.Twins other.2) (twin.loadRom image) := by
  obtain ⟨lifecycle, pipelines⟩ := twins
  unfold Emulator.loadRom
  rw [lifecycle, pipelines.alike.scale]
  refine Act.Alike.bind (twin.lifecycle.load_blind Bench.indistinct_muted image _) ?_
  rintro ⟨answer, after⟩ _ rfl
  cases answer with
  | error cause => exact Act.alike_pure ⟨rfl, rfl, pipelines⟩
  | ok screen =>
    -- The reset depends on the screen of the rom, and both sides have loaded the same one.
    refine Act.Alike.bind (Act.alike_ofFaulty (pipelines.resets _ _))
      fun fresh twin_fresh same => ?_
    exact Act.alike_pure ⟨rfl, rfl, same⟩

/-- An operation other than a key does not tell the sessions apart. -/
theorem Twins.perform (twins : emulator.Twins twin) (real : operation.isKey = false) :
    (emulator.perform operation : Act Bench τ _).Alike SameButKeys
      (fun given other => given.1 = other.1 ∧ given.2.Twins other.2) (twin.perform operation) := by
  cases operation with
  -- A key is an operation that does tell them apart, by their logs.
  | press | release | key => cases real
  | loadRom image => exact twins.loadRom image
  | unload =>
    obtain ⟨lifecycle, pipelines⟩ := twins
    unfold Emulator.perform Emulator.unload
    rw [lifecycle]
    refine Act.Alike.bind (twin.lifecycle.unload_blind Bench.indistinct_muted) ?_
    rintro ⟨answer, after⟩ _ rfl
    exact Act.alike_pure ⟨rfl, rfl, pipelines⟩
  | tick =>
    obtain ⟨lifecycle, pipelines⟩ := twins
    unfold Emulator.perform Emulator.tick
    rw [lifecycle]
    refine Act.Alike.bind (pipelines.tick Bench.indistinct_muted twin.lifecycle) ?_
    rintro ⟨answer, ticked⟩ ⟨_, after⟩ ⟨rfl, same⟩
    exact Act.alike_pure ⟨rfl, rfl, same⟩

omit [Clockwork] [Surface τ] in
/-- A key only sets a button and is noted, whatever the policy makes of it. -/
theorem forward_answers (policy : UnmappedKeys) (handle : Option Handle) (event : KeyEvent)
    (state : ButtonState) (rig : Rig Bench τ) :
    ∃ outcome, (policy.forward handle event state).run rig = .ok outcome ∧
      outcome.rig.Alike SameButKeys rig ∧ outcome.journal.withoutKeys = [] := by
  unfold UnmappedKeys.forward
  split
  -- The button is set if the key plays one and a rom is running; otherwise nothing is called.
  · split
    · next handle button _ =>
      obtain ⟨answer, answered⟩ :=
        Bench.setButtonState_answer rig.machine handle button state
      have asks : (Act.ask (.setButtonState handle button state)).run rig =
          .ok ⟨answer, { rig with machine := Bench.log rig.machine _ }, [.native _ answer]⟩ :=
        Act.run_ask_eq_ok_iff.2 ⟨_, answered, rfl, rfl⟩
      have button : Request.IsButton (.setButtonState handle button state) := rfl
      exact ⟨_, Act.run_bind_eq_ok_iff.2 ⟨_, _, rfl, asks, rfl⟩,
        ⟨Bench.muted_log button rig.machine, rfl⟩, rfl⟩
    · exact ⟨_, rfl, ⟨rfl, rfl⟩, rfl⟩
  · exact ⟨_, rfl, ⟨rfl, rfl⟩, rfl⟩

theorem perform_key (key : operation.isKey = true) (emulator : Emulator) (rig : Rig Bench τ) :
    ∃ outcome, (emulator.perform operation).run rig = .ok outcome ∧ outcome.value.2 = emulator ∧
      outcome.rig.Alike SameButKeys rig ∧ outcome.journal.withoutKeys = [] := by
  -- All three kinds of operation forward the event, as a press or as a release.
  have forwards : ∀ event state,
      ∃ outcome, (emulator.unmappedKeys.forward emulator.lifecycle.handle? event state).run rig =
        .ok outcome ∧ outcome.rig.Alike SameButKeys rig ∧ outcome.journal.withoutKeys = [] :=
    fun event state => forward_answers _ _ event state rig
  cases operation with
  | loadRom | unload | tick => cases key
  | press event =>
    obtain ⟨outcome, run, rigs, quiet⟩ := forwards event .pressed
    exact ⟨_, Act.run_map_eq_ok_iff.2 ⟨outcome, run, rfl⟩, rfl, rigs, quiet⟩
  | release event =>
    obtain ⟨outcome, run, rigs, quiet⟩ := forwards event .released
    exact ⟨_, Act.run_map_eq_ok_iff.2 ⟨outcome, run, rfl⟩, rfl, rigs, quiet⟩
  | key event =>
    obtain ⟨outcome, run, rigs, quiet⟩ : ∃ outcome, (emulator.sendKey event).run rig =
        .ok outcome ∧ outcome.rig.Alike SameButKeys rig ∧ outcome.journal.withoutKeys = [] := by
      unfold sendKey
      split
      · exact forwards event .pressed
      · exact forwards event .released
    exact ⟨_, Act.run_map_eq_ok_iff.2 ⟨outcome, run, rfl⟩, rfl, rigs, quiet⟩

/-! ## §5 Whole sessions

A session with keys is compared with the one in which the keys are left out, and not with another
session with keys: each key is one step of an induction on the operations, and the theorem joins two
such comparisons. -/

/-- A session with keys is, but for them, the session without them. -/
theorem Twins.rendering_eq (twins : emulator.Twins twin) (rigs : rig.Alike SameButKeys other) :
    rendering ((emulator.performAll operations).run rig) =
      rendering ((twin.performAll (operations.filter fun operation => !operation.isKey)).run
        other) := by
  induction operations generalizing emulator twin rig other with
  | nil =>
    obtain ⟨lifecycle, ⟨-, -, clock, -, frames, faults, events⟩, -, -⟩ := twins
    obtain ⟨machine, display⟩ := rigs
    simp only [performAll, List.filter_nil, Act.run_pure, rendering, Emulator.clock, statistics]
    rw [lifecycle, clock, frames, faults, events, display, show Bench.muted _ = _ from machine]
  | cons operation operations ih =>
    cases hkey : operation.isKey with
    | true =>
      -- The key is left out on both sides.
      obtain ⟨outcome, run, same, kept, quiet⟩ := perform_key hkey emulator rig
      rw [rendering_of_run run, Rendering.after_of_key hkey quiet, same,
        List.filter_cons_of_neg (by simp [hkey])]
      exact ih twins ⟨kept.machine.trans rigs.machine, kept.display.trans rigs.display⟩
    | false =>
      rw [List.filter_cons_of_pos (by simp [hkey])]
      have agree := twins.perform hkey rigs
      generalize hrun : (emulator.perform operation).run rig = run,
        htwin : (twin.perform operation).run other = twin_run at agree
      cases agree with
      | error cut => rw [rendering_of_cut hrun, rendering_of_cut htwin]
      | ok outcomes =>
        rw [rendering_of_run hrun, rendering_of_run htwin, outcomes.value.1, outcomes.journal,
          ih outcomes.value.2 outcomes.rig]

/-- Two sessions of new controllers with one bench core that have the same loads, unloads and ticks
in the same order, and any keys in between, differ in nothing but the keys: in both the operations
give the same answers, the same frames are drawn and the same is left behind, or the same fault
ends the same operation.  The controllers may treat unmapped keys differently, and the stopwatches
may show anything. -/
theorem keys_disturb_nothing {operations edits : List Operation}
    (same : operations.filter (fun operation => !operation.isKey) =
      edits.filter fun operation => !operation.isKey)
    (options : EmulatorOptions) (unmappedKeys : UnmappedKeys) (bench : Bench) (display : τ)
    (stopwatch other : Stopwatch) :
    rendering (((new options).performAll operations).run ⟨bench.machine, display, stopwatch⟩) =
      rendering (((new { options with unmappedKeys }).performAll edits).run
        ⟨bench.machine, display, other⟩) := by
  have steady : Pipeline.Steady { scale := options.scale, stepMode := options.stepMode } :=
    Pipeline.steady_new _ _
  have twins : (new options).Twins (new { options with unmappedKeys }) := ⟨rfl, steady.twins⟩
  have twin_self : (new { options with unmappedKeys }).Twins (new { options with unmappedKeys }) :=
    ⟨rfl, steady.twins⟩
  -- Both are compared with the session that has no key at all.
  calc rendering (((new options).performAll operations).run ⟨bench.machine, display, stopwatch⟩)
    _ = rendering (((new { options with unmappedKeys }).performAll
          (operations.filter fun operation => !operation.isKey)).run
            ⟨bench.machine, display, other⟩) := twins.rendering_eq ⟨rfl, rfl⟩
    _ = rendering (((new { options with unmappedKeys }).performAll
          (edits.filter fun operation => !operation.isKey)).run
            ⟨bench.machine, display, other⟩) := by rw [same]
    _ = rendering (((new { options with unmappedKeys }).performAll edits).run
          ⟨bench.machine, display, other⟩) := (twin_self.rendering_eq ⟨rfl, rfl⟩).symm

end Sessions

/-- Keys before the load, between the frames and after the unload, not all of them to the
surface. -/
def keyedSession : List Operation :=
  [.press ⟨.space, true, .surface⟩, .loadRom #[7], .key ⟨.letter 'Q', true, .surface⟩, .tick,
    .press ⟨.enter, true, .elsewhere⟩, .release ⟨.arrowUp, false, .surface⟩, .tick, .unload,
    .key ⟨.enter, false, .surface⟩]

/-- The same loads, unloads and ticks with a key between the frames and one behind them. -/
def otherKeys : List Operation :=
  [.loadRom #[7], .tick, .key ⟨.letter 'Q', true, .surface⟩, .tick,
    .press ⟨.space, true, .surface⟩, .unload]

def doubled : EmulatorOptions := { scale := 2 }

/-- A bench core with a screen of two points. -/
def pairBench : Bench := { heapSize := 64, screen := ⟨2, 1⟩ }

theorem keys_disturb_nothing_of_policies :
    ∃ first second,
      ((new doubled).performAll keyedSession).run ⟨pairBench.machine, Canvas.new .argb, {}⟩ =
        .ok first ∧
      ((new ⟨doubled.scale, .primaryButton, doubled.stepMode⟩).performAll otherKeys).run
        ⟨pairBench.machine, Canvas.new .argb, {}⟩ = .ok second ∧
      first.value.2.statistics.frames = 2 ∧ first.rig.machine.state.calls.length = 11 ∧
      second.rig.machine.state.calls.length = 12 ∧
      rendering (.ok first) = rendering (.ok second) := by
  have same_rest : keyedSession.filter (fun operation => !operation.isKey) =
      otherKeys.filter fun operation => !operation.isKey := rfl
  -- Both sessions are evaluated for what they have counted, and the theorem says that they look
  -- alike.
  obtain ⟨first, run, frames, calls⟩ : ∃ first, ((new doubled).performAll keyedSession).run
      ⟨pairBench.machine, Canvas.new .argb, {}⟩ = .ok first ∧
        first.value.2.statistics.frames = 2 ∧ first.rig.machine.state.calls.length = 11 :=
    Checked.exists_of_any (by decide +kernel)
  obtain ⟨second, other_run, other_calls⟩ : ∃ second,
      ((new ⟨doubled.scale, .primaryButton, doubled.stepMode⟩).performAll otherKeys).run
        ⟨pairBench.machine, Canvas.new .argb, {}⟩ = .ok second ∧
        second.rig.machine.state.calls.length = 12 :=
    Checked.exists_of_any (by decide +kernel)
  have same := keys_disturb_nothing same_rest doubled .primaryButton pairBench (Canvas.new .argb)
    {} {}
  exact ⟨first, second, run, other_run, frames, calls, other_calls,
    (congrArg rendering run).symm.trans (same.trans (congrArg rendering other_run))⟩

end Emulator

end Handheld
