import Handheld.Proofs.Bench.Stock
import Handheld.Proofs.Session.Presentation
import Handheld.Rehearsal.Platform

/-!
# The Bench Core and the Controller Agree

The controller knows of one rom at most; the bench core knows its blocks and its instances.  Each
keeps its own books, while the core is told again and again to fail.  `Renderer.stock_agrees` says
that the books agree: of what the core has in stock nothing is unaccounted for, the running rom is
in it, and no call asks for what is not there.

A trial is what is done on the bench: a turn of the renderer, a key, or a prank that is played on
the next call of its kind.
-/

namespace Handheld

/-! ## §1 Trials

A prank tells the core to fail a later call, and is no call itself.  Trials are turns, keys and
pranks in any order. -/

/-- A failure that the bench core is told to make. -/
inductive Prank
  /-- The next allocation finds no block. -/
  | malloc
  /-- The next rom is refused. -/
  | create
  /-- The next instance cannot be destroyed. -/
  | destroy
deriving DecidableEq, Repr

def Prank.name : Prank → String
  | .malloc => "malloc"
  | .create => "create"
  | .destroy => "destroy"

/-- What is done on the bench. -/
inductive Trial
  | turn (turn : Turn)
  /-- A key goes down or up, for the instance that is running. -/
  | key (policy : UnmappedKeys) (event : KeyEvent) (state : ButtonState)
  | prank (prank : Prank)
deriving DecidableEq, Repr

variable {τ : Type}

/-- Tells the core to fail.  This is no call. -/
def Act.play (prank : Prank) : Act Bench τ Unit where
  run rig :=
    .ok ⟨(), { rig with machine.state.mischief :=
      rig.machine.state.mischief.add prank.name }, []⟩

namespace Renderer

variable [Clockwork] [Surface τ]

/-- Goes through a trial, whether or not anything fails. -/
def undergo (renderer : Renderer) : Trial → Act Bench τ Renderer
  | .turn turn => renderer.perform turn
  | .key policy event state => do
    let _ ← policy.forward renderer.lifecycle.handle? event state
    return renderer
  | .prank prank => do
    Act.play prank
    return renderer

/-- Goes through trials one after another. -/
def undergoAll (renderer : Renderer) : List Trial → Act Bench τ Renderer
  | [] => return renderer
  | trial :: trials => do (← renderer.undergo trial).undergoAll trials

variable {renderer : Renderer} {rig : Rig Bench τ} {trial : Trial} {trials : List Trial}
  {outcome : Outcome Bench τ Renderer}

theorem undergoAll_append (renderer : Renderer) (first second : List Trial) :
    (renderer.undergoAll (first ++ second) : Act Bench τ _) =
      renderer.undergoAll first >>= fun reached => reached.undergoAll second := by
  induction first generalizing renderer with
  | nil => exact (pure_bind _ _).symm
  | cons trial first ih =>
    rw [List.cons_append, undergoAll, undergoAll, bind_assoc]
    exact bind_congr fun reached => ih reached

/-- What goes on before a trial, the trial and what goes on behind it. -/
theorem run_undergoAll_of_parts {before after : List Trial}
    {started reached rest : Outcome Bench τ Renderer}
    (start : (renderer.undergoAll before).run rig = .ok started)
    (first : (started.value.undergo trial).run started.rig = .ok reached)
    (goes_on : (reached.value.undergoAll after).run reached.rig = .ok rest) :
    (renderer.undergoAll (before ++ trial :: after)).run rig =
      .ok ⟨rest.value, rest.rig, started.journal ++ (reached.journal ++ rest.journal)⟩ := by
  have later : (started.value.undergoAll (trial :: after)).run started.rig =
      .ok ⟨rest.value, rest.rig, reached.journal ++ rest.journal⟩ :=
    Act.run_bind_eq_ok_iff.2 ⟨reached, rest, first, goes_on, rfl⟩
  rw [undergoAll_append]
  exact Act.run_bind_eq_ok_iff.2 ⟨started, _, start, later, rfl⟩

/-- The last of some trials. -/
theorem run_undergoAll_concat_iff :
    (renderer.undergoAll (trials ++ [trial])).run rig = .ok outcome ↔
      ∃ middle last, (renderer.undergoAll trials).run rig = .ok middle ∧
        (middle.value.undergo trial).run middle.rig = .ok last ∧
        outcome = { last with journal := middle.journal ++ last.journal } := by
  have single (reached : Renderer) :
      (reached.undergoAll [trial] : Act Bench τ _) = reached.undergo trial := bind_pure _
  rw [undergoAll_append, bind_congr single, Act.run_bind_eq_ok_iff]

end Renderer

/-! ## §2 Turns keep to the protocol

The controller does not know of the pranks: each of its turns keeps to the protocol, from the phase
of the lifecycle before it to that of the lifecycle behind it. -/

namespace Renderer

open Act

variable {σ : Type} [NativeCore σ] [Surface τ]

theorem perform_moves [Clockwork] (renderer : Renderer) (turn : Turn) :
    (renderer.perform turn : Act σ τ _).MovesBy (fun _ => True) fun _ => True := by
  refine MovesBy.bind ?_ fun _ => movesBy_pure _
  cases turn with
  | load image scale =>
    -- Nothing is asked of the calls here, so what a load makes need not be told apart.
    refine MovesBy.bind ?_ fun _ => movesBy_pure _
    exact (renderer.lifecycle.load_tends image scale).mono (fun _ _ => trivial) fun _ _ => trivial
  | unload =>
    refine MovesBy.bind ?_ fun _ => movesBy_pure _
    exact renderer.lifecycle.unload_tends.mono (fun _ _ => trivial) fun _ => id
  | reset width height => exact (movesBy_ofFaulty _).bind fun _ => movesBy_pure _
  | tick =>
    refine MovesBy.bind ?_ fun _ => movesBy_pure _
    exact (renderer.pipeline.tick_moves renderer.lifecycle).mono (fun _ _ => trivial)
      fun _ _ => trivial

theorem perform_abides [Clockwork] (renderer : Renderer) (turn : Turn) :
    (renderer.perform turn : Act σ τ _).Abides renderer.lifecycle.phase (·.lifecycle.phase) := by
  -- Each turn leads from the phase of the lifecycle to that of the lifecycle it leaves.
  have answers : (renderer.answer turn : Act σ τ _).Abides renderer.lifecycle.phase
      fun given => given.2.lifecycle.phase := by
    cases turn with
    | load image scale =>
      exact (renderer.lifecycle.load_abides image scale).bind fun _ => abides_pure rfl
    | unload =>
      have unloaded : (renderer.lifecycle.unload : Act σ τ _).Abides renderer.lifecycle.phase
          fun result => result.2.phase := renderer.lifecycle.unload_abides fun _ => rfl
      exact unloaded.bind fun _ => abides_pure rfl
    | reset width height => exact (silent_ofFaulty _).then fun _ => abides_pure rfl
    | tick =>
      exact (renderer.pipeline.tick_abides renderer.lifecycle).bind fun _ => abides_pure rfl
  exact answers.bind fun _ => abides_pure rfl

end Renderer

/-! ## §3 The agreement -/

namespace Renderer

open Bench

variable [Surface τ] {renderer : Renderer} {rig : Rig Bench τ} {failed : Nat}

/-- A prank changes nothing in stock. -/
theorem sameStock_of_prank (bench : Bench) (prank : Prank) :
    SameStock bench { bench with mischief := bench.mischief.add prank.name } := by
  cases prank <;> exact ⟨rfl, rfl, rfl, rfl, rfl⟩

/-- A trial keeps the agreement, and every call in it is served. -/
theorem undergo_stocked [Clockwork] {trial : Trial} {outcome : Outcome Bench τ Renderer}
    (stocked : Stocked renderer.lifecycle.phase failed rig.machine.state)
    (run : (renderer.undergo trial).run rig = .ok outcome) :
    Stocked outcome.value.lifecycle.phase (failed + failures .destroy outcome.journal.calls)
        outcome.rig.machine.state ∧
      ∀ call ∈ outcome.journal.calls, Serves call := by
  cases trial with
  | turn turn => exact stocked.run (perform_moves renderer turn) (perform_abides renderer turn) run
  -- A key makes a call like any other, and it leaves the lifecycle alone.
  | key policy event state =>
    obtain ⟨inner, forwards, rfl⟩ := Act.run_map_eq_ok_iff.1 run
    exact stocked.run (policy.forward_moves _ event state)
      (policy.forward_abides renderer.lifecycle event state) forwards
  | prank prank =>
    -- A prank changes what the core will answer, and nothing that it has in stock.
    obtain rfl := Except.ok.inj run
    refine ⟨stocked.of_sameStock (sameStock_of_prank _ prank), ?_⟩
    intro _ impossible
    cases impossible

theorem undergoAll_stocked [Clockwork] {trials : List Trial} {outcome : Outcome Bench τ Renderer}
    (stocked : Stocked renderer.lifecycle.phase failed rig.machine.state)
    (run : (renderer.undergoAll trials).run rig = .ok outcome) :
    Stocked outcome.value.lifecycle.phase (failed + failures .destroy outcome.journal.calls)
        outcome.rig.machine.state ∧
      ∀ call ∈ outcome.journal.calls, Serves call := by
  induction trials generalizing renderer rig failed outcome with
  | nil =>
    obtain rfl := Except.ok.inj run
    exact ⟨stocked, fun _ impossible => nomatch impossible⟩
  | cons trial trials ih =>
    obtain ⟨first, rest, hfirst, hrest, rfl⟩ := Act.run_bind_eq_ok_iff.1 run
    -- The first trial leaves the agreement for the others, with the destructions that have failed
    -- in it.
    obtain ⟨middle, served⟩ := undergo_stocked stocked hfirst
    obtain ⟨final, more⟩ := ih middle hrest
    have counted : failures .destroy (first.journal ++ rest.journal : Journal).calls =
        failures .destroy first.journal.calls + failures .destroy rest.journal.calls := by
      rw [Journal.calls_append]
      exact List.countP_append
    refine ⟨?_, ?_⟩
    · dsimp only
      rwa [counted, ← Nat.add_assoc]
    · dsimp only
      rw [Journal.calls_append]
      exact List.forall_mem_append.2 ⟨served, more⟩

end Renderer

/-! ## §4 The books

The core counts its blocks and instances, and the journal has the destructions that have failed.
The agreement of §3 makes these numbers those of the lifecycle. -/

namespace Bench

/-- The core counts what the lifecycle has in its hands and what has been lost. -/
theorem Stocked.lengths {lifecycle : Lifecycle} {failed : Nat} {bench : Bench}
    (stocked : Stocked lifecycle.phase failed bench) :
    bench.blocks.length = (if lifecycle.isLoaded then 1 else 0) + failed ∧
      bench.instances.length = (if lifecycle.isLoaded then 1 else 0) + failed := by
  obtain ⟨lost, length, blocks⟩ := stocked.blocks
  obtain ⟨stuck, count, instances⟩ := stocked.instances
  rw [blocks.items, instances.items, List.length_append, List.length_append, length, count,
    Nat.add_comm failed, Nat.add_comm failed]
  cases lifecycle <;> exact ⟨rfl, rfl⟩

/-- The core that has been told to fail says so, and not that something is missing. -/
theorem Serves.not_missing {call : NativeCall} {cause : Error} (serves : Serves call)
    (fails : call.answer = .error cause) :
    (∀ handle, cause ≠ noInstance handle) ∧
      ∀ addr, cause ≠ .native ("free of unallocated block " ++ Text.address addr) := by
  obtain rfl := serves cause fails
  constructor
  · intro handle same
    have letters := congrArg (String.toList · |>.head?) (Error.native.inj same)
    simp at letters
  · intro addr same
    have letters := congrArg (String.toList · |>.head?) (Error.native.inj same)
    simp at letters

end Bench

namespace Renderer

open Bench

variable [Surface τ]

/-- Whatever is done on the bench, and whenever the core is told to fail: it has as many blocks and
as many instances as destructions have failed, and one more of each if a rom is running.  The block
of the running rom, with its length, and its instance are among them.  No call is answered that an
instance or a block is missing. -/
theorem stock_agrees [Clockwork] (heapSize : UInt32) (screen : Screen) (stepStatus : Int32)
    (screenPastEnd : Bool) (display : τ) (stopwatch : Stopwatch) (scale : UInt32)
    (stepMode : StepMode) (trials : List Trial) {outcome : Outcome Bench τ Renderer}
    (run : (undergoAll ⟨.empty, { scale, stepMode }⟩ trials).run
      ⟨Bench.machine { heapSize, screen, stepStatus, screenPastEnd }, display, stopwatch⟩ =
        .ok outcome) :
    outcome.rig.machine.state.blocks.length =
        (if outcome.value.lifecycle.isLoaded then 1 else 0) +
          failures .destroy outcome.journal.calls ∧
      outcome.rig.machine.state.instances.length =
        (if outcome.value.lifecycle.isLoaded then 1 else 0) +
          failures .destroy outcome.journal.calls ∧
      (∀ current, outcome.value.lifecycle = .loaded current →
        blockLen? outcome.rig.machine.state.blocks current.rom.addr = some current.rom.len ∧
          current.handle ∈ outcome.rig.machine.state.instances) ∧
      ∀ call ∈ outcome.journal.calls, ∀ cause, call.answer = .error cause →
        (∀ handle, cause ≠ noInstance handle) ∧
          ∀ addr, cause ≠ .native ("free of unallocated block " ++ Text.address addr) := by
  have start : Stocked (Lifecycle.phase .empty) 0 _ :=
    stocked_new heapSize screen stepStatus screenPastEnd
  obtain ⟨stocked, served⟩ := undergoAll_stocked (by exact start) run
  rw [Nat.zero_add] at stocked
  obtain ⟨blocks, instances⟩ := stocked.lengths
  -- The lengths are those of the phase, and the running rom is the block and the instance in it.
  refine ⟨blocks, instances, fun current loaded => ?_, fun call member cause fails => ?_⟩
  · rw [loaded] at stocked
    exact ⟨stocked.blockLen?_eq rfl, stocked.live⟩
  · exact (served call member).not_missing fails

/-- The first load finds no block.  The canvas is too small for the second, whose instance cannot
be destroyed; the third is refused; the rom of the fourth is running when the last instance cannot
be destroyed either, and the fifth is still running in the end. -/
def pranks : List Trial :=
  [.prank .malloc, .turn (.load #[7] 1), .prank .destroy, .turn (.load #[7] 9), .prank .create,
    .turn (.load #[7] 1), .turn (.load #[7, 8] 1), .turn .tick, .prank .destroy, .turn .unload,
    .turn (.load #[9] 1), .turn .tick]

/-- A canvas for the bench core of one point, which cannot be enlarged. -/
def smallCanvas : Canvas := (Canvas.new .rgba).withLimit 1 1

theorem stock_agrees_of_pranks :
    ∃ outcome current,
      (undergoAll ⟨.empty, { scale := 1, stepMode := .vsync }⟩ pranks).run
          ⟨Bench.machine { heapSize := 64, screen := ⟨1, 1⟩ }, smallCanvas, {}⟩ = .ok outcome ∧
      outcome.value.lifecycle = .loaded current ∧
      outcome.rig.machine.state.blocks.length = 3 ∧
      outcome.rig.machine.state.instances.length = 3 ∧
      blockLen? outcome.rig.machine.state.blocks current.rom.addr = some current.rom.len ∧
      current.handle ∈ outcome.rig.machine.state.instances := by
  -- The run is evaluated for its end and for the destructions that have failed in it.
  obtain ⟨outcome, run, running, failed⟩ : ∃ outcome,
      (undergoAll ⟨.empty, { scale := 1, stepMode := .vsync }⟩ pranks).run
          ⟨Bench.machine { heapSize := 64, screen := ⟨1, 1⟩ }, smallCanvas, {}⟩ = .ok outcome ∧
        outcome.value.lifecycle.isLoaded = true ∧
        failures .destroy outcome.journal.calls = 2 := by
    apply Checked.exists_of_any
    decide +kernel
  obtain ⟨blocks, instances, books, -⟩ :=
    stock_agrees 64 ⟨1, 1⟩ 0 false smallCanvas {} 1 .vsync pranks run
  rw [running, failed] at blocks instances
  cases loaded : outcome.value.lifecycle with
  | empty =>
    rw [loaded] at running
    cases running
  | loaded current =>
    obtain ⟨block, live⟩ := books current loaded
    exact ⟨outcome, current, run, loaded, blocks, instances, block, live⟩

end Renderer

end Handheld
