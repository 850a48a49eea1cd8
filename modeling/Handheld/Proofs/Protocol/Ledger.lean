import Handheld.Bench.Core
import Handheld.Display.Canvas
import Handheld.Proofs.Protocol.Safety
import Handheld.Rehearsal.Platform

/-!
# Accounting for Native Memory

An auditor who sees nothing but the native calls can keep a ledger of what the core has given and
has not got back.  The main result says that this ledger is always explained by the state of the
controller and by the calls that failed: what is outstanding is the buffer of the running rom, one
block for every instance that could not be destroyed, and one block for every block that the core
would not take back.
-/

namespace Handheld

/-! ## §1 The ledger

A ledger knows nothing of the controller.  It enters one call after another, and what it has on its
list at the end is what has been acquired and not been given back. -/

/-- What an auditor knows from the native calls. -/
structure Ledger where
  /-- The blocks that have been given and not taken back, the most recent one first. -/
  outstanding : List Region := []
  /-- The instances that have been created and not destroyed. -/
  instances : List Handle := []
  /-- The block that the most recent instance was created from. -/
  origin : Option Region := none
  /-- The blocks of the instances that could not be destroyed. -/
  stranded : List Region := []
  /-- The instances that could not be destroyed. -/
  undestroyed : List Handle := []
  /-- The blocks that the core would not take back. -/
  unreturned : List Region := []
deriving DecidableEq, Repr

namespace Ledger

/-- Enters a call.  An address stands for the block that was given there most recently. -/
def enter (ledger : Ledger) : NativeCall → Ledger
  | ⟨.malloc len, .ok addr⟩ =>
    { ledger with outstanding := (Region.ofAddress? addr len).toList ++ ledger.outstanding }
  | ⟨.create rom len, .ok (some handle)⟩ =>
    { ledger with instances := handle :: ledger.instances, origin := Region.ofAddress? rom len }
  | ⟨.destroy handle, .ok ()⟩ => { ledger with instances := ledger.instances.erase handle }
  | ⟨.destroy handle, .error _⟩ =>
    { ledger with
      stranded := ledger.origin.toList ++ ledger.stranded
      undestroyed := handle :: ledger.undestroyed }
  | ⟨.free addr, .ok ()⟩ =>
    { ledger with outstanding := ledger.outstanding.eraseP (·.addr == addr) }
  | ⟨.free addr, .error _⟩ =>
    { ledger with
      unreturned := (ledger.outstanding.find? (·.addr == addr)).toList ++ ledger.unreturned }
  | _ => ledger

/-- The ledger of a list of calls. -/
def ofCalls (calls : List NativeCall) : Ledger := calls.foldl enter {}

end Ledger

/-- The call is one of a function, and it has failed. -/
def NativeCall.isFailed (function : NativeFunction) (call : NativeCall) : Bool :=
  call.request.function == function && !call.answer.isOk

/-- The number of calls of a function that have failed. -/
def failures (function : NativeFunction) (calls : List NativeCall) : Nat :=
  calls.countP (NativeCall.isFailed function)

/-- The ledger of the calls is explained by the rom that is running. -/
structure Accounted (current : Option LoadedRom) (calls : List NativeCall) : Prop where
  /-- Nothing is outstanding but the buffer of the running rom and what failed calls have
  cost. -/
  blocks : (Ledger.ofCalls calls).outstanding.Perm
    ((current.map LoadedRom.rom).toList ++ (Ledger.ofCalls calls).stranded ++
      (Ledger.ofCalls calls).unreturned)
  /-- Every destruction that failed has cost one block. -/
  stranded : (Ledger.ofCalls calls).stranded.length = failures .destroy calls
  /-- Every return that failed has cost one block. -/
  unreturned : (Ledger.ofCalls calls).unreturned.length = failures .free calls
  /-- No instance is there but the running one and those that could not be destroyed. -/
  instances : (Ledger.ofCalls calls).instances.Perm
    ((current.map LoadedRom.handle).toList ++ (Ledger.ofCalls calls).undestroyed)
  undestroyed : (Ledger.ofCalls calls).undestroyed.length = failures .destroy calls
  /-- If nothing failed, then only what the running rom needs is outstanding. -/
  clean : failures .destroy calls = 0 → failures .free calls = 0 →
    (Ledger.ofCalls calls).outstanding = (current.map LoadedRom.rom).toList ∧
      (Ledger.ofCalls calls).instances = (current.map LoadedRom.handle).toList

/-! ## §2 The ledger of a phase

The phase explains the ledger: what is in the controller's hands stands on top, and everything below
was lost with a call that failed.  One call keeps this, by cases on the step of the protocol. -/

/-- The block that is in the controller's hands. -/
def Phase.block? : Phase → Option Region
  | .idle => none
  | .holding block | .running block _ | .vacated block => some block

/-- The instance that is running. -/
def Phase.handle? : Phase → Option Handle
  | .running _ handle => some handle
  | .idle | .holding _ | .vacated _ => none

/-- A ledger is explained by a phase, after so many destructions and so many returns have
failed.  What is in the controller's hands is the most recent entry. -/
structure Balanced (phase : Phase) (ledger : Ledger) (destroys frees : Nat) : Prop where
  outstanding : ∃ lost, ledger.outstanding = phase.block?.toList ++ lost ∧
    lost.Perm (ledger.stranded ++ ledger.unreturned)
  stranded : ledger.stranded.length = destroys
  unreturned : ledger.unreturned.length = frees
  instances : ledger.instances = phase.handle?.toList ++ ledger.undestroyed
  undestroyed : ledger.undestroyed.length = destroys
  origin : ∀ block handle, phase = .running block handle → ledger.origin = some block

theorem balanced_empty : Balanced .idle {} 0 0 where
  outstanding := ⟨[], rfl, .nil⟩
  stranded := rfl
  unreturned := rfl
  instances := rfl
  undestroyed := rfl
  origin := by simp

/-- A call for an instance leaves the ledger as it is, unless it destroys the instance. -/
theorem Ledger.enter_of_carried {request : Request} {handle : Handle} (ledger : Ledger)
    (answer : Except Error request.Answer) (carried : request.handle? = some handle)
    (kept : request.function ≠ .destroy) : ledger.enter ⟨request, answer⟩ = ledger := by
  cases request <;> simp_all [Request.handle?, Request.function, Ledger.enter]

theorem Region.ofAddress?_addr (block : Region) :
    ofAddress? block.addr block.len = some block := by
  simp [ofAddress?, block.addr_ne_zero]

/-- The ledger after a block has been given back or refused: one entry moves or goes. -/
theorem Balanced.free {phase : Phase} {ledger : Ledger} {destroys frees : Nat} {block : Region}
    (balanced : Balanced phase ledger destroys frees) (held : phase.block? = some block)
    (alone : phase.handle? = none) (answer : Except Error Unit) :
    Balanced .idle (ledger.enter ⟨.free block.addr, answer⟩) destroys
      (frees + if answer.isOk = false then 1 else 0) := by
  obtain ⟨⟨lost, outstanding, perm⟩, stranded, unreturned, instances, undestroyed, -⟩ := balanced
  -- Nothing runs in such a phase, so the block is the only entry that is not a loss.
  rw [held] at outstanding
  rw [alone] at instances
  cases answer with
  | ok =>
    -- The block is the most recent entry, so it is the one that goes.
    refine ⟨⟨lost, ?_, perm⟩, stranded, unreturned, instances, undestroyed, by simp⟩
    simp [Ledger.enter, outstanding, Phase.block?]
  | error cause =>
    -- It stays outstanding, and from now on the failed call explains it.
    refine ⟨⟨block :: lost, ?_, ?_⟩, stranded, ?_, instances, undestroyed, by simp⟩
    · simp [Ledger.enter, outstanding, Phase.block?]
    · simp only [Ledger.enter, outstanding]
      simpa using (perm.cons block).trans List.perm_middle.symm
    · simp [Ledger.enter, outstanding, unreturned, Except.isOk, Except.toBool]

/-- A call that opens or closes nothing: only the phase moves on. -/
theorem Balanced.move {before after : Phase} {ledger : Ledger} {destroys frees : Nat}
    (balanced : Balanced before ledger destroys frees) (block : after.block? = before.block?)
    (handle : after.handle? = before.handle?)
    (other : ∀ block handle, after ≠ .running block handle) :
    Balanced after ledger destroys frees where
  outstanding := block ▸ balanced.outstanding
  stranded := balanced.stranded
  unreturned := balanced.unreturned
  instances := handle ▸ balanced.instances
  undestroyed := balanced.undestroyed
  origin := fun block handle h => absurd h (other block handle)

/-- The ledger is explained by the phase from one call to the next. -/
theorem Phase.Step.balanced {before after : Phase} {call : NativeCall} {ledger : Ledger}
    {destroys frees : Nat} (step : Step before call after)
    (balanced : Balanced before ledger destroys frees) :
    Balanced after (ledger.enter call) (destroys + if call.isFailed .destroy then 1 else 0)
      (frees + if call.isFailed .free then 1 else 0) := by
  cases step with
  -- The null address stands for no block, so nothing is entered.
  | exhausted len =>
    have same : ledger.enter ⟨.malloc len, .ok 0⟩ = ledger := by
      simp [Ledger.enter, Region.ofAddress?]
    rw [same]
    simpa [NativeCall.isFailed, Request.function] using balanced
  | mallocFailed len cause =>
    simpa [Ledger.enter, NativeCall.isFailed, Request.function] using balanced
  -- The new block becomes the most recent entry; the losses stay behind it.
  | given block =>
    obtain ⟨⟨lost, outstanding, perm⟩, stranded, unreturned, instances, undestroyed, -⟩ := balanced
    refine ⟨⟨lost, ?_, perm⟩, ?_, ?_, instances, ?_, by simp⟩
    · simp [Ledger.enter, Region.ofAddress?_addr, outstanding, block?]
    all_goals simpa [Ledger.enter, NativeCall.isFailed, Request.function]
  | returned block answer =>
    simpa [NativeCall.isFailed, Request.function] using balanced.free rfl rfl answer
  -- No instance has come of the block, but the block is still in hand.
  | refused block =>
    have moved : Balanced (.vacated block) ledger destroys frees :=
      balanced.move rfl rfl (by simp)
    simpa [Ledger.enter, NativeCall.isFailed, Request.function] using moved
  | createFailed block cause =>
    have moved : Balanced (.vacated block) ledger destroys frees :=
      balanced.move rfl rfl (by simp)
    simpa [Ledger.enter, NativeCall.isFailed, Request.function] using moved
  -- The block that the instance is created from is remembered as its origin.
  | created block handle =>
    obtain ⟨⟨lost, outstanding, perm⟩, stranded, unreturned, instances, undestroyed, -⟩ := balanced
    refine ⟨⟨lost, outstanding, perm⟩, ?_, ?_, ?_, ?_, ?_⟩
    · simpa [Ledger.enter, NativeCall.isFailed, Request.function]
    · simpa [Ledger.enter, NativeCall.isFailed, Request.function]
    · simpa [Ledger.enter, handle?] using instances
    · simpa [Ledger.enter, NativeCall.isFailed, Request.function]
    · intro block' handle' same
      cases same
      exact Region.ofAddress?_addr block
  | used block answer carried kept =>
    rw [Ledger.enter_of_carried ledger answer carried kept]
    have others := Request.function_ne_of_handle? carried
    simpa [NativeCall.isFailed, kept, others.2.1] using balanced
  -- The instance that runs is the most recent one, so it is the one that goes.
  | destroyed block handle =>
    obtain ⟨⟨lost, outstanding, perm⟩, stranded, unreturned, instances, undestroyed, -⟩ := balanced
    refine ⟨⟨lost, outstanding, perm⟩, stranded, unreturned, ?_, undestroyed, by simp⟩
    simp [Ledger.enter, instances, handle?]
  | destroyFailed block handle cause =>
    -- The block passes from the controller's hands to the stranded ones.
    obtain ⟨⟨lost, outstanding, perm⟩, stranded, unreturned, instances, undestroyed, origin⟩ :=
      balanced
    have origin := origin block handle rfl
    refine ⟨⟨block :: lost, outstanding, ?_⟩, ?_, unreturned, instances, ?_, by simp⟩
    · simpa [Ledger.enter, origin] using perm
    · simp [Ledger.enter, origin, stranded, NativeCall.isFailed, Request.function, Except.isOk,
        Except.toBool]
    · simp [Ledger.enter, undestroyed, NativeCall.isFailed, Request.function, Except.isOk,
        Except.toBool]
  | freed block answer =>
    simpa [NativeCall.isFailed, Request.function] using balanced.free rfl rfl answer

theorem Phase.Steps.balanced {before after : Phase} {calls : List NativeCall} {ledger : Ledger}
    {destroys frees : Nat} (steps : Steps before calls after)
    (balanced : Balanced before ledger destroys frees) :
    Balanced after (calls.foldl Ledger.enter ledger) (destroys + failures .destroy calls)
      (frees + failures .free calls) := by
  induction steps generalizing ledger destroys frees with
  | nil => exact balanced
  | @cons before middle after call calls step _ ih =>
    have next := ih (step.balanced balanced)
    -- A failed call counts at once or with the calls after it.
    have count (function : NativeFunction) (n : Nat) :
        n + failures function (call :: calls) =
          n + (if call.isFailed function then 1 else 0) + failures function calls := by
      unfold failures
      rw [List.countP_cons]
      omega
    rwa [count, count]

/-! ## §3 The ledger of a session

Between two operations the phase is that of the lifecycle, which holds a rom or nothing; so the
ledger is explained by the running rom and the failures alone. -/

/-- A phase in which no block is on its way stands for a running rom or for none. -/
theorem Lifecycle.phase_block? (lifecycle : Lifecycle) :
    lifecycle.phase.block? = lifecycle.current?.map LoadedRom.rom := by
  cases lifecycle <;> rfl

theorem Lifecycle.phase_handle? (lifecycle : Lifecycle) :
    lifecycle.phase.handle? = lifecycle.current?.map LoadedRom.handle := by
  cases lifecycle <;> rfl

/-- The calls that lead from the first phase to that of a lifecycle are accounted for by it. -/
theorem Lifecycle.accounted_of_steps {lifecycle : Lifecycle} {calls : List NativeCall}
    (steps : Phase.Steps .idle calls lifecycle.phase) : Accounted lifecycle.current? calls := by
  obtain ⟨⟨lost, outstanding, perm⟩, stranded, unreturned, instances, undestroyed, -⟩ :=
    steps.balanced balanced_empty
  rw [Nat.zero_add] at stranded unreturned undestroyed
  rw [phase_block?] at outstanding
  rw [phase_handle?] at instances
  refine ⟨?_, stranded, unreturned, .of_eq instances, undestroyed, ?_⟩
  · rw [Ledger.ofCalls, outstanding, List.append_assoc]
    -- What is outstanding differs from what is listed by the order of the losses only.
    exact perm.append_left _
  · intro destroys frees
    -- Without failures all three lists of losses are empty.
    have no_stranded := List.eq_nil_of_length_eq_zero (stranded.trans destroys)
    have no_unreturned := List.eq_nil_of_length_eq_zero (unreturned.trans frees)
    have no_undestroyed := List.eq_nil_of_length_eq_zero (undestroyed.trans destroys)
    rw [no_stranded, no_unreturned, List.append_nil, List.perm_nil] at perm
    rw [Ledger.ofCalls, outstanding, instances, perm, no_undestroyed]
    simp only [List.append_nil, and_self]

namespace Emulator

variable {σ τ : Type} [NativeCore σ] [Surface τ]

/-- Between two operations of a session, what is outstanding is explained by the running rom and
by the calls that failed; at the end of the controller, by the latter alone. -/
theorem session_accounted [Clockwork] (options : EmulatorOptions) (operations : List Operation)
    (rig : Rig σ τ) :
    (∀ outcome, ((new options).performAll operations).run rig = .ok outcome →
      Accounted outcome.value.2.lifecycle.current? outcome.journal.calls) ∧
    (∀ outcome, (session options operations).run rig = .ok outcome →
      Accounted none outcome.journal.calls) := by
  constructor
  · intro outcome h
    have steps := ((new options).performAll_abides operations).steps_of_run h
    exact Lifecycle.accounted_of_steps steps
  · intro outcome h
    have steps : Phase.Steps .idle outcome.journal.calls Lifecycle.empty.phase :=
      (session_abides options operations).steps_of_run h
    exact Lifecycle.accounted_of_steps steps

/-- A bench core of 64 bytes that cannot destroy its first instance, and a canvas. -/
def reluctantRig : Rig Bench Canvas where
  machine := Bench.machine { heapSize := 64, screen := ⟨1, 1⟩, mischief := { failDestroy := true } }
  display := .new .rgba

/-- The reload fails and strands the first rom's block; the load after it succeeds. -/
def reluctantLoads : List Operation := [.loadRom #[7], .tick, .loadRom #[8], .loadRom #[9]]

theorem session_accounted_of_failed_destroy :
    (∃ outcome,
      ((new { scale := 1 }).performAll reluctantLoads).run reluctantRig = .ok outcome ∧
      outcome.value.2.isLoaded = true ∧ failures .destroy outcome.journal.calls = 1 ∧
      Accounted outcome.value.2.lifecycle.current? outcome.journal.calls) ∧
    ∃ outcome, (session { scale := 1 } reluctantLoads).run reluctantRig = .ok outcome ∧
      Accounted none outcome.journal.calls := by
  have accounted := session_accounted { scale := 1 } reluctantLoads reluctantRig
  constructor
  -- That there is an outcome, and with a failed destroy in it, is evaluated.
  · have facts : (((new { scale := 1 }).performAll reluctantLoads).run reluctantRig).toOption.any
        fun outcome =>
          outcome.value.2.isLoaded && failures .destroy outcome.journal.calls == 1 := by
      decide +kernel
    cases hrun : ((new { scale := 1 }).performAll reluctantLoads).run reluctantRig with
    | error cut => simp [hrun, Except.toOption] at facts
    | ok outcome =>
      simp only [hrun, Except.toOption, Option.any_some, Bool.and_eq_true, beq_iff_eq] at facts
      exact ⟨outcome, rfl, facts.1, facts.2, accounted.1 outcome hrun⟩
  · have completes : ((session { scale := 1 } reluctantLoads).run reluctantRig).isOk := by
      decide +kernel
    cases hrun : (session { scale := 1 } reluctantLoads).run reluctantRig with
    | error cut => simp [hrun, Except.isOk, Except.toBool] at completes
    | ok outcome => exact ⟨outcome, rfl, accounted.2 outcome hrun⟩

end Emulator

end Handheld
