import Handheld.Proofs.Protocol.Phase
import Handheld.Proofs.Session.Execution
import Handheld.Proofs.Session.Operation

/-!
# Acts That Keep to the Protocol

`Act.Abides` says of an act that its native calls lead from one phase of the protocol to
another.  The phase in the end may depend on the value that the act gives.  A fault may cut the
act short anywhere; the calls up to there have kept to the protocol as well.

§1 has the rules for sequencing; every other section goes through the functions of one module
of the controller and states for each of them between which phases it leads.
-/

namespace Handheld

open Phase (Step Steps)

/-! ## §1 Rules

An act abides if its native calls lead from one phase to another, which may depend on the value of
the act.  There is a rule for each way to build acts; acts that make no native calls are silent, and
they stay in their phase. -/

namespace Act

variable {σ τ α β : Type}

/-- From every rig the native calls of the act lead from a phase to the phase that belongs to
the value of the act; if there is none, they lead somewhere. -/
def Abides (act : Act σ τ α) (before : Phase) (after : α → Phase) : Prop :=
  ∀ rig, match act.run rig with
    | .ok outcome => Steps before outcome.journal.calls (after outcome.value)
    | .error cut => ∃ phase, Steps before cut.journal.calls phase

/-- The act makes no native calls. -/
def Silent (act : Act σ τ α) : Prop := ∀ rig, (act.journal rig).calls = []

theorem Abides.steps {act : Act σ τ α} {before : Phase} {after : α → Phase}
    (abides : act.Abides before after) (rig : Rig σ τ) :
    ∃ phase, Steps before (act.journal rig).calls phase := by
  have h := abides rig
  unfold journal
  cases hrun : act.run rig with
  | ok outcome =>
    rw [hrun] at h
    exact ⟨_, h⟩
  | error cut =>
    rw [hrun] at h
    exact h

theorem Abides.steps_of_run {act : Act σ τ α} {before : Phase} {after : α → Phase}
    (abides : act.Abides before after) {rig : Rig σ τ} {outcome : Outcome σ τ α}
    (h : act.run rig = .ok outcome) :
    Steps before outcome.journal.calls (after outcome.value) := by
  have steps := abides rig
  rwa [h] at steps

theorem abides_pure {value : α} {phase : Phase} {after : α → Phase} (h : after value = phase) :
    (pure value : Act σ τ α).Abides phase after := by
  intro rig
  show Steps phase [] (after value)
  rw [h]
  exact .nil phase

theorem Abides.bind {first : Act σ τ α} {next : α → Act σ τ β} {before : Phase}
    {middle : α → Phase} {after : β → Phase} (left : first.Abides before middle)
    (right : ∀ value, (next value).Abides (middle value) after) :
    (first >>= next).Abides before after := by
  intro rig
  have first_steps := left rig
  -- A fault may come in the first act, in the second, or not at all.
  rw [run_bind]
  cases hfirst : first.run rig with
  | error cut =>
    rw [hfirst] at first_steps
    exact first_steps
  | ok outcome =>
    rw [hfirst] at first_steps
    have next_steps := right outcome.value outcome.rig
    dsimp only
    cases hnext : (next outcome.value).run outcome.rig with
    -- The calls of the first act are over, and those of the second go on from where they have led.
    | error cut =>
      rw [hnext] at next_steps
      obtain ⟨phase, next_steps⟩ := next_steps
      refine ⟨phase, ?_⟩
      simpa only [Journal.calls_append] using first_steps.append next_steps
    | ok last =>
      rw [hnext] at next_steps
      simpa only [Journal.calls_append] using first_steps.append next_steps

/-- A call is allowed if every answer to it is. -/
theorem abides_ask [NativeCore σ] {request : Request} {before : Phase}
    {after : Except Error request.Answer → Phase}
    (allowed : ∀ answer, Step before ⟨request, answer⟩ (after answer)) :
    (ask request : Act σ τ _).Abides before after := by
  intro rig
  simp only [ask]
  cases NativeCore.answer request rig.machine with
  | error fault => exact ⟨before, .nil before⟩
  | ok reply => exact .single (allowed reply.1)

theorem Silent.abides {act : Act σ τ α} (silent : act.Silent) (phase : Phase) :
    act.Abides phase fun _ => phase := by
  intro rig
  -- No calls leave the phase where it is, also if a fault ends the act.
  have h := silent rig
  unfold journal at h
  cases hrun : act.run rig with
  | ok outcome =>
    rw [hrun] at h
    show Steps phase outcome.journal.calls phase
    rw [h]
    exact .nil phase
  | error cut =>
    rw [hrun] at h
    refine ⟨phase, ?_⟩
    rw [h]
    exact .nil phase

/-- After a silent act everything is as before. -/
theorem Silent.then {first : Act σ τ α} {next : α → Act σ τ β} {before : Phase}
    {after : β → Phase} (silent : first.Silent)
    (right : ∀ value, (next value).Abides before after) :
    (first >>= next).Abides before after :=
  (silent.abides before).bind right

theorem silent_pure (value : α) : (pure value : Act σ τ α).Silent := fun _ => rfl

theorem Silent.bind {first : Act σ τ α} {next : α → Act σ τ β} (left : first.Silent)
    (right : ∀ value, (next value).Silent) : (first >>= next).Silent := by
  intro rig
  have first_calls := left rig
  unfold journal at first_calls ⊢
  -- As for acts that abide: a fault comes in the first act, in the second, or not at all.
  rw [run_bind]
  cases hfirst : first.run rig with
  | error cut =>
    rw [hfirst] at first_calls
    exact first_calls
  | ok outcome =>
    rw [hfirst] at first_calls
    have next_calls := right outcome.value outcome.rig
    unfold journal at next_calls
    dsimp only
    cases hnext : (next outcome.value).run outcome.rig with
    | error cut =>
      rw [hnext] at next_calls
      simp only [Journal.calls_append, first_calls, next_calls, List.append_nil]
    | ok last =>
      rw [hnext] at next_calls
      simp only [Journal.calls_append, first_calls, next_calls, List.append_nil]

theorem silent_note (diagnostic : Diagnostic) : (note diagnostic : Act σ τ Unit).Silent :=
  fun _ => rfl

theorem silent_ofNoted (noted : Noted α) : (ofNoted noted : Act σ τ α).Silent :=
  fun _ => Journal.calls_notes noted.notes

theorem silent_ofFaulty (computation : Faulty α) : (ofFaulty computation : Act σ τ α).Silent := by
  intro rig
  cases computation <;> rfl

theorem silent_memory : (memory : Act σ τ Bytes).Silent := fun _ => rfl

theorem silent_setMemory (bytes : Bytes) : (setMemory bytes : Act σ τ Unit).Silent := fun _ => rfl

theorem silent_readStopwatch : (readStopwatch : Act σ τ Nat).Silent := fun _ => rfl

theorem silent_encoding [Surface τ] : (encoding : Act σ τ PixelEncoding).Silent := fun _ => rfl

theorem silent_present [Surface τ] (request : SurfaceRequest) :
    (present request : Act σ τ (Except Error Unit)).Silent := by
  intro rig
  simp only [journal, present]
  cases request.perform rig.display <;> rfl

theorem silent_noteError (result : Except Error α) (diagnostic : Error → Diagnostic) :
    (noteError result diagnostic : Act σ τ Unit).Silent := by
  cases result with
  | ok value => exact silent_pure ()
  | error cause => exact silent_note (diagnostic cause)

end Act

/-! ## §2 Regions

What an allocation leaves in the controller's hands follows from its answer: a block, or nothing. -/

/-- The phase in which an allocation ends. -/
def Phase.ofBlock : Except Error Region → Phase
  | .ok block => .holding block
  | .error _ => .idle

namespace Region

open Act

variable {σ τ : Type}

theorem silent_writeMemory (addr : UInt32) (bytes : Bytes) :
    (writeMemory addr bytes : Act σ τ _).Silent := by
  refine silent_memory.bind fun memory => ?_
  split
  · exact (silent_setMemory _).bind fun _ => silent_pure _
  · exact silent_pure _

theorem silent_viewMemory (addr : UInt32) (len : Nat) :
    (viewMemory addr len : Act σ τ _).Silent :=
  silent_memory.bind fun _ => silent_pure _

variable [NativeCore σ]

theorem fill_abides (block : Region) (bytes : Bytes) :
    (block.fill bytes : Act σ τ _).Abides (.holding block) Phase.ofBlock := by
  refine (silent_writeMemory block.addr bytes).then fun result => ?_
  cases result with
  | ok => exact (silent_note _).then fun _ => abides_pure rfl
  -- The core hears of the block once more, whatever it answers.
  | error cause =>
    have freed : (ask (.free block.addr) : Act σ τ _).Abides (.holding block) fun _ => .idle :=
      abides_ask fun answer => .returned block answer
    refine freed.bind fun answer => ?_
    exact (silent_noteError answer _).then fun _ => abides_pure rfl

/-- The phase in which a request for `len` bytes ends. -/
private def afterMalloc (len : UInt32) : Except Error UInt32 → Phase
  | .ok addr => (ofAddress? addr len).elim .idle .holding
  | .error _ => .idle

private theorem ask_malloc_abides (len : UInt32) :
    (ask (.malloc len) : Act σ τ _).Abides .idle (afterMalloc len) := by
  refine abides_ask fun answer => ?_
  cases answer with
  | error cause => exact .mallocFailed len cause
  | ok addr =>
    simp only [afterMalloc, ofAddress?]
    split
    · next null => exact null ▸ .exhausted len
    · next valid => exact .given ⟨addr, len, valid⟩

/-- Whatever the core answers, an allocation ends with a block in the controller's hands or with
nothing. -/
theorem allocate_abides (bytes : Bytes) :
    (allocate bytes : Act σ τ _).Abides .idle Phase.ofBlock := by
  unfold allocate
  split
  -- An image whose length is a word is asked a block for.
  · refine (ask_malloc_abides _).bind fun answer => ?_
    cases answer with
    | error cause => exact abides_pure rfl
    | ok addr =>
      simp only [afterMalloc]
      cases ofAddress? addr (UInt32.ofNat bytes.size) with
      | none => exact abides_pure rfl
      | some block => exact fill_abides block bytes
  · exact abides_pure rfl

theorem release_abides (block : Region) :
    (block.release : Act σ τ _).Abides (.vacated block) fun _ => .idle :=
  (silent_note _).then fun _ => abides_ask (Step.freed block)

end Region

/-! ## §3 The life of a rom

Each part of a load has its own phases before and behind it.  They fit together because the program
hands on the block and the instance in its values. -/

/-- The phase in which a launch ends. -/
def Phase.ofRom : Except Error LoadedRom → Phase
  | .ok current => .running current.rom current.handle
  | .error _ => .idle

/-- The phase that a lifecycle stands for. -/
def Lifecycle.phase : Lifecycle → Phase
  | .empty => .idle
  | .loaded current => .running current.rom current.handle

namespace Lifecycle

open Act

variable {σ τ : Type} [NativeCore σ]

/-- The phase in which a request to destroy the instance ends. -/
private def afterDestroy (rom : Region) : Except Error Unit → Phase
  | .ok () => .vacated rom
  | .error _ => .idle

private theorem ask_destroy_abides (handle : Handle) (rom : Region) :
    (ask (.destroy handle) : Act σ τ _).Abides (.running rom handle) (afterDestroy rom) := by
  refine abides_ask fun answer => ?_
  cases answer with
  | ok => exact .destroyed rom handle
  | error cause => exact .destroyFailed rom handle cause

theorem tearDown_abides (handle : Handle) (rom : Region) :
    (tearDown handle rom : Act σ τ _).Abides (.running rom handle) fun _ => .idle := by
  refine (ask_destroy_abides handle rom).bind fun answer => ?_
  -- Only a destroyed instance lets go of its block.
  cases answer with
  | ok => exact Region.release_abides rom
  -- The block stays where it is, and the protocol has done with it.
  | error cause => exact (silent_note _).then fun _ => abides_pure rfl

/-- After an unload nothing runs, and the lifecycle it leaves behind says so. -/
theorem unload_abides (lifecycle : Lifecycle) {after : Except Error Unit × Lifecycle → Phase}
    (idle : ∀ result, after (result, .empty) = .idle) :
    (lifecycle.unload : Act σ τ _).Abides lifecycle.phase after := by
  cases lifecycle with
  | empty => exact abides_pure (idle _)
  | loaded current =>
    refine (silent_note _).then fun _ => ?_
    exact (tearDown_abides current.handle current.rom).bind fun result => abides_pure (idle result)

theorem discard_abides (rom : Region) :
    (discard rom : Act σ τ _).Abides (.vacated rom) fun _ => .idle :=
  (Region.release_abides rom).bind fun result => (silent_noteError result _).abides .idle

/-- A call for the running instance that does not destroy it. -/
theorem ask_abides_of_carried {request : Request} {handle : Handle} (rom : Region)
    (carried : request.handle? = some handle) (kept : request.function ≠ .destroy) :
    (ask request : Act σ τ _).Abides (.running rom handle) fun _ => .running rom handle :=
  abides_ask fun answer => .used rom answer carried kept

theorem askScreen_abides (handle : Handle) (rom : Region) :
    (askScreen handle : Act σ τ _).Abides (.running rom handle) fun _ => .running rom handle := by
  refine (ask_abides_of_carried rom rfl (by simp [Request.function])).bind fun answer => ?_
  cases answer with
  | error cause => exact abides_pure rfl
  -- The height is asked for only if there is a width.
  | ok width =>
    refine (ask_abides_of_carried rom rfl (by simp [Request.function])).bind fun answer => ?_
    cases answer <;> exact abides_pure rfl

variable [Surface τ]

omit [NativeCore σ] in
theorem silent_fitSurface (screen : Screen) (scale : UInt32) :
    (fitSurface screen scale : Act σ τ _).Silent := by
  refine silent_memory.bind fun memory => ?_
  split
  · exact silent_pure _
  · split
    · exact silent_pure _
    · exact (silent_present _).bind fun _ => silent_pure _

theorem configure_abides (handle : Handle) (scale : UInt32) (rom : Region) :
    (configure handle scale : Act σ τ _).Abides (.running rom handle)
      fun _ => .running rom handle := by
  -- A screen that is known concerns the surface and no longer the core.
  refine (askScreen_abides handle rom).bind fun answer => ?_
  cases answer with
  | error cause => exact abides_pure rfl
  | ok screen => exact (silent_fitSurface screen scale).abides _

theorem settle_abides (handle : Handle) (rom : Region) (scale : UInt32) (bytes : Nat) :
    (settle handle rom scale bytes : Act σ τ _).Abides (.running rom handle) Phase.ofRom := by
  refine (configure_abides handle scale rom).bind fun answer => ?_
  cases answer with
  | ok screen => exact (silent_note _).then fun _ => abides_pure rfl
  -- What fails after the instance has been created takes the instance and its block along.
  | error cause =>
    refine (tearDown_abides handle rom).bind fun result => ?_
    exact (silent_noteError result _).then fun _ => abides_pure rfl

/-- The phase in which a request for an instance ends. -/
private def afterCreate (rom : Region) : Except Error (Option Handle) → Phase
  | .ok (some handle) => .running rom handle
  | .ok none | .error _ => .vacated rom

omit [Surface τ] in
private theorem ask_create_abides (rom : Region) :
    (ask (.create rom.addr rom.len) : Act σ τ _).Abides (.holding rom) (afterCreate rom) := by
  refine abides_ask fun answer => ?_
  cases answer with
  | error cause => exact .createFailed rom cause
  | ok handle =>
    cases handle with
    | none => exact .refused rom
    | some handle => exact .created rom handle

theorem boot_abides (rom : Region) (scale : UInt32) (bytes : Nat) :
    (boot rom scale bytes : Act σ τ _).Abides (.holding rom) Phase.ofRom := by
  refine (ask_create_abides rom).bind fun answer => ?_
  -- Without an instance the block is all there is to give back.
  cases answer with
  | error cause => exact (discard_abides rom).bind fun _ => abides_pure rfl
  | ok handle =>
    cases handle with
    | none => exact (discard_abides rom).bind fun _ => abides_pure rfl
    | some handle => exact settle_abides handle rom scale bytes

theorem launch_abides (image : Bytes) (scale : UInt32) :
    (launch image scale : Act σ τ _).Abides .idle Phase.ofRom := by
  unfold launch
  -- An empty image is refused before the core hears of it.
  split
  · exact abides_pure rfl
  · refine (Region.allocate_abides image).bind fun answer => ?_
    cases answer with
    | error cause => exact abides_pure rfl
    | ok rom => exact boot_abides rom scale image.size

/-- A load leads to the phase of the lifecycle that it leaves behind, on every one of its
ways. -/
theorem load_abides (lifecycle : Lifecycle) (image : Bytes) (scale : UInt32) :
    (lifecycle.load image scale : Act σ τ _).Abides lifecycle.phase
      fun result => result.2.phase := by
  -- Whether or not the unload succeeds, the new rom starts from nothing.
  have unloaded : (lifecycle.unload : Act σ τ _).Abides lifecycle.phase fun _ => .idle :=
    lifecycle.unload_abides fun _ => rfl
  refine unloaded.bind fun result => ?_
  -- A load goes on only if the unload has succeeded.
  rcases result with ⟨cause | _, rest⟩
  · exact abides_pure rfl
  · refine (launch_abides image scale).bind fun launched => ?_
    cases launched <;> exact abides_pure rfl

end Lifecycle

/-! ## §4 The render pipeline

A tick uses the instance that runs: its phase is the same before and after. -/

namespace Pipeline

open Act Lifecycle

variable {σ τ : Type}

theorem silent_countFault (pipeline : Pipeline) (status : Int32) :
    (pipeline.countFault status : Act σ τ _).Silent := by
  unfold countFault
  split
  · exact silent_pure _
  · refine (silent_note _).bind fun _ => ?_
    exact (silent_ofFaulty _).bind fun _ => silent_pure _

theorem silent_fetch [Surface τ] (pipeline : Pipeline) (screen : Screen) (addr : UInt32) :
    (pipeline.fetch screen addr : Act σ τ _).Silent := by
  refine silent_encoding.bind fun encoding => ?_
  refine (silent_ofFaulty _).bind fun prepared => ?_
  refine (Region.silent_viewMemory addr _).bind fun viewed => ?_
  cases viewed with
  | error cause => exact silent_pure _
  | ok bytes =>
    dsimp only
    split <;> exact silent_pure _

theorem silent_commit [Clockwork] (pipeline : Pipeline) : (pipeline.commit : Act σ τ _).Silent := by
  refine (silent_ofFaulty _).bind fun clock => ?_
  refine (silent_ofNoted _).bind fun handoff => ?_
  exact (silent_ofFaulty _).bind fun frames => silent_pure _

theorem silent_drawPending [Surface τ] (scale : UInt32) (handoff : Handoff) :
    (drawPending scale handoff : Act σ τ _).Silent := by
  -- The recursion is that of `drawPending`.
  -- A draw that succeeds goes on with the queue that is left.
  cases found : handoff.next.value with
  | mk first rest =>
    cases first with
    | none =>
      rw [drawPending_of_none found]
      exact (silent_ofNoted _).bind fun _ => silent_pure _
    | some first =>
      rw [drawPending_of_some found]
      refine (silent_ofNoted _).bind fun _ => ?_
      refine (silent_present _).bind fun drawn => ?_
      cases drawn with
      | error cause => exact silent_pure _
      | ok => exact silent_drawPending scale rest
termination_by handoff.queue.items.length
decreasing_by exact Handoff.length_next_lt found

theorem silent_publish [Clockwork] [Surface τ] (pipeline : Pipeline) :
    (pipeline.publish : Act σ τ _).Silent := by
  refine pipeline.silent_commit.bind fun committed => ?_
  exact (silent_drawPending _ _).bind fun drawn => silent_pure _

variable [NativeCore σ]

theorem step_abides (pipeline : Pipeline) (handle : Handle) (rom : Region) :
    (pipeline.step handle : Act σ τ _).Abides (.running rom handle)
      fun _ => .running rom handle := by
  refine silent_readStopwatch.then fun now => ?_
  refine (ask_abides_of_carried rom rfl (by simp [Request.function])).bind fun answer => ?_
  cases answer with
  | error cause => exact abides_pure rfl
  | ok status =>
    -- The rest of a step measures and counts; the core has been called.
    refine silent_readStopwatch.then fun later => ?_
    refine (silent_ofFaulty _).then fun stopped => ?_
    exact (silent_countFault stopped status).then fun counted => abides_pure rfl

variable [Surface τ]

theorem tickLoaded_abides [Clockwork] (pipeline : Pipeline) (rom : LoadedRom) :
    (pipeline.tickLoaded rom : Act σ τ _).Abides (.running rom.rom rom.handle)
      fun _ => .running rom.rom rom.handle := by
  refine (pipeline.step_abides rom.handle rom.rom).bind fun stepped => ?_
  -- A tick that fails early has used the instance less often.
  rcases stepped with ⟨cause | _, pipeline⟩
  · exact abides_pure rfl
  refine (ask_abides_of_carried rom.rom rfl (by simp [Request.function])).bind fun answer => ?_
  cases answer with
  | error cause => exact abides_pure rfl
  | ok addr =>
    refine (silent_fetch pipeline rom.screen addr).then fun fetched => ?_
    rcases fetched with ⟨cause | _, pipeline⟩
    · exact abides_pure rfl
    · exact pipeline.silent_publish.abides _

/-- A tick uses the running instance and leaves it running. -/
theorem tick_abides [Clockwork] (pipeline : Pipeline) (lifecycle : Lifecycle) :
    (pipeline.tick lifecycle : Act σ τ _).Abides lifecycle.phase fun _ => lifecycle.phase := by
  cases lifecycle with
  | empty => exact abides_pure rfl
  | loaded rom => exact (pipeline.tickLoaded_abides rom).bind fun _ => abides_pure rfl

end Pipeline

/-! ## §5 The controller

A controller between two operations is in the phase of its lifecycle, whatever the operation was and
whether or not it has failed. -/

namespace UnmappedKeys

open Act

variable {σ τ : Type} [NativeCore σ]

/-- A key event reaches the running instance or nobody. -/
theorem forward_abides (policy : UnmappedKeys) (lifecycle : Lifecycle) (event : KeyEvent)
    (state : ButtonState) :
    (policy.forward lifecycle.handle? event state : Act σ τ _).Abides lifecycle.phase
      fun _ => lifecycle.phase := by
  unfold forward
  split
  · cases lifecycle with
    -- Without a rom the event is dropped, and so it is if no button stands for the key.
    | empty => exact abides_pure rfl
    | loaded current =>
      cases policy.resolve event.key with
      | none => exact abides_pure rfl
      | some button =>
        refine (silent_note _).then fun _ => ?_
        exact Lifecycle.ask_abides_of_carried current.rom rfl (by simp [Request.function])
  · exact abides_pure rfl

end UnmappedKeys

namespace Emulator

open Act

variable {σ τ : Type} [NativeCore σ]

theorem shutDown_abides (emulator : Emulator) :
    (emulator.shutDown : Act σ τ _).Abides emulator.lifecycle.phase fun _ => .idle := by
  have unloaded : (emulator.lifecycle.unload : Act σ τ _).Abides emulator.lifecycle.phase
      fun _ => .idle := emulator.lifecycle.unload_abides fun _ => rfl
  have passed : (emulator.unload : Act σ τ _).Abides emulator.lifecycle.phase fun _ => .idle :=
    unloaded.bind fun _ => abides_pure rfl
  exact passed.bind fun result => (silent_noteError result.1 _).abides .idle

variable [Surface τ]

/-- Every operation leads from the phase of the controller to that of what it leaves behind. -/
theorem perform_abides [Clockwork] (emulator : Emulator) (operation : Operation) :
    (emulator.perform operation : Act σ τ _).Abides emulator.lifecycle.phase
      fun result => result.2.lifecycle.phase := by
  cases operation with
  | loadRom image =>
    -- A load that succeeds also resets the pipeline, which makes no call.
    refine (emulator.lifecycle.load_abides image _).bind fun loaded => ?_
    rcases loaded with ⟨cause | screen, lifecycle⟩
    · exact abides_pure rfl
    · exact (silent_ofFaulty _).then fun pipeline => abides_pure rfl
  | unload =>
    have unloaded : (emulator.lifecycle.unload : Act σ τ _).Abides emulator.lifecycle.phase
        fun result => result.2.phase := emulator.lifecycle.unload_abides fun _ => rfl
    exact unloaded.bind fun _ => abides_pure rfl
  | tick => exact (emulator.pipeline.tick_abides emulator.lifecycle).bind fun _ => abides_pure rfl
  | press event =>
    exact (emulator.unmappedKeys.forward_abides emulator.lifecycle event _).bind
      fun _ => abides_pure rfl
  | release event =>
    exact (emulator.unmappedKeys.forward_abides emulator.lifecycle event _).bind
      fun _ => abides_pure rfl
  | key event =>
    have sent : (emulator.sendKey event : Act σ τ _).Abides emulator.lifecycle.phase
        fun _ => emulator.lifecycle.phase := by
      unfold sendKey
      split
      · exact emulator.unmappedKeys.forward_abides emulator.lifecycle event _
      · exact emulator.unmappedKeys.forward_abides emulator.lifecycle event _
    exact sent.bind fun _ => abides_pure rfl

theorem performAll_abides [Clockwork] (emulator : Emulator) (operations : List Operation) :
    (emulator.performAll operations : Act σ τ _).Abides emulator.lifecycle.phase
      fun result => result.2.lifecycle.phase := by
  induction operations generalizing emulator with
  | nil => exact abides_pure rfl
  -- The phase between two operations is that of the controller that the first leaves behind.
  | cons operation operations ih =>
    refine (emulator.perform_abides operation).bind fun performed => ?_
    exact (ih performed.2).bind fun _ => abides_pure rfl

end Emulator

end Handheld
