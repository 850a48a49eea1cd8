import Handheld.Proofs.Session.Execution
import Handheld.Proofs.Session.Milestone
import Handheld.Session.Emulator

/-!
# How Operations Move a Rig

Whatever an operation does, it reaches the core, the surface and native memory by calls and
writes only.  `Rig.Moves` lists the calls that were made on the way from one rig to another; what
each of them keeps, an operation made of them keeps as well.  Only an operation that may ask for a
block writes to native memory.

§2 goes through the operations other than a tick.  What they show is only a new size, and only a
load does so.
-/

namespace Handheld

/-! ## §1 Moves

A rig moves on by native calls, requests to the surface, writes and readings of the stopwatch; that
a write is allowed only together with requests for blocks is part of the relation.  An invariant of
the machine or of the display is checked against these cases once, and it then holds along every
run. -/

section Moves

variable {σ τ α β : Type} [NativeCore σ] [Surface τ]

/-- One rig becomes another by calls of the given kinds, which are listed with their answers.
Writes to native memory and readings of the stopwatch are no calls; bytes may be written where a
block of their length may be asked for. -/
inductive Rig.Moves (calls : Request → Prop) (shows : SurfaceRequest → Prop) :
    Rig σ τ → List Entry → Rig σ τ → Prop
  | refl (rig : Rig σ τ) : Moves calls shows rig [] rig
  | call {rig after : Rig σ τ} {made : List Entry} {request : Request}
      {answer : Except Error request.Answer} {machine : Machine σ} (allowed : calls request)
      (answered : NativeCore.answer request rig.machine = .ok (answer, machine))
      (rest : Moves calls shows { rig with machine } made after) :
      Moves calls shows rig (.native request answer :: made) after
  | present {rig after : Rig σ τ} {made : List Entry} {request : SurfaceRequest}
      {answer : Except HostError Unit} {display : τ} (allowed : shows request)
      (performed : request.perform rig.display = .ok (answer, display))
      (rest : Moves calls shows { rig with display } made after) :
      Moves calls shows rig (.surface request answer :: made) after
  | write {rig after : Rig σ τ} {made : List Entry} {addr : UInt32} {bytes memory : Bytes}
      (filling : calls (.malloc (.ofNat bytes.size)))
      (written : Memory.write rig.machine.memory addr bytes = .ok memory)
      (rest : Moves calls shows { rig with machine.memory := memory } made after) :
      Moves calls shows rig made after
  | glance {rig after : Rig σ τ} {made : List Entry} (stopwatch : Stopwatch)
      (rest : Moves calls shows { rig with stopwatch } made after) :
      Moves calls shows rig made after

variable {calls : Request → Prop} {shows : SurfaceRequest → Prop} {rig middle after : Rig σ τ}
  {made more : List Entry}

theorem Rig.Moves.trans (first : Moves calls shows rig made middle)
    (second : Moves calls shows middle more after) :
    Moves calls shows rig (made ++ more) after := by
  induction first with
  | refl => exact second
  | call allowed answered _ ih => exact .call allowed answered (ih second)
  | present allowed performed _ ih => exact .present allowed performed (ih second)
  | write filling written _ ih => exact .write filling written (ih second)
  | glance stopwatch _ ih => exact .glance stopwatch (ih second)

/-- More kinds of calls may be allowed. -/
theorem Rig.Moves.mono {others : Request → Prop} {other_shows : SurfaceRequest → Prop}
    (moves : Moves calls shows rig made after)
    (calls_le : ∀ request, calls request → others request)
    (shows_le : ∀ request, shows request → other_shows request) :
    Moves others other_shows rig made after := by
  induction moves with
  | refl => exact .refl _
  | call allowed answered _ ih => exact .call (calls_le _ allowed) answered ih
  | present allowed performed _ ih => exact .present (shows_le _ allowed) performed ih
  | write filling written _ ih => exact .write (calls_le _ filling) written ih
  | glance stopwatch _ ih => exact .glance stopwatch ih

/-- What every call of the given kinds keeps of the machine and every write, the whole way keeps. -/
theorem Rig.Moves.invariant {holds : Machine σ → Prop} (moves : Moves calls shows rig made after)
    (answers : ∀ {request : Request} {answer : Except Error request.Answer}
      {machine next : Machine σ}, calls request →
      NativeCore.answer request machine = .ok (answer, next) → holds machine → holds next)
    (writes : ∀ {machine : Machine σ} {addr : UInt32} {bytes memory : Bytes},
      calls (.malloc (.ofNat bytes.size)) → Memory.write machine.memory addr bytes = .ok memory →
      holds machine → holds { machine with memory })
    (start : holds rig.machine) : holds after.machine := by
  -- Requests to the surface and glances at the stopwatch leave the machine alone.
  induction moves with
  | refl => exact start
  | call allowed answered _ ih => exact ih (answers allowed answered start)
  | present _ _ _ ih => exact ih start
  | write filling written _ ih => exact ih (writes filling written start)
  | glance _ _ ih => exact ih start

/-- What every request of the given kinds keeps of the display, the whole way keeps. -/
theorem Rig.Moves.display_invariant {holds : τ → Prop} (moves : Moves calls shows rig made after)
    (performs : ∀ {request : SurfaceRequest} {answer : Except HostError Unit} {display next : τ},
      shows request → request.perform display = .ok (answer, next) → holds display → holds next)
    (start : holds rig.display) : holds after.display := by
  induction moves with
  | refl => exact start
  | present allowed performed _ ih => exact ih (performs allowed performed start)
  | call _ _ _ ih => exact ih start
  | write _ _ _ ih => exact ih start
  | glance _ _ ih => exact ih start

/-- A call of the given kinds. -/
def Entry.IsOf (calls : Request → Prop) (shows : SurfaceRequest → Prop) : Entry → Prop
  | .native request _ => calls request
  | .surface request _ => shows request
  | .host _ | .diagnostic _ => False

theorem Rig.Moves.kinds (moves : Moves calls shows rig made after) :
    ∀ entry ∈ made, entry.IsOf calls shows := by
  induction moves with
  | refl => simp
  | write _ _ _ ih => exact ih
  | glance _ _ ih => exact ih
  | call allowed _ _ ih => exact List.forall_mem_cons.2 ⟨allowed, ih⟩
  | present allowed _ _ ih => exact List.forall_mem_cons.2 ⟨allowed, ih⟩

/-- Where nothing is shown the surface is asked for nothing. -/
theorem Rig.Moves.surfaceRequests_eq_nil (moves : Moves calls (fun _ => False) rig made after) :
    Journal.surfaceRequests made = [] := by
  refine List.filterMap_eq_nil_iff.2 fun entry listed => ?_
  have kind := moves.kinds entry listed
  cases entry with
  | surface => exact kind.elim
  | native | host | diagnostic => rfl

namespace Act

/-- The act moves every rig by calls of the given kinds, also if a fault cuts it short. -/
def MovesBy (act : Act σ τ α) (calls : Request → Prop) (shows : SurfaceRequest → Prop) : Prop :=
  ∀ rig, match act.run rig with
    | .ok outcome => rig.Moves calls shows outcome.journal.exchanges outcome.rig
    | .error cut => ∃ after, rig.Moves calls shows cut.journal.exchanges after

theorem MovesBy.of_gives {act : Act σ τ α} {value : α} (moves : act.MovesBy calls shows)
    (gives : act.Gives rig value after made) : rig.Moves calls shows made after := by
  obtain ⟨journal, run, rfl⟩ := gives
  have moves := moves rig
  rwa [run] at moves

theorem MovesBy.of_run {act : Act σ τ α} {outcome : Outcome σ τ α}
    (moves : act.MovesBy calls shows) (run : act.run rig = .ok outcome) :
    rig.Moves calls shows outcome.journal.exchanges outcome.rig :=
  moves.of_gives ⟨_, run, rfl⟩

theorem MovesBy.mono {act : Act σ τ α} {others : Request → Prop}
    {other_shows : SurfaceRequest → Prop} (moves : act.MovesBy calls shows)
    (calls_le : ∀ request, calls request → others request)
    (shows_le : ∀ request, shows request → other_shows request) :
    act.MovesBy others other_shows := by
  intro rig
  have moves := moves rig
  cases hrun : act.run rig with
  | ok outcome =>
    rw [hrun] at moves
    exact moves.mono calls_le shows_le
  -- Up to a fault the calls that have been made are of the given kinds as well.
  | error cut =>
    rw [hrun] at moves
    obtain ⟨after, moves⟩ := moves
    exact ⟨after, moves.mono calls_le shows_le⟩

/-- Whatever is called is of the given kinds, also if a fault comes later. -/
theorem MovesBy.isOf {act : Act σ τ α} {entry : Entry} (moves : act.MovesBy calls shows)
    (done : entry ∈ act.journal rig) (exchange : entry.isExchange = true) :
    entry.IsOf calls shows := by
  -- What is no diagnostic stands in the list of the exchanges.
  have listed : entry ∈ (act.journal rig).exchanges := List.mem_filter.2 ⟨done, exchange⟩
  have moves := moves rig
  unfold journal at listed
  cases hrun : act.run rig with
  | ok outcome =>
    rw [hrun] at moves listed
    exact moves.kinds entry listed
  | error cut =>
    rw [hrun] at moves listed
    obtain ⟨after, moves⟩ := moves
    exact moves.kinds entry listed

/-- An act that shows nothing makes no request to the surface. -/
theorem MovesBy.shows_nothing {act : Act σ τ α} {request : SurfaceRequest}
    {answer : Except HostError Unit} (moves : act.MovesBy (fun _ => True) fun _ => False) :
    .surface request answer ∉ act.journal rig := fun done => moves.isOf done rfl

theorem MovesBy.surfaceRequests_eq_nil {act : Act σ τ α}
    (moves : act.MovesBy calls fun _ => False) (rig : Rig σ τ) :
    (act.journal rig).surfaceRequests = [] := by
  -- Only exchanges are requests to the surface.
  rw [← Journal.surfaceRequests_exchanges]
  have moves := moves rig
  unfold journal
  cases hrun : act.run rig with
  | ok outcome =>
    rw [hrun] at moves
    exact moves.surfaceRequests_eq_nil
  | error cut =>
    rw [hrun] at moves
    obtain ⟨after, moves⟩ := moves
    exact moves.surfaceRequests_eq_nil

/-- An act that always gives something is known by what it gives. -/
theorem movesBy_of_gives {act : Act σ τ α}
    (gives : ∀ rig, ∃ value after made, act.Gives rig value after made ∧
      rig.Moves calls shows made after) : act.MovesBy calls shows := by
  intro rig
  obtain ⟨value, after, made, ⟨journal, run, rfl⟩, moves⟩ := gives rig
  rw [run]
  exact moves

theorem MovesBy.bind {first : Act σ τ α} {next : α → Act σ τ β}
    (moves : first.MovesBy calls shows) (then_moves : ∀ value, (next value).MovesBy calls shows) :
    (first >>= next).MovesBy calls shows := by
  intro rig
  have first_moves := moves rig
  rw [run_bind]
  cases hfirst : first.run rig with
  | error cut =>
    rw [hfirst] at first_moves
    exact first_moves
  | ok outcome =>
    rw [hfirst] at first_moves
    have next_moves := then_moves outcome.value outcome.rig
    dsimp only
    -- What the second act does comes after what the first has done, also up to a fault.
    cases hnext : (next outcome.value).run outcome.rig with
    | error cut =>
      rw [hnext] at next_moves
      obtain ⟨after, next_moves⟩ := next_moves
      refine ⟨after, ?_⟩
      simpa only [Journal.exchanges_append] using first_moves.trans next_moves
    | ok last =>
      rw [hnext] at next_moves
      simpa only [Journal.exchanges_append] using first_moves.trans next_moves

theorem movesBy_pure (value : α) : (pure value : Act σ τ α).MovesBy calls shows :=
  fun rig => .refl rig

theorem movesBy_note (diagnostic : Diagnostic) :
    (note diagnostic : Act σ τ Unit).MovesBy calls shows := fun rig => .refl rig

theorem movesBy_noteError (result : Except Error α) (diagnostic : Error → Diagnostic) :
    (noteError result diagnostic : Act σ τ Unit).MovesBy calls shows := by
  cases result with
  | ok => exact movesBy_pure ()
  | error cause => exact movesBy_note (diagnostic cause)

theorem movesBy_ofNoted (noted : Noted α) : (ofNoted noted : Act σ τ α).MovesBy calls shows :=
  movesBy_of_gives fun rig => ⟨_, _, _, gives_ofNoted noted rig, .refl rig⟩

theorem movesBy_ofFaulty (computation : Faulty α) :
    (ofFaulty computation : Act σ τ α).MovesBy calls shows := by
  intro rig
  cases computation with
  | error fault => exact ⟨rig, .refl rig⟩
  | ok value => exact .refl rig

theorem movesBy_memory : (memory : Act σ τ Bytes).MovesBy calls shows := fun rig => .refl rig

theorem movesBy_encoding : (encoding : Act σ τ PixelEncoding).MovesBy calls shows :=
  fun rig => .refl rig

theorem movesBy_readStopwatch : (readStopwatch : Act σ τ Nat).MovesBy calls shows :=
  fun _ => .glance _ (.refl _)

theorem movesBy_ask {request : Request} (allowed : calls request) :
    (ask request : Act σ τ _).MovesBy calls shows := by
  intro rig
  simp only [ask]
  cases answered : NativeCore.answer request rig.machine with
  | error fault => exact ⟨rig, .refl rig⟩
  | ok reply => exact .call allowed answered (.refl _)

theorem movesBy_present {request : SurfaceRequest} (allowed : shows request) :
    (present request : Act σ τ _).MovesBy calls shows := by
  intro rig
  simp only [present]
  cases performed : request.perform rig.display with
  | error fault => exact ⟨rig, .refl rig⟩
  | ok reply => exact .present allowed performed (.refl _)

/-- Writing to native memory needs no call. -/
theorem movesBy_writeMemory (addr : UInt32) {bytes : Bytes}
    (filling : calls (.malloc (.ofNat bytes.size))) :
    (Region.writeMemory addr bytes : Act σ τ _).MovesBy calls shows := by
  refine movesBy_of_gives fun rig => ?_
  cases written : Memory.write rig.machine.memory addr bytes with
  | error cause => exact ⟨_, _, _, gives_writeMemory_refused written, .refl rig⟩
  | ok memory => exact ⟨_, _, _, gives_writeMemory written, .write filling written (.refl _)⟩

end Act

end Moves

/-! ## §2 Loading and unloading

One lemma for each function of a load, with the calls that it may make. -/

/-- A call that does not run an instance. -/
def Request.IsUpkeep (request : Request) : Prop := request.function ≠ .step

/-- A call that looks after an instance or the block at an address: it neither runs an instance nor
acquires anything, and it frees no other block. -/
def Request.Minds (addr : UInt32) : Request → Prop
  | .malloc _ | .create _ _ | .step _ _ => False
  | .free other => other = addr
  | .destroy _ | .screenPointer _ | .screenWidth _ | .screenHeight _ | .setButtonState _ _ _ => True

theorem Request.Minds.isUpkeep {addr : UInt32} {request : Request} (minds : request.Minds addr) :
    request.IsUpkeep := by
  cases request with
  | step => exact minds.elim
  | _ => nofun

/-- A call that makes a frame: it runs an instance or asks where its picture is. -/
def Request.IsFrame (request : Request) : Prop :=
  request.function = .step ∨ request.function = .screenPointer

/-- A request for another size. -/
def SurfaceRequest.IsResize : SurfaceRequest → Prop
  | .resize _ _ => True
  | .draw _ _ => False

/-- A request to draw a picture. -/
def SurfaceRequest.IsDraw : SurfaceRequest → Prop
  | .resize _ _ => False
  | .draw _ _ => True

section Upkeep

variable {σ τ α : Type} [NativeCore σ] [Surface τ] {calls : Request → Prop}
  {shows : SurfaceRequest → Prop}

/-- The act neither runs an instance nor draws. -/
def Act.Tends (act : Act σ τ α) : Prop := act.MovesBy Request.IsUpkeep SurfaceRequest.IsResize

open Act

theorem Region.fill_moves (region : Region) {bytes : Bytes}
    (filling : calls (.malloc (.ofNat bytes.size))) (frees : ∀ addr, calls (.free addr)) :
    (region.fill bytes : Act σ τ _).MovesBy calls shows := by
  apply (movesBy_writeMemory _ filling).bind
  intro written
  cases written with
  | error cause =>
    refine (movesBy_ask (frees _)).bind fun freed => ?_
    exact (movesBy_noteError _ _).bind fun _ => movesBy_pure _
  | ok => exact (movesBy_note _).bind fun _ => movesBy_pure _

theorem Region.allocate_moves (bytes : Bytes) (allocates : ∀ len, calls (.malloc len))
    (frees : ∀ addr, calls (.free addr)) :
    (allocate bytes : Act σ τ _).MovesBy calls shows := by
  unfold allocate
  split
  · apply (movesBy_ask (allocates _)).bind
    intro answer
    cases answer with
    | error cause => exact movesBy_pure _
    | ok addr =>
      dsimp only
      split
      · exact fill_moves _ (allocates _) frees
      · exact movesBy_pure _
  · exact movesBy_pure _

theorem Region.release_moves (region : Region) (frees : calls (.free region.addr)) :
    (region.release : Act σ τ _).MovesBy calls shows :=
  (movesBy_note _).bind fun _ => movesBy_ask frees

namespace Lifecycle

theorem askScreen_moves {handle : Handle} (width : calls (.screenWidth handle))
    (height : calls (.screenHeight handle)) :
    (askScreen handle : Act σ τ _).MovesBy calls shows := by
  apply (movesBy_ask width).bind
  intro answer
  cases answer with
  | error cause => exact movesBy_pure _
  | ok width =>
    apply (movesBy_ask height).bind
    intro answer
    cases answer <;> exact movesBy_pure _

theorem fitSurface_moves (screen : Screen) (scale : UInt32) :
    (fitSurface screen scale : Act σ τ _).MovesBy calls SurfaceRequest.IsResize := by
  refine movesBy_memory.bind fun memory => ?_
  split
  · exact movesBy_pure _
  · split
    · exact movesBy_pure _
    · exact (movesBy_present trivial).bind fun _ => movesBy_pure _

theorem configure_moves {handle : Handle} (width : calls (.screenWidth handle))
    (height : calls (.screenHeight handle)) (scale : UInt32) :
    (configure handle scale : Act σ τ _).MovesBy calls SurfaceRequest.IsResize := by
  apply (askScreen_moves width height).bind
  intro answer
  cases answer with
  | error cause => exact movesBy_pure _
  | ok screen => exact fitSurface_moves screen scale

section Minding

variable {rom : Region} (minds : ∀ request : Request, request.Minds rom.addr → calls request)
include minds

theorem tearDown_moves (handle : Handle) :
    (tearDown handle rom : Act σ τ _).MovesBy calls shows := by
  apply (movesBy_ask (minds (.destroy handle) trivial)).bind
  intro answer
  cases answer with
  | error cause => exact (movesBy_note _).bind fun _ => movesBy_pure _
  | ok => exact rom.release_moves (minds _ rfl)

theorem discard_moves : (discard rom : Act σ τ _).MovesBy calls shows :=
  (rom.release_moves (minds _ rfl)).bind fun _ => movesBy_noteError _ _

theorem settle_moves (handle : Handle) (scale : UInt32) (bytes : Nat) :
    (settle handle rom scale bytes : Act σ τ _).MovesBy calls SurfaceRequest.IsResize := by
  apply (configure_moves (minds _ trivial) (minds _ trivial) scale).bind
  intro answer
  cases answer with
  | error cause =>
    refine (tearDown_moves minds handle).bind fun _ => ?_
    exact (movesBy_noteError _ _).bind fun _ => movesBy_pure _
  | ok screen => exact (movesBy_note _).bind fun _ => movesBy_pure _

theorem boot_moves (creates : calls (.create rom.addr rom.len)) (scale : UInt32) (bytes : Nat) :
    (boot rom scale bytes : Act σ τ _).MovesBy calls SurfaceRequest.IsResize := by
  apply (movesBy_ask creates).bind
  intro answer
  rcases answer with cause | _ | handle
  · exact (discard_moves minds).bind fun _ => movesBy_pure _
  · exact (discard_moves minds).bind fun _ => movesBy_pure _
  · exact settle_moves minds handle scale bytes

end Minding

theorem unload_moves (lifecycle : Lifecycle)
    (minds : ∀ current, lifecycle = .loaded current →
      ∀ request : Request, request.Minds current.rom.addr → calls request) :
    (lifecycle.unload : Act σ τ _).MovesBy calls shows := by
  cases lifecycle with
  | empty => exact movesBy_pure _
  | loaded current =>
    refine (movesBy_note _).bind fun _ => ?_
    exact (tearDown_moves (minds current rfl) current.handle).bind fun _ => movesBy_pure _

/-- An unload runs no instance. -/
theorem unload_tends (lifecycle : Lifecycle) :
    (lifecycle.unload : Act σ τ _).MovesBy Request.IsUpkeep shows :=
  lifecycle.unload_moves fun _ _ _ => Request.Minds.isUpkeep

theorem launch_tends (image : Bytes) (scale : UInt32) :
    (launch image scale : Act σ τ _).Tends := by
  unfold launch
  split
  · exact movesBy_pure _
  · apply (Region.allocate_moves image (fun _ => nofun) fun _ => nofun).bind
    intro answer
    cases answer with
    | error cause => exact movesBy_pure _
    | ok rom => exact boot_moves (fun _ => Request.Minds.isUpkeep) nofun scale image.size

theorem load_tends (lifecycle : Lifecycle) (image : Bytes) (scale : UInt32) :
    (lifecycle.load image scale : Act σ τ _).Tends := by
  apply lifecycle.unload_tends.bind
  intro unloaded
  rcases unloaded with ⟨cause | _, rest⟩
  · exact movesBy_pure _
  · apply (launch_tends image scale).bind
    intro launched
    cases launched <;> exact movesBy_pure _

end Lifecycle

/-- Only the last step of a load reaches the surface. -/
theorem Milestone.advance_moves (milestone : Milestone) (image : Bytes) (scale : UInt32)
    (resizes : milestone.stage = 10 → ∀ width height, shows (.resize width height)) :
    (milestone.advance image scale : Act σ τ _).MovesBy Request.IsUpkeep shows := by
  cases milestone with
  | vacant | admitted | finished => exact movesBy_pure _
  | given rom => exact (movesBy_writeMemory _ nofun).bind fun _ => movesBy_pure _
  | sized => exact movesBy_memory.bind fun _ => movesBy_pure _
  | fitting => exact (movesBy_present (resizes rfl _ _)).bind fun _ => movesBy_pure _
  | occupied | halted | measured | filled | created | wide =>
    exact (movesBy_ask nofun).bind fun _ => movesBy_pure _

/-- Until the screen has passed its check the surface is not reached. -/
theorem Progress.shows_nothing {milestone last : Milestone} {image : Bytes} {scale : UInt32}
    {rig final : Rig σ τ} {made : List Entry}
    (progress : Progress image scale milestone rig made last final) (early : last.stage ≤ 10) :
    rig.Moves Request.IsUpkeep (fun _ => False) made final := by
  induction progress with
  | refl => exact .refl _
  | @step milestone _ _ _ _ _ _ run succeeds rest ih =>
    have later := rest.stage_le
    rw [Milestone.stage_of_advance run succeeds] at later
    have moves : (milestone.advance image scale : Act σ τ _).MovesBy Request.IsUpkeep
        fun _ => False := milestone.advance_moves image scale fun last _ _ => by omega
    exact (moves.of_run run).trans (ih early)

theorem Milestone.advance_tends (milestone : Milestone) (image : Bytes) (scale : UInt32) :
    (milestone.advance image scale : Act σ τ _).Tends :=
  milestone.advance_moves image scale fun _ _ _ => trivial

end Upkeep

/-- An unload leaves nothing behind, whatever the core answers. -/
theorem Lifecycle.unload_value {σ τ : Type} [NativeCore σ] {lifecycle : Lifecycle} {rig : Rig σ τ}
    {outcome : Outcome σ τ (Except Error Unit × Lifecycle)}
    (run : lifecycle.unload.run rig = .ok outcome) : outcome.value.2 = .empty := by
  cases lifecycle with
  | empty =>
    obtain rfl := Except.ok.inj run
    rfl
  | loaded current =>
    obtain ⟨_, last, -, hlast, rfl⟩ := Act.run_bind_eq_ok_iff.1 run
    obtain ⟨_, final, -, hfinal, rfl⟩ := Act.run_bind_eq_ok_iff.1 hlast
    obtain rfl := Except.ok.inj hfinal
    rfl

/-! ## §3 Input -/

/-- A call that sets a button. -/
def Request.IsButton (request : Request) : Prop := request.function = .setButtonState

/-- Setting a button does not run an instance. -/
theorem Request.IsButton.isUpkeep {request : Request} (button : request.IsButton) :
    request.IsUpkeep := by
  intro step
  rw [show request.function = .setButtonState from button] at step
  cases step

theorem UnmappedKeys.forward_moves {σ τ : Type} [NativeCore σ] [Surface τ]
    (policy : UnmappedKeys) (handle : Option Handle) (event : KeyEvent) (state : ButtonState) :
    (policy.forward handle event state : Act σ τ _).MovesBy Request.IsButton fun _ => False := by
  unfold forward
  split
  · split
    · exact (Act.movesBy_note _).bind fun _ => Act.movesBy_ask rfl
    · exact Act.movesBy_pure _
  · exact Act.movesBy_pure _

/-! ## §4 The controller -/

namespace Emulator

open Act

variable {σ τ : Type} [NativeCore σ] [Surface τ]

theorem unload_tends (emulator : Emulator) : (emulator.unload : Act σ τ _).Tends :=
  emulator.lifecycle.unload_tends.bind fun _ => movesBy_pure _

theorem sendKey_moves (emulator : Emulator) (event : KeyEvent) :
    (emulator.sendKey event : Act σ τ _).MovesBy Request.IsButton fun _ => False := by
  unfold sendKey
  split
  · exact emulator.unmappedKeys.forward_moves _ event .pressed
  · exact emulator.unmappedKeys.forward_moves _ event .released

theorem loadRom_tends (emulator : Emulator) (image : Bytes) :
    (emulator.loadRom image : Act σ τ _).Tends := by
  unfold loadRom
  refine (emulator.lifecycle.load_tends image emulator.pipeline.scale).bind fun loaded => ?_
  obtain ⟨result, lifecycle⟩ := loaded
  cases result with
  | error cause => exact movesBy_pure _
  | ok screen => exact (movesBy_ofFaulty _).bind fun _ => movesBy_pure _

end Emulator

end Handheld
