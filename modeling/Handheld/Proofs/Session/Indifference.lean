import Handheld.Proofs.Session.Likeness
import Handheld.Proofs.Session.Capture

/-!
# What a Tick Depends On

Two pipelines are alike if they differ in the frame they copy pictures into, in what they have
shown last and in the times they have measured, at most.  A tick does not tell steady pipelines
apart that are alike: the staging frame gets its size and is filled before it is handed on, and
what is handed on is newer than all that either of them has shown.
-/

namespace Handheld

/-! ## §1 Pipelines that are alike

The relation leaves out the staging frame, which a tick fills before it reads it, the clock of
what was shown, which is older than the frame of the tick in any case, and the measured times,
which nothing but the timer looks at. -/

/-- What a tick depends on is the same. -/
structure Pipeline.Alike (pipeline twin : Pipeline) : Prop where
  scale : pipeline.scale = twin.scale
  stepMode : pipeline.stepMode = twin.stepMode
  clock : pipeline.clock = twin.clock
  encoding : pipeline.encoding = twin.encoding
  frames : pipeline.statistics.frames = twin.statistics.frames
  faults : pipeline.statistics.faults = twin.statistics.faults
  events : pipeline.statistics.stepTime.events = twin.statistics.stepTime.events

/-- Whether a frame can be resized does not depend on the frame. -/
theorem Frame.resize_agrees (frame twin : Frame) (width height : UInt32) :
    Agree (fun resized other => resized.bitmap.size = other.bitmap.size ∧
        resized.width = other.width ∧ resized.height = other.height ∧
        resized.encoding = frame.encoding ∧ other.encoding = twin.encoding)
      (frame.resize width height) (twin.resize width height) := by
  unfold resize
  refine (Agree.refl _).bind fun _ _ _ => .ok ⟨?_, rfl, rfl, rfl, rfl⟩
  simp only [size_fitted]

namespace Handoff

variable {handoff : Handoff}

theorem notes_add_of_empty (empty : handoff.queue.items = []) (clock : Instant) (frame : Frame) :
    (handoff.add clock frame).notes = [] := by
  simp only [add, ClockedQueue.push, ClockedQueue.makeRoom, empty, List.length_nil,
    Nat.not_lt_zero, if_false]

theorem notes_next_of_single {clock : Instant} {frame : Frame}
    (single : handoff.queue.items = [(clock, frame)]) (newer : IsNewer handoff.lastClock clock) :
    handoff.next.notes = [] := by
  unfold next
  rw [single]
  simp only [firstNewer, if_pos newer]

theorem notes_next_of_empty (empty : handoff.queue.items = []) : handoff.next.notes = [] := by
  unfold next
  rw [empty]
  rfl

end Handoff

namespace Pipeline

open Act

variable {σ τ : Type} {like : Machine σ → Machine σ → Prop} {pipeline twin : Pipeline}

theorem Alike.refl (pipeline : Pipeline) : pipeline.Alike pipeline :=
  ⟨rfl, rfl, rfl, rfl, rfl, rfl, rfl⟩

/-! ## §2 Producing

The staging frame is prepared and filled in one go, so two pipelines that differ in it fetch the
same picture or fail alike. -/

/-- The answers are the same and the pipelines are alike. -/
def Steps (given other : Except Error Unit × Pipeline) : Prop :=
  given.1 = other.1 ∧ given.2.Alike other.2

/-- A measurement is counted whatever the stopwatch shows. -/
theorem Alike.stopTimer (alike : pipeline.Alike twin) (start start' stop stop' : Nat) :
    Agree Alike ((pipeline.startTimer start).stopTimer stop)
      ((twin.startTimer start').stopTimer stop') := by
  obtain ⟨scale, stepMode, clock, encoding, frames, faults, events⟩ := alike
  simp only [Pipeline.stopTimer, Pipeline.startTimer, Timer.stop, Timer.start, Timer.record]
  rw [events]
  cases Checked.next32 twin.statistics.stepTime.events with
  | error fault => exact .error fault
  | ok counted => exact .ok ⟨scale, stepMode, clock, encoding, frames, faults, rfl⟩

theorem Alike.countFault (alike : pipeline.Alike twin) (status : Int32) :
    (pipeline.countFault status : Act σ τ _).Alike like Alike (twin.countFault status) := by
  unfold Pipeline.countFault
  split
  · exact alike_pure alike
  · refine Act.Alike.bind (blind_note _) fun _ _ _ => ?_
    obtain ⟨scale, stepMode, clock, encoding, frames, faults, events⟩ := alike
    rw [faults]
    refine Act.Alike.bind (alike_ofFaulty (.refl _)) ?_
    rintro counted _ rfl
    exact alike_pure ⟨scale, stepMode, clock, encoding, frames, rfl, events⟩

theorem Alike.step [NativeCore σ] (indistinct : Machine.Indistinct like)
    (alike : pipeline.Alike twin) (handle : Handle) :
    (pipeline.step handle : Act σ τ _).Alike like Steps (twin.step handle) := by
  unfold Pipeline.step
  -- The two stopwatches may show different times, and the timers keep them.
  refine Act.Alike.bind alike_readStopwatch fun start start' _ => ?_
  have started : (pipeline.startTimer start).Alike (twin.startTimer start') :=
    ⟨alike.scale, alike.stepMode, alike.clock, alike.encoding, alike.frames, alike.faults,
      alike.events⟩
  dsimp only
  rw [show (pipeline.startTimer start).stepMode = (twin.startTimer start').stepMode from
    alike.stepMode]
  refine Act.Alike.bind (blind_ask indistinct _) ?_
  rintro answer _ rfl
  cases answer with
  | error cause => exact alike_pure ⟨rfl, started⟩
  | ok status =>
    refine Act.Alike.bind alike_readStopwatch fun stop stop' _ => ?_
    -- Both timers count the step, or both are at their limit.
    refine Act.Alike.bind (alike_ofFaulty (alike.stopTimer _ _ _ _)) fun stopped stopped' same => ?_
    refine (same.countFault status).bind fun counted counted' same => ?_
    exact alike_pure ⟨rfl, same⟩

/-- Both staging frames get the same shape, and nothing else of them matters. -/
theorem Alike.prepare (alike : pipeline.Alike twin) (screen : Screen) (wanted : PixelEncoding) :
    Agree (fun prepared other => prepared.Alike other ∧
        ∀ bytes, (∃ staging, prepared.staging.copyBytes bytes = (true, staging) ∧
            other.staging.copyBytes bytes = (true, staging)) ∨
          prepared.staging.copyBytes bytes = (false, prepared.staging) ∧
            other.staging.copyBytes bytes = (false, other.staging))
      (pipeline.prepare screen wanted) (twin.prepare screen wanted) := by
  unfold Pipeline.prepare
  refine (Frame.resize_agrees _ _ _ _).bind ?_
  rintro staging other ⟨size, width, height, encoding, encoding'⟩
  obtain ⟨scale, stepMode, clock, -, frames, faults, events⟩ := alike
  -- The two frames may differ in their pixels alone, so the same bytes fit both or neither.
  refine .ok ⟨⟨scale, stepMode, clock, rfl, frames, faults, events⟩, ?_⟩
  exact Frame.copyBytes_congr width height (encoding.trans encoding'.symm) size

/-- The steps are the same, and the same picture has been fetched into the staging frames. -/
def Fetches (given other : Except Error Unit × Pipeline) : Prop :=
  Steps given other ∧ (given.1 = .ok () → given.2.staging = other.2.staging)

theorem Alike.fetch [NativeCore σ] [Surface τ] (indistinct : Machine.Indistinct like)
    (alike : pipeline.Alike twin) (screen : Screen) (addr : UInt32) :
    (pipeline.fetch screen addr : Act σ τ _).Alike like Fetches (twin.fetch screen addr) := by
  unfold Pipeline.fetch
  refine Act.Alike.bind blind_encoding ?_
  rintro wanted _ rfl
  refine Act.Alike.bind (alike_ofFaulty (alike.prepare screen wanted)) ?_
  rintro prepared other ⟨same, copies⟩
  refine Act.Alike.bind (Region.viewMemory_blind indistinct _ _) ?_
  rintro view _ rfl
  -- The view is the same, so both fetch or neither does.
  cases view with
  | error cause => exact alike_pure ⟨⟨rfl, same⟩, by simp⟩
  | ok bytes =>
    obtain ⟨scale, stepMode, clock, encoding, frames, faults, events⟩ := same
    rcases copies bytes with ⟨staging, first, second⟩ | ⟨first, second⟩
    · simp only [first, second, if_true]
      exact alike_pure ⟨⟨rfl, scale, stepMode, clock, encoding, frames, faults, events⟩,
        fun _ => rfl⟩
    · -- Each keeps the frame that it has prepared, and the tick ends.
      simp only [first, second, Bool.false_eq_true, if_false]
      exact alike_pure ⟨⟨rfl, scale, stepMode, clock, encoding, frames, faults, events⟩,
        by simp [misfit]⟩

theorem Alike.produce [NativeCore σ] [Surface τ] (indistinct : Machine.Indistinct like)
    (alike : pipeline.Alike twin) (rom : LoadedRom) :
    (pipeline.produce rom : Act σ τ _).Alike like Fetches (twin.produce rom) := by
  unfold Pipeline.produce
  refine Act.Alike.bind (alike.step indistinct rom.handle) ?_
  rintro ⟨steps, stepped⟩ ⟨_, other⟩ ⟨rfl, same⟩
  cases steps with
  | error cause => exact alike_pure ⟨⟨rfl, same⟩, by simp⟩
  | ok =>
    refine Act.Alike.bind (blind_ask indistinct _) ?_
    rintro answer _ rfl
    cases answer with
    | error cause => exact alike_pure ⟨⟨rfl, same⟩, by simp⟩
    | ok addr => exact same.fetch indistinct rom.screen addr

/-! ## §3 Publishing

What waits is newer than what either of the two has shown, hence both show it. -/

/-- The frame is handed on without a note, because nothing waits. -/
theorem Alike.commit [Clockwork] (alike : pipeline.Alike twin) (steady : pipeline.Steady)
    (twin_steady : twin.Steady) :
    (pipeline.commit : Act σ τ _).Alike like Alike twin.commit := by
  unfold Pipeline.commit
  -- The two clocks are the same and move on by the same period.
  rw [steady.period, twin_steady.period, alike.clock, alike.frames]
  refine Act.Alike.bind (alike_ofFaulty (.refl _)) ?_
  rintro clock _ rfl
  have quiet : (pipeline.handoff.add clock pipeline.staging).notes =
      (twin.handoff.add clock twin.staging).notes := by
    rw [Handoff.notes_add_of_empty steady.waiting, Handoff.notes_add_of_empty twin_steady.waiting]
  have adds : (ofNoted (pipeline.handoff.add clock pipeline.staging) : Act σ τ Handoff).Alike like
      (fun added other => added.encoding = other.encoding)
      (ofNoted (twin.handoff.add clock twin.staging)) := alike_ofNoted alike.encoding quiet
  refine adds.bind fun added other encoding => ?_
  refine Act.Alike.bind (alike_ofFaulty (.refl _)) ?_
  rintro frames _ rfl
  exact alike_pure ⟨alike.scale, alike.stepMode, rfl, encoding, rfl, alike.faults, alike.events⟩

/-- The same frame, waiting alone in two hand-offs that have shown nothing newer, is drawn. -/
theorem drawPending_alike [Surface τ] {scale : UInt32} {handoff other : Handoff} {clock : Instant}
    {frame : Frame} (single : handoff.queue.items = [(clock, frame)])
    (other_single : other.queue.items = [(clock, frame)])
    (newer : Handoff.IsNewer handoff.lastClock clock)
    (other_newer : Handoff.IsNewer other.lastClock clock)
    (encoding : handoff.encoding = other.encoding) :
    (drawPending scale handoff : Act σ τ _).Alike like
      (fun given twin => given.1 = twin.1 ∧ given.2.encoding = twin.2.encoding)
      (drawPending scale other) := by
  rw [drawPending_of_some (Handoff.next_of_single single newer),
    drawPending_of_some (Handoff.next_of_single other_single other_newer),
    Handoff.notes_next_of_single single newer,
    Handoff.notes_next_of_single other_single other_newer]
  refine Act.Alike.bind (alike_ofNoted rfl rfl) ?_
  rintro _ _ rfl
  refine Act.Alike.bind (blind_present _) ?_
  rintro answer _ rfl
  cases answer with
  | error cause => exact alike_pure ⟨rfl, encoding⟩
  | ok =>
    dsimp only
    rw [drawPending_of_none (Handoff.next_of_empty rfl),
      drawPending_of_none (Handoff.next_of_empty rfl), Handoff.notes_next_of_empty rfl,
      Handoff.notes_next_of_empty rfl]
    exact Act.Alike.bind (alike_ofNoted rfl rfl) fun _ _ _ => alike_pure ⟨rfl, encoding⟩

variable [Clockwork]

theorem Alike.publish [Surface τ] (alike : pipeline.Alike twin) (steady : pipeline.Steady)
    (twin_steady : twin.Steady) (staging : pipeline.staging = twin.staging) :
    (pipeline.publish : Act σ τ _).Alike like Steps twin.publish := by
  unfold Pipeline.publish
  have commits : (pipeline.commit : Act σ τ _).Alike like Alike twin.commit :=
    alike.commit steady twin_steady
  -- Both frames wait alone, and each is newer than what its own pipeline has shown.
  refine Act.Alike.bind (commits.ensures (fun _ _ _ _ => steady.of_commit)
    fun _ _ _ _ => twin_steady.of_commit) ?_
  rintro committed other ⟨same, ⟨single, newer⟩, other_single, other_newer⟩
  -- The frames that wait are the same, and so are their clocks.
  rw [← same.clock, ← staging] at other_single
  rw [← same.clock] at other_newer
  have draws : (drawPending committed.scale committed.handoff : Act σ τ _).Alike like
      (fun given twin => given.1 = twin.1 ∧ given.2.encoding = twin.2.encoding)
      (drawPending other.scale other.handoff) := by
    rw [same.scale]
    exact drawPending_alike single other_single newer other_newer same.encoding
  refine Act.Alike.bind draws ?_
  rintro ⟨answer, rest⟩ ⟨_, other_rest⟩ ⟨rfl, encoding⟩
  exact alike_pure ⟨rfl, same.scale, same.stepMode, same.clock, encoding, same.frames,
    same.faults, same.events⟩

/-! ## §4 The whole tick -/

/-- Between two operations the pipelines are alike. -/
structure Twins (pipeline twin : Pipeline) : Prop where
  alike : pipeline.Alike twin
  steady : pipeline.Steady
  twin_steady : twin.Steady

theorem Steady.twins (steady : pipeline.Steady) : pipeline.Twins pipeline :=
  ⟨.refl pipeline, steady, steady⟩

variable [NativeCore σ] [Surface τ]

theorem Twins.tickLoaded (indistinct : Machine.Indistinct like) (twins : pipeline.Twins twin)
    (rom : LoadedRom) :
    (pipeline.tickLoaded rom : Act σ τ _).Alike like Steps (twin.tickLoaded rom) := by
  obtain ⟨alike, steady, twin_steady⟩ := twins
  rw [tickLoaded_eq, tickLoaded_eq]
  -- Producing keeps both pipelines steady.
  have produces : (pipeline.produce rom : Act σ τ _).Alike like Fetches (twin.produce rom) :=
    alike.produce indistinct rom
  refine Act.Alike.bind
    (produces.ensures (produce_keeps pipeline rom) (produce_keeps twin rom)) ?_
  rintro ⟨given, produced⟩ ⟨_, other⟩ ⟨⟨⟨rfl, same⟩, fetched⟩, kept, twin_kept⟩
  cases given with
  -- A frame that has not been fetched is not published by either.
  | error cause => exact alike_pure ⟨rfl, same⟩
  | ok => exact same.publish (steady.of_kept kept) (twin_steady.of_kept twin_kept) (fetched rfl)

/-- Whatever a tick answers, the pipeline is steady after it. -/
theorem Steady.tick_ensures (steady : pipeline.Steady) (lifecycle : Lifecycle) :
    (pipeline.tick lifecycle : Act σ τ _).Ensures fun given => given.2.Steady := by
  rintro rig value after calls ⟨journal, run, rfl⟩
  exact (steady.tick run).1

/-- A tick does not tell pipelines that are alike: it gives the same answer, does the same and
leaves pipelines that are alike again. -/
theorem Twins.tick (indistinct : Machine.Indistinct like) (twins : pipeline.Twins twin)
    (lifecycle : Lifecycle) :
    (pipeline.tick lifecycle : Act σ τ _).Alike like
      (fun given other => given.1 = other.1 ∧ given.2.Twins other.2) (twin.tick lifecycle) := by
  have ticks : (pipeline.tick lifecycle : Act σ τ _).Alike like
      (fun given other => given.1 = other.1 ∧ given.2.Alike other.2) (twin.tick lifecycle) := by
    unfold Pipeline.tick
    cases lifecycle with
    | empty => exact alike_pure ⟨rfl, twins.alike⟩
    | loaded rom =>
      refine Act.Alike.bind (twins.tickLoaded indistinct rom) ?_
      rintro ⟨given, ticked⟩ ⟨_, other⟩ ⟨rfl, same⟩
      exact alike_pure ⟨rfl, same⟩
  -- That both are steady again does not depend on what the other one does.
  refine (ticks.ensures (twins.steady.tick_ensures lifecycle)
    (twins.twin_steady.tick_ensures lifecycle)).mono ?_
  rintro given other ⟨⟨answers, same⟩, steady, twin_steady⟩
  exact ⟨answers, same, steady, twin_steady⟩

/-! ## §5 Resets

A reset makes another pipeline, but an alike one: that is why it cannot be seen in what follows. -/

omit [NativeCore σ] [Surface τ]

theorem Twins.symm (twins : pipeline.Twins twin) : twin.Twins pipeline := by
  obtain ⟨⟨scale, stepMode, clock, encoding, frames, faults, events⟩, steady, twin_steady⟩ := twins
  exact ⟨⟨scale.symm, stepMode.symm, clock.symm, encoding.symm, frames.symm, faults.symm,
    events.symm⟩, twin_steady, steady⟩

omit [Clockwork] in
/-- Whether there is room for a reset depends on the size alone. -/
theorem reset_eq (pipeline : Pipeline) (width height : UInt32) :
    pipeline.reset width height = (do
      Checked.capacity (4 * pixelCount width height)
      return { pipeline with
        handoff := (Handoff.new 1).request pipeline.encoding
        staging := ⟨width, height, pipeline.encoding,
          Array.replicate (pixelCount width height) 0⟩ }) := by
  simp only [reset, Frame.new, bind_assoc, pure_bind]

/-- A reset throws away only what a tick does not depend on. -/
theorem Twins.reset {width height : UInt32} {fresh : Pipeline} (twins : pipeline.Twins twin)
    (resets : pipeline.reset width height = .ok fresh) : fresh.Twins twin := by
  obtain ⟨fresh_steady, -, -⟩ := twins.steady.reset resets
  obtain ⟨staging, -, made⟩ := Checked.bind_eq_ok_iff.1 resets
  obtain rfl := Except.ok.inj made
  obtain ⟨scale, stepMode, clock, encoding, frames, faults, events⟩ := twins.alike
  exact ⟨⟨scale, stepMode, clock, encoding, frames, faults, events⟩, fresh_steady,
    twins.twin_steady⟩

/-- Both pipelines can be reset, or there is room for neither. -/
theorem Twins.resets (twins : pipeline.Twins twin) (width height : UInt32) :
    Agree Twins (pipeline.reset width height) (twin.reset width height) := by
  -- There is room for a frame of this size or not, whatever the pipelines are.
  cases room : Checked.capacity (4 * pixelCount width height) with
  | error fault =>
    rw [reset_eq, reset_eq, room]
    exact .error fault
  | ok =>
    obtain ⟨fresh, resets⟩ : ∃ fresh, pipeline.reset width height = .ok fresh := by
      rw [reset_eq, room]
      exact ⟨_, rfl⟩
    obtain ⟨other, twin_resets⟩ : ∃ other, twin.reset width height = .ok other := by
      rw [reset_eq, room]
      exact ⟨_, rfl⟩
    rw [resets, twin_resets]
    exact .ok ((twins.reset resets).symm.reset twin_resets).symm

end Pipeline

end Handheld
