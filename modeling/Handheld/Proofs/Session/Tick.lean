import Handheld.Proofs.Core.Memory
import Handheld.Proofs.Picture.Frame
import Handheld.Proofs.Session.Exchange
import Handheld.Session.Emulator

/-!
# One Tick

What a tick does when the core steps, says where its picture is, and the picture lies inside of
native memory: it makes three calls, and what it draws is exactly the picture.  The stages of the
pipeline have one lemma each.
-/

namespace Handheld

/-! ## §1 The hand-off

Between two operations the queue is empty, so in a tick it holds one frame at most.  For a queue of
this size the hand-off is simple. -/

namespace Handoff

/-- A frame added to an empty hand-off waits there alone. -/
theorem add_of_empty {handoff : Handoff} (empty : handoff.queue.items = []) (clock : Instant)
    (frame : Frame) :
    (handoff.add clock frame).value =
      { handoff with queue := { handoff.queue with items := [(clock, frame)] } } := by
  have room : handoff.queue.makeRoom = ⟨handoff.queue, []⟩ := by
    unfold ClockedQueue.makeRoom
    rw [empty]
    exact if_neg (Nat.not_lt_zero _)
  simp only [add, ClockedQueue.push, room, empty, List.nil_append]

/-- The only frame that waits is taken out if it is newer than all that have been shown. -/
theorem next_of_single {handoff : Handoff} {clock : Instant} {frame : Frame}
    (single : handoff.queue.items = [(clock, frame)]) (newer : IsNewer handoff.lastClock clock) :
    handoff.next.value = (some (clock, frame),
      { handoff with queue := { handoff.queue with items := [] }, lastClock := some clock }) := by
  unfold next
  rw [single]
  simp only [firstNewer, if_pos newer]

theorem next_of_empty {handoff : Handoff} (empty : handoff.queue.items = []) :
    handoff.next.value = (none, handoff) := by
  unfold next
  rw [empty]
  simp only [firstNewer]
  rw [← empty]

end Handoff

/-! ## §2 The timer

The timer is started and stopped around one call, and it measures the time between the two
readings. -/

theorem Timer.stop_ok {timer : Timer} {start : Nat} (started : timer.started = some start)
    (countable : timer.events.toNat + 1 < 2 ^ 32) (now : Nat) :
    ∃ stopped, timer.stop now = .ok stopped ∧
      stopped.events.toNat = timer.events.toNat + 1 := by
  obtain ⟨events, hevents, events_eq⟩ := Checked.next32_ok countable
  unfold stop record
  rw [started, hevents]
  exact ⟨_, rfl, events_eq⟩

theorem Timer.stop_exhausted {timer : Timer} {start : Nat} (started : timer.started = some start)
    (exhausted : 2 ^ 32 ≤ timer.events.toNat + 1) (now : Nat) :
    timer.stop now = .error .overflow := by
  unfold stop record
  rw [started, Checked.next32_error exhausted]
  rfl

/-- A view is what lies in memory, or why it cannot be had. -/
theorem Region.gives_viewMemory {σ τ : Type} (addr : UInt32) (len : Nat) (rig : Rig σ τ) :
    (viewMemory addr len).Gives rig (Memory.view rig.machine.memory addr len) rig [] :=
  (Act.gives_memory rig).quietly (Act.gives_pure _ _)

namespace Pipeline

/-! ## §3 Stepping

Every counter has its own width.  `Within` bounds them by one number, so that a session needs to
count only once. -/

/-- No counter of the pipeline is larger than the number. -/
structure Within (pipeline : Pipeline) (count : Nat) : Prop where
  frames : pipeline.statistics.frames.toNat ≤ count
  faults : pipeline.statistics.faults.toNat ≤ count
  events : pipeline.statistics.stepTime.events.toNat ≤ count

/-- Every counter of the pipeline can count one more. -/
structure Countable (pipeline : Pipeline) : Prop where
  frames : pipeline.statistics.frames.toNat + 1 < 2 ^ 64
  faults : pipeline.statistics.faults.toNat + 1 < 2 ^ 64
  events : pipeline.statistics.stepTime.events.toNat + 1 < 2 ^ 32

theorem Within.countable {pipeline : Pipeline} {count : Nat} (within : pipeline.Within count)
    (small : count + 1 < 2 ^ 32) : pipeline.Countable := by
  obtain ⟨frames_le, faults_le, events_le⟩ := within
  constructor <;> omega

/-- One step more, which is not a frame yet. -/
structure Stepped (before after : Statistics) : Prop where
  frames : after.frames = before.frames
  faults : after.faults.toNat ≤ before.faults.toNat + 1
  events : after.stepTime.events.toNat = before.stepTime.events.toNat + 1

variable {σ τ : Type} {pipeline : Pipeline} {count : Nat}

theorem countFault_gives (countable : pipeline.statistics.faults.toNat + 1 < 2 ^ 64)
    (status : Int32) (rig : Rig σ τ) :
    ∃ faults, (pipeline.countFault status).Gives rig
        { pipeline with statistics.faults := faults } rig [] ∧
      faults.toNat ≤ pipeline.statistics.faults.toNat + 1 := by
  unfold countFault
  -- A status other than zero is a fault: it is noted and counted.
  by_cases success : status = 0
  · rw [if_pos success]
    exact ⟨pipeline.statistics.faults, Act.gives_pure _ _, Nat.le_succ _⟩
  · rw [if_neg success]
    obtain ⟨faults, hfaults, faults_eq⟩ := Checked.next64_ok countable
    refine ⟨faults, ?_, Nat.le_of_eq faults_eq⟩
    exact (Act.gives_note _ rig).quietly <| (Act.gives_ofFaulty hfaults rig).quietly <|
      Act.gives_pure _ rig

theorem stopTimer_ok {start : Nat} (started : pipeline.statistics.stepTime.started = some start)
    (countable : pipeline.statistics.stepTime.events.toNat + 1 < 2 ^ 32) (now : Nat) :
    ∃ stepTime, pipeline.stopTimer now =
        .ok { pipeline with statistics.stepTime := stepTime } ∧
      stepTime.events.toNat = pipeline.statistics.stepTime.events.toNat + 1 := by
  obtain ⟨stepTime, hstop, events⟩ := Timer.stop_ok started countable now
  refine ⟨stepTime, ?_, events⟩
  unfold stopTimer
  rw [hstop]
  rfl

theorem stopTimer_exhausted {start : Nat}
    (started : pipeline.statistics.stepTime.started = some start)
    (exhausted : 2 ^ 32 ≤ pipeline.statistics.stepTime.events.toNat + 1) (now : Nat) :
    pipeline.stopTimer now = .error .overflow := by
  unfold stopTimer
  rw [Timer.stop_exhausted started exhausted]
  rfl

theorem step_gives [NativeCore σ] {rig : Rig σ τ} {handle : Handle} {status : Int32}
    {machine : Machine σ} (countable : pipeline.Countable)
    (answers : NativeCore.answer (.step handle pipeline.stepMode) rig.machine =
      .ok (.ok status, machine)) :
    ∃ statistics stopwatch,
      (pipeline.step handle).Gives rig (.ok (), { pipeline with statistics })
        { rig with machine, stopwatch }
        [.native (.step handle pipeline.stepMode) (.ok status)] ∧
      Stepped pipeline.statistics statistics := by
  -- The timer runs from one reading to the next.
  let started := pipeline.startTimer rig.stopwatch.read.1
  have events_countable : started.statistics.stepTime.events.toNat + 1 < 2 ^ 32 :=
    countable.events
  obtain ⟨stepTime, hstop, events⟩ :=
    stopTimer_ok rfl events_countable rig.stopwatch.read.2.read.1
  let stopped : Pipeline := { started with statistics.stepTime := stepTime }
  let after : Rig σ τ := { rig with machine, stopwatch := rig.stopwatch.read.2.read.2 }
  have faults_countable : stopped.statistics.faults.toNat + 1 < 2 ^ 64 := countable.faults
  obtain ⟨faults, hcount, faults_le⟩ := countFault_gives faults_countable status after
  refine ⟨{ stopped.statistics with faults }, rig.stopwatch.read.2.read.2, ?_,
    rfl, faults_le, events⟩
  -- The one call lies between the two readings.
  have asks : (Act.ask (.step handle pipeline.stepMode) : Act σ τ _).Gives
      { rig with stopwatch := rig.stopwatch.read.2 } (.ok status)
      { rig with machine, stopwatch := rig.stopwatch.read.2 }
      [.native (.step handle pipeline.stepMode) (.ok status)] := Act.gives_ask answers
  unfold step
  refine (Act.gives_readStopwatch rig).quietly ?_
  refine asks.first ?_
  refine (Act.gives_readStopwatch _).quietly ?_
  refine (Act.gives_ofFaulty hstop _).quietly ?_
  exact hcount.quietly (Act.gives_pure _ _)

/-! ## §4 Fetching the picture

The staging frame gets the size of the screen before the bytes are copied to it; therefore the copy
is never refused. -/

/-- The frame is the picture that lies in memory at an address. -/
structure Pictures (frame : Frame) (screen : Screen) (wanted : PixelEncoding) (memory : Bytes)
    (addr : UInt32) : Prop where
  wellFormed : frame.WellFormed
  width : frame.width = screen.width
  height : frame.height = screen.height
  encoding : frame.encoding = wanted
  pixels : ∀ i < pixelCount screen.width screen.height, ∀ red green blue alpha,
    Frame.HoldsPixel memory (addr.toNat + 4 * i) red green blue alpha →
      frame.bitmap[i]? = some ((Pixel.rgba red green blue alpha).encode wanted)

/-- The bytes of a picture fill a frame of its size, and become its pixels. -/
theorem copyBytes_pictures {prepared : Frame} {screen : Screen} {memory bytes : Bytes}
    {addr : UInt32} (wellFormed : prepared.WellFormed) (hwidth : prepared.width = screen.width)
    (hheight : prepared.height = screen.height)
    (hsize : bytes.size = 4 * pixelCount screen.width screen.height)
    (hbytes : ∀ place < 4 * pixelCount screen.width screen.height,
      bytes[place]? = memory[addr.toNat + place]?) :
    ∃ staging, prepared.copyBytes bytes = (true, staging) ∧
      Pictures staging screen prepared.encoding memory addr := by
  have count : prepared.bitmap.size = pixelCount screen.width screen.height := by
    rw [wellFormed, hwidth, hheight]
  have fills : bytes.size = prepared.byteCount := by
    rw [hsize, Frame.byteCount, count, bytesPerPixel, Nat.mul_comm]
  obtain ⟨bitmap, hcopy, bitmap_size, pixels⟩ := prepared.copyBytes_ok fills
  refine ⟨_, hcopy, bitmap_size.trans wellFormed, hwidth, hheight, rfl, ?_⟩
  intro i hi red green blue alpha holds
  -- What holds of the bytes of the picture holds of those that have been read, channel by channel.
  apply pixels i red green blue alpha (by omega)
  constructor
  · rw [hbytes _ (by omega)]
    exact holds.red
  · rw [hbytes _ (by omega)]
    exact holds.green
  · rw [hbytes _ (by omega)]
    exact holds.blue
  · rw [hbytes _ (by omega)]
    exact holds.alpha

/-- Where there is room for a picture, the staging frame can be prepared for it. -/
theorem prepare_ok {screen : Screen}
    (room : 4 * pixelCount screen.width screen.height ≤ Checked.maxBufferBytes)
    (wanted : PixelEncoding) :
    ∃ staging, pipeline.prepare screen wanted =
        .ok { pipeline with handoff := pipeline.handoff.request wanted, staging } ∧
      staging.WellFormed ∧ staging.width = screen.width ∧ staging.height = screen.height ∧
      staging.encoding = wanted := by
  obtain ⟨staging, hresize, made⟩ :=
    { pipeline.staging with encoding := wanted : Frame }.resize_ok room
  refine ⟨staging, ?_, made⟩
  unfold prepare
  rw [hresize]
  rfl

theorem fetch_gives [Surface τ] {rig : Rig σ τ} {screen : Screen} {addr : UInt32}
    (room : 4 * pixelCount screen.width screen.height ≤ Checked.maxBufferBytes)
    (inside : addr.toNat + 4 * pixelCount screen.width screen.height ≤ rig.machine.memory.size) :
    ∃ staging,
      (pipeline.fetch screen addr).Gives rig
        (.ok (), { pipeline with
          handoff := pipeline.handoff.request (Surface.encoding rig.display), staging }) rig [] ∧
      Pictures staging screen (Surface.encoding rig.display) rig.machine.memory addr := by
  have addr_lt := addr.toNat_lt
  have sized : addr.toNat + 4 * pixelCount screen.width screen.height ≤ Checked.maxSize := by
    rw [Checked.maxBufferBytes_eq] at room
    rw [Checked.maxSize_eq]
    omega
  have len := Screen.frameBytes_of_room room
  rw [← len] at sized inside
  obtain ⟨bytes, hview, hsize, hbytes⟩ := Memory.view_ok sized inside
  rw [len] at hsize hbytes
  -- The staging frame gets the screen's size first, and so the view fills it.
  obtain ⟨prepared, prepares, wellFormed, hwidth, hheight, hencoding⟩ :=
    pipeline.prepare_ok room (Surface.encoding rig.display)
  obtain ⟨staging, hcopy, pictures⟩ :=
    copyBytes_pictures wellFormed hwidth hheight hsize hbytes
  rw [hencoding] at pictures
  refine ⟨staging, ?_, pictures⟩
  -- The program does what the lemmas above say, one read after the other.
  have views := Region.gives_viewMemory addr screen.frameBytes rig
  rw [hview] at views
  unfold fetch
  refine (Act.gives_encoding rig).quietly ?_
  refine (Act.gives_ofFaulty prepares rig).quietly ?_
  refine views.quietly ?_
  simp only [hcopy, if_true]
  exact Act.gives_pure _ _

/-- A picture that does not lie inside of memory is not fetched. -/
theorem fetch_refused [Surface τ] {rig : Rig σ τ} {screen : Screen} {addr : UInt32}
    (room : 4 * pixelCount screen.width screen.height ≤ Checked.maxBufferBytes)
    (outside : rig.machine.memory.size <
      addr.toNat + 4 * pixelCount screen.width screen.height) :
    ∃ staging, (pipeline.fetch screen addr).Gives rig
      (.error (.outOfBounds addr (4 * pixelCount screen.width screen.height)
          rig.machine.memory.size),
        { pipeline with
          handoff := pipeline.handoff.request (Surface.encoding rig.display), staging }) rig
        [] := by
  have len := Screen.frameBytes_of_room room
  -- The staging frame is prepared before the picture is looked for, so it may have a new size.
  obtain ⟨prepared, prepares, -⟩ := pipeline.prepare_ok room (Surface.encoding rig.display)
  have views := Region.gives_viewMemory addr screen.frameBytes rig
  rw [len, Memory.view_outside outside] at views
  refine ⟨prepared, ?_⟩
  unfold fetch
  refine (Act.gives_encoding rig).quietly ?_
  refine (Act.gives_ofFaulty prepares rig).quietly ?_
  rw [len]
  exact views.quietly (Act.gives_pure _ _)

/-! ## §5 Presenting

`Steady` is the invariant of a pipeline.  That the clock has time for one more period is a condition
of its own here;  `Steady.timely` has it from the width that a clock is documented to have. -/

variable [Clockwork]

/-- Between two operations nothing waits in the pipeline, its clock tells the number of frames,
and what has been shown is not newer than the clock. -/
structure Steady (pipeline : Pipeline) : Prop where
  period : pipeline.period = Clockwork.refresh
  clock : pipeline.clock.femtos = pipeline.statistics.frames.toNat * Clockwork.refresh.femtos
  waiting : pipeline.handoff.queue.items = []
  shown : ∀ shown ∈ pipeline.handoff.lastClock, shown.femtos ≤ pipeline.clock.femtos

/-- A pipeline that has done nothing yet. -/
theorem steady_new (scale : UInt32) (stepMode : StepMode) : Steady { scale, stepMode } := by
  refine ⟨rfl, ?_, rfl, ?_⟩
  · exact (Nat.zero_mul Clockwork.refresh.femtos).symm
  · intro shown impossible
    cases impossible

theorem within_new (scale : UInt32) (stepMode : StepMode) : Within { scale, stepMode } 0 := by
  constructor <;> exact Nat.le_refl 0

/-- A reset empties the hand-off and forgets what has been shown; the clock goes on. -/
theorem Steady.reset {width height : UInt32} {fresh : Pipeline} (steady : pipeline.Steady)
    (h : pipeline.reset width height = .ok fresh) :
    fresh.Steady ∧ fresh.scale = pipeline.scale ∧ fresh.statistics = pipeline.statistics := by
  -- The clock and the statistics survive a reset; the queue and what was shown last do not.
  unfold Pipeline.reset at h
  cases hstaging : Frame.new width height pipeline.encoding with
  | error fault =>
    rw [hstaging] at h
    cases h
  | ok staging =>
    rw [hstaging] at h
    obtain rfl := Except.ok.inj h
    refine ⟨⟨steady.period, steady.clock, rfl, ?_⟩, rfl, rfl⟩
    intro shown impossible
    cases impossible

/-- The clock can move on by one period. -/
def Timely (pipeline : Pipeline) : Prop :=
  pipeline.clock.femtos + pipeline.period.femtos < Clockwork.bound

instance (pipeline : Pipeline) : Decidable pipeline.Timely :=
  inferInstanceAs (Decidable (_ < _))

/-- A clock of the documented width is never the first to come to its end: as many periods as the
frame counter can count leave room for one more. -/
theorem Steady.timely (standard : Clockwork.Standard) (steady : pipeline.Steady)
    (countable : pipeline.statistics.frames.toNat + 1 < 2 ^ 64) : pipeline.Timely := by
  have room : 2 ^ 128 ≤ Clockwork.bound := standard.bound
  unfold Timely
  rw [steady.clock, steady.period, standard.refresh_femtos, Period.second]
  omega

/-- Pipelines that have counted the same frames have the same time. -/
theorem Timely.of_frames {after : Pipeline} (timely : pipeline.Timely)
    (steady : pipeline.Steady) (after_steady : after.Steady)
    (frames : after.statistics.frames = pipeline.statistics.frames) : after.Timely := by
  unfold Timely at *
  rwa [after_steady.clock, after_steady.period, frames, ← steady.clock, ← steady.period]

/-- A new frame is the only one that waits, and it is newer than all that have been shown. -/
theorem commit_gives (timely : pipeline.Timely) (steady : pipeline.Steady)
    (countable : pipeline.statistics.frames.toNat + 1 < 2 ^ 64) (rig : Rig σ τ) :
    ∃ clock frames,
      (pipeline.commit).Gives rig
        { pipeline with
          clock
          handoff := { pipeline.handoff with
            queue := { pipeline.handoff.queue with items := [(clock, pipeline.staging)] } }
          statistics.frames := frames } rig [] ∧
      clock.femtos = frames.toNat * Clockwork.refresh.femtos ∧
      Handoff.IsNewer pipeline.handoff.lastClock clock ∧
      frames.toNat = pipeline.statistics.frames.toNat + 1 := by
  obtain ⟨hperiod, hclock, hwaiting, hshown⟩ := steady
  obtain ⟨frames, hframes, frames_eq⟩ :=
    Checked.next64_ok (n := pipeline.statistics.frames) countable
  -- The clock has room for one more period.
  have advances : pipeline.clock.advance pipeline.period =
      .ok ⟨pipeline.clock.femtos + Clockwork.refresh.femtos⟩ := by
    rw [← hperiod]
    exact Instant.advance_eq_ok_iff.2 ⟨timely, rfl⟩
  refine ⟨⟨pipeline.clock.femtos + Clockwork.refresh.femtos⟩, frames, ?_, ?_, ?_, frames_eq⟩
  · unfold commit
    refine (Act.gives_ofFaulty advances rig).quietly ?_
    refine (Act.gives_ofNoted _ rig).quietly ?_
    refine (Act.gives_ofFaulty hframes rig).quietly ?_
    rw [Handoff.add_of_empty hwaiting]
    exact Act.gives_pure _ rig
  · show pipeline.clock.femtos + Clockwork.refresh.femtos = _
    rw [hclock, frames_eq, Nat.succ_mul]
  -- What has been shown is not newer than the old clock, and the new one lies a period ahead.
  · intro shown hmem
    have old := hshown shown hmem
    have later := Clockwork.refresh_pos
    show shown.femtos < pipeline.clock.femtos + Clockwork.refresh.femtos
    omega

omit [Clockwork] in
/-- A frame that waits alone and is newer than all that have been shown is drawn once. -/
theorem drawPending_gives [Surface τ] {rig : Rig σ τ} {scale : UInt32} {handoff : Handoff}
    {clock : Instant} {frame : Frame} {answer : Except HostError Unit} {display : τ}
    (single : handoff.queue.items = [(clock, frame)])
    (newer : Handoff.IsNewer handoff.lastClock clock)
    (draws : Surface.draw frame scale rig.display = .ok (answer, display)) :
    (drawPending scale handoff).Gives rig
      (answer.mapError .surface, { handoff with
        queue := { handoff.queue with items := [] }, lastClock := some clock })
      { rig with display } [.surface (.draw frame scale) answer] := by
  have presents : (Act.present (.draw frame scale)).Gives rig (answer.mapError .surface)
      { rig with display } [.surface (.draw frame scale) answer] := Act.gives_present draws
  rw [drawPending_of_some (Handoff.next_of_single single newer)]
  refine (Act.gives_ofNoted ⟨(), handoff.next.notes⟩ rig).quietly ?_
  refine presents.first ?_
  -- A refused draw ends here; after a draw that succeeds the queue is looked at once more.
  cases answer with
  | error cause => exact Act.gives_pure _ _
  | ok =>
    show (drawPending scale _).Gives _ _ _ _
    rw [drawPending_of_none (Handoff.next_of_empty rfl)]
    exact (Act.gives_ofNoted ⟨(), _⟩ _).quietly (Act.gives_pure _ _)

/-- A pipeline after a tick that has come to its draw. -/
structure Ticked (before after : Pipeline) : Prop where
  scale : after.scale = before.scale
  stepMode : after.stepMode = before.stepMode
  steady : after.Steady
  frames : after.statistics.frames.toNat = before.statistics.frames.toNat + 1
  faults : after.statistics.faults.toNat ≤ before.statistics.faults.toNat + 1
  events : after.statistics.stepTime.events.toNat = before.statistics.stepTime.events.toNat + 1

theorem Ticked.within {after : Pipeline} (ticked : Ticked pipeline after)
    (within : pipeline.Within count) : after.Within (count + 1) := by
  obtain ⟨frames_le, faults_le, events_le⟩ := within
  obtain ⟨-, -, -, frames, faults, events⟩ := ticked
  constructor <;> omega

theorem publish_gives [Surface τ] {rig : Rig σ τ} {answer : Except HostError Unit}
    {display : τ} (timely : pipeline.Timely) (steady : pipeline.Steady)
    (countable : pipeline.statistics.frames.toNat + 1 < 2 ^ 64)
    (draws : Surface.draw pipeline.staging pipeline.scale rig.display = .ok (answer, display)) :
    ∃ published,
      (pipeline.publish).Gives rig (answer.mapError .surface, published) { rig with display }
        [.surface (.draw pipeline.staging pipeline.scale) answer] ∧
      published.Steady ∧ published.scale = pipeline.scale ∧
      published.stepMode = pipeline.stepMode ∧
      published.statistics.frames.toNat = pipeline.statistics.frames.toNat + 1 ∧
      published.statistics.faults = pipeline.statistics.faults ∧
      published.statistics.stepTime = pipeline.statistics.stepTime := by
  obtain ⟨clock, frames, hcommit, hclock, newer, frames_eq⟩ :=
    commit_gives timely steady countable rig
  -- The frame waits for a moment, and it is the newest, so it is the one that is drawn.
  let waiting : Handoff := { pipeline.handoff with
    queue := { pipeline.handoff.queue with items := [(clock, pipeline.staging)] } }
  let rest : Handoff := { pipeline.handoff with
    queue := { pipeline.handoff.queue with items := [] }, lastClock := some clock }
  refine ⟨{ pipeline with clock, handoff := rest, statistics.frames := frames }, ?_,
    ⟨steady.period, hclock, rfl, ?_⟩, rfl, rfl, frames_eq, rfl, rfl⟩
  · unfold publish
    refine hcommit.quietly ?_
    have presents : (drawPending pipeline.scale waiting).Gives rig
        (answer.mapError .surface, rest) { rig with display }
        [.surface (.draw pipeline.staging pipeline.scale) answer] :=
      drawPending_gives rfl newer draws
    exact presents.first (Act.gives_pure _ _)
  · -- The frame shown last has the newest clock.
    intro shown hshown
    cases hshown
    exact Nat.le_refl _

/-! ## §6 The whole tick

A tick is a production and a publication, and it does what the two do. -/

variable [NativeCore σ] [Surface τ]

/-- The first part of a tick: steps the core and fetches its picture into the staging frame. -/
def produce (pipeline : Pipeline) (rom : LoadedRom) : Act σ τ (Except Error Unit × Pipeline) := do
  match ← pipeline.step rom.handle with
  | (.error error, pipeline) => return (.error error, pipeline)
  | (.ok (), pipeline) =>
    match ← Act.ask (.screenPointer rom.handle) with
    | .error error => return (.error error, pipeline)
    | .ok addr => pipeline.fetch rom.screen addr

/-- A tick publishes the frame that it has produced. -/
theorem tickLoaded_eq (pipeline : Pipeline) (rom : LoadedRom) :
    (pipeline.tickLoaded rom : Act σ τ _) = (do
      match ← pipeline.produce rom with
      | (.error error, pipeline) => return (.error error, pipeline)
      | (.ok (), pipeline) => pipeline.publish) := by
  unfold tickLoaded produce
  -- Both sides ask the same, and go on alike for every answer.
  rw [bind_assoc]
  refine bind_congr fun stepped => ?_
  obtain ⟨steps, pipeline⟩ := stepped
  cases steps with
  | error cause => exact (pure_bind _ _).symm
  | ok =>
    dsimp only
    rw [bind_assoc]
    refine bind_congr fun answer => ?_
    cases answer with
    | error cause => exact (pure_bind _ _).symm
    | ok addr => rfl

theorem tickLoaded_of_produced {rom : LoadedRom} {rig middle after : Rig σ τ}
    {produced ticked : Pipeline} {result : Except Error Unit} {made more : List Entry}
    (produces : (pipeline.produce rom).Gives rig (.ok (), produced) middle made)
    (publishes : (produced.publish).Gives middle (result, ticked) after more) :
    (pipeline.tickLoaded rom).Gives rig (result, ticked) after (made ++ more) := by
  rw [tickLoaded_eq]
  exact produces.bind publishes

theorem tickLoaded_of_unproduced {rom : LoadedRom} {rig after : Rig σ τ} {cause : Error}
    {produced : Pipeline} {made : List Entry}
    (produces : (pipeline.produce rom).Gives rig (.error cause, produced) after made) :
    (pipeline.tickLoaded rom).Gives rig (.error cause, produced) after made := by
  rw [tickLoaded_eq]
  exact produces.then_quietly (Act.gives_pure _ _)

/-- A tick that produces no frame fails with the cause of that. -/
theorem tick_of_unproduced {rom : LoadedRom} {rig after : Rig σ τ} {cause : Error}
    {produced : Pipeline} {made : List Entry}
    (produces : (pipeline.produce rom).Gives rig (.error cause, produced) after made) :
    (pipeline.tick (.loaded rom)).Gives rig (.error cause, produced) after made :=
  (tickLoaded_of_unproduced produces).then_quietly (Act.gives_pure _ _)

/-- How the core answers the calls of a tick: the step is made, and the picture lies inside of
memory. -/
structure Answers (pipeline : Pipeline) (current : LoadedRom) (rig : Rig σ τ) (status : Int32)
    (addr : UInt32) (machine : Machine σ) : Prop where
  step : ∃ stepped, NativeCore.answer (.step current.handle pipeline.stepMode) rig.machine =
      .ok (.ok status, stepped) ∧
    NativeCore.answer (.screenPointer current.handle) stepped = .ok (.ok addr, machine)
  room : 4 * pixelCount current.screen.width current.screen.height ≤ Checked.maxBufferBytes
  inside : addr.toNat + 4 * pixelCount current.screen.width current.screen.height ≤
    machine.memory.size

/-- A pipeline that has produced a picture and not published it yet. -/
structure Produced (before after : Pipeline) (screen : Screen) (wanted : PixelEncoding)
    (memory : Bytes) (addr : UInt32) : Prop where
  scale : after.scale = before.scale
  stepMode : after.stepMode = before.stepMode
  steady : after.Steady
  stepped : Stepped before.statistics after.statistics
  pictures : Pictures after.staging screen wanted memory addr

variable {current : LoadedRom} {rig : Rig σ τ} {status : Int32} {addr : UInt32}
  {machine : Machine σ}

/-- If the step is made and the picture lies inside of memory, exactly this picture is produced. -/
theorem produce_gives (steady : pipeline.Steady) (countable : pipeline.Countable)
    (answers : pipeline.Answers current rig status addr machine) :
    ∃ produced stopwatch,
      (pipeline.produce current).Gives rig (.ok (), produced) ⟨machine, rig.display, stopwatch⟩
        [.native (.step current.handle pipeline.stepMode) (.ok status),
          .native (.screenPointer current.handle) (.ok addr)] ∧
      Produced pipeline produced current.screen (Surface.encoding rig.display) machine.memory
        addr := by
  obtain ⟨⟨between, hstep, hpointer⟩, room, inside⟩ := answers
  obtain ⟨statistics, stopwatch, steps, counted⟩ := step_gives countable hstep
  -- The core's last answer is on a rig that has the pipeline's display still.
  let asked : Rig σ τ := ⟨machine, rig.display, stopwatch⟩
  have asks : (Act.ask (.screenPointer current.handle)).Gives
      { rig with machine := between, stopwatch } (.ok addr) asked
      [.native (.screenPointer current.handle) (.ok addr)] := Act.gives_ask hpointer
  -- The picture is fetched in the encoding that the surface wants now.
  let stepped : Pipeline := { pipeline with statistics }
  obtain ⟨picture, fetches, pictures⟩ :
      ∃ picture, (stepped.fetch current.screen addr).Gives asked
        (.ok (), { stepped with
          handoff := stepped.handoff.request (Surface.encoding rig.display)
          staging := picture }) asked [] ∧ _ := fetch_gives room inside
  refine ⟨_, stopwatch, steps.first (asks.first fetches), rfl, rfl, ?_, counted, pictures⟩
  -- Neither the step nor the fetch touches the hand-off's frames or the clock.
  refine ⟨steady.period, ?_, steady.waiting, steady.shown⟩
  show pipeline.clock.femtos = statistics.frames.toNat * Clockwork.refresh.femtos
  rw [counted.frames]
  exact steady.clock

omit [Clockwork] in
/-- If the step is made and the picture lies outside of memory, nothing is produced. -/
theorem produce_refused {between : Machine σ} (countable : pipeline.Countable)
    (steps : NativeCore.answer (.step current.handle pipeline.stepMode) rig.machine =
      .ok (.ok status, between))
    (points : NativeCore.answer (.screenPointer current.handle) between = .ok (.ok addr, machine))
    (room : 4 * pixelCount current.screen.width current.screen.height ≤ Checked.maxBufferBytes)
    (outside : machine.memory.size <
      addr.toNat + 4 * pixelCount current.screen.width current.screen.height) :
    ∃ produced stopwatch,
      (pipeline.produce current).Gives rig
        (.error (.outOfBounds addr (4 * pixelCount current.screen.width current.screen.height)
          machine.memory.size), produced)
        ⟨machine, rig.display, stopwatch⟩
        [.native (.step current.handle pipeline.stepMode) (.ok status),
          .native (.screenPointer current.handle) (.ok addr)] ∧
      Stepped pipeline.statistics produced.statistics := by
  obtain ⟨statistics, stopwatch, gives, stepped⟩ := step_gives countable steps
  let asked : Rig σ τ := ⟨machine, rig.display, stopwatch⟩
  have asks : (Act.ask (.screenPointer current.handle)).Gives
      { rig with machine := between, stopwatch } (.ok addr) asked
      [.native (.screenPointer current.handle) (.ok addr)] := Act.gives_ask points
  let counted : Pipeline := { pipeline with statistics }
  -- Only the view is refused, and it is refused for the range that the picture would have had.
  obtain ⟨staging, fetches⟩ :
      ∃ staging, (counted.fetch current.screen addr).Gives asked _ asked [] :=
    fetch_refused room outside
  exact ⟨_, stopwatch, gives.first (asks.first fetches), stepped⟩

/-- A tick whose step is made and whose picture lies inside of memory draws exactly this picture,
and its answer is that of the surface. -/
theorem tick_gives (timely : pipeline.Timely) (steady : pipeline.Steady)
    (countable : pipeline.Countable)
    (answers : pipeline.Answers current rig status addr machine) :
    ∃ picture, Pictures picture current.screen (Surface.encoding rig.display) machine.memory addr ∧
      ∀ answer display,
        Surface.draw picture pipeline.scale rig.display = .ok (answer, display) →
        ∃ ticked stopwatch,
          (pipeline.tick (.loaded current)).Gives rig
            ((answer.mapError .surface).map fun () => true, ticked)
            ⟨machine, display, stopwatch⟩
            [.native (.step current.handle pipeline.stepMode) (.ok status),
              .native (.screenPointer current.handle) (.ok addr),
              .surface (.draw picture pipeline.scale) answer] ∧
          Ticked pipeline ticked := by
  obtain ⟨produced, stopwatch, produces, scale, stepMode, produced_steady, stepped, pictures⟩ :=
    produce_gives steady countable answers
  refine ⟨produced.staging, pictures, fun answer display draws => ?_⟩
  have countable : produced.statistics.frames.toNat + 1 < 2 ^ 64 := by
    rw [stepped.frames]
    exact countable.frames
  -- Producing has counted no frame, so there is as much time left as before.
  have timely := timely.of_frames steady produced_steady stepped.frames
  rw [← scale] at draws ⊢
  let asked : Rig σ τ := ⟨machine, rig.display, stopwatch⟩
  have draws : Surface.draw produced.staging produced.scale asked.display =
      .ok (answer, display) := draws
  obtain ⟨ticked, publishes, ticked_steady, hscale, hmode, frames, faults, timer⟩ :=
    publish_gives timely produced_steady countable draws
  refine ⟨ticked, stopwatch, ?_, hscale.trans scale, hmode.trans stepMode, ticked_steady, ?_, ?_,
    ?_⟩
  -- What is published comes of what has been produced, and the tick passes the answer on.
  · exact (tickLoaded_of_produced produces publishes).then_quietly (Act.gives_pure _ _)
  · rw [frames, stepped.frames]
  · rw [faults]
    exact stepped.faults
  · rw [timer]
    exact stepped.events

end Pipeline

/-- The tick of a controller is that of its pipeline. -/
theorem Emulator.tick_of_pipeline [Clockwork] {σ τ : Type} [NativeCore σ] [Surface τ]
    {emulator : Emulator} {rig after : Rig σ τ} {answer : Except Error Bool} {pipeline : Pipeline}
    {exchanges : List Entry}
    (gives : (emulator.pipeline.tick emulator.lifecycle).Gives rig (answer, pipeline) after
      exchanges) :
    emulator.tick.Gives rig (answer, { emulator with pipeline }) after exchanges :=
  gives.then_quietly (Act.gives_pure _ _)

end Handheld
