import Handheld.Proofs.Bench.Endurance
import Handheld.Proofs.Guest.Serving
import Handheld.Proofs.Guest.Shade
import Handheld.Proofs.Session.Counting
import Handheld.Proofs.Session.Ending
import Handheld.Rehearsal.Platform

/-!
# What a Session with the Sample Core Shows

The picture of the sample core is to tell the number of the frame and the first byte of the rom.
`Emulator.shows_shade` says what it tells: in every session, right after a tick that succeeds, the
canvas has one pixel everywhere, which is the shade of the number of the successful ticks and of the
first byte of the rom that was loaded last.  A rom that has room can be ticked successfully as often
as the timer can count.

`Emulator.OnScreen` is the invariant.  A tick of the running rom either fails before the core has
counted a frame or draws the shade of the next one (`Sample.tick_shades`); nothing else touches the
number of the frame.
-/

namespace Handheld

namespace Sample

open Act

variable {rig after : Rig (Linked Sample) Canvas} {current : LoadedRom} {image : Bytes}
  {pipeline : Pipeline} {number : Nat}

/-! ## §1 One tick

From the word that the core stores to the pixel on the canvas.  The core fills its screen with one
word, so the picture is solid, and a canvas that takes a solid picture is solid.  Only the canvas
can end such a tick with a fault. -/

/-- The core cannot make a step that is smaller than a frame. -/
theorem Serves.aborts [Sandbox] {machine : Machine (Linked Sample)}
    (serves : Serves current machine) :
    ∃ cause, NativeCore.answer (.step current.handle .instruction) machine =
      .ok (.error cause, machine) := by
  obtain ⟨_, _, answered, replies⟩ :=
    serves.exists_replies (.step current.handle .instruction) nofun
  -- Of the listed answers to such a step, one is for an instance that is not in service.
  cases replies with
  | unknown other => exact absurd serves.handle other
  | aborted => exact ⟨_, answered⟩

/-- The first byte of an image that lies in memory is where the image begins. -/
theorem Holds.first_byte {machine : Machine (Linked Sample)} {region : Region}
    (holds : Holds region image machine) (nonempty : region.len ≠ 0) :
    ∃ romByte, image[0]? = some romByte ∧ machine.memory[region.addr.toNat]? = some romByte := by
  obtain ⟨size, places⟩ := Memory.bytes_of_view holds.view
  have positive : 0 < region.len.toNat := Checked.toNat_pos nonempty
  have first : image[0]? = some image[0] := Array.getElem?_eq_getElem (size ▸ positive)
  exact ⟨_, first, (places 0 positive).symm.trans first⟩

/-- The core makes a frame of the rom in service, and the word of the frame is all over its
screen. -/
theorem Serves.answers [Sandbox] (serves : Serves current rig.machine)
    (holds : Holds current.rom image rig.machine)
    (frames : rig.machine.state.state.frames = .ofNat number)
    (vsync : pipeline.stepMode = .vsync) :
    ∃ romByte machine, image[0]? = some romByte ∧
      pipeline.Answers current rig 0 0x800 machine ∧ Serves current machine ∧
      machine.state.state.frames = .ofNat (number + 1) ∧
      ∀ place < 32, HoldsWord machine.memory (0x800 + 4 * place)
        (pixel (.ofNat (number + 1)) romByte) := by
  obtain ⟨romByte, first, found⟩ := holds.first_byte serves.nonempty
  -- The core reads the byte where the rom begins, and there it is the first of the image.
  rw [← serves.rom] at found
  obtain ⟨memory, steps, confined, filled⟩ := serves.step_fills serves.handle found
  have next : rig.machine.state.state.frames + 1 = .ofNat (number + 1) := by
    rw [frames, UInt32.ofNat_add]
    rfl
  rw [next] at steps filled
  obtain ⟨machine, same⟩ : ∃ machine : Machine (Linked Sample), machine =
      { rig.machine with memory, state.state.frames := .ofNat (number + 1) } := ⟨_, rfl⟩
  rw [← same] at steps
  have size : machine.memory.size = memorySize := by
    rw [same]
    exact confined.size.trans serves.size
  have serving : Serves current machine := by
    -- A step changes the memory and the count, and the rest of the instance is as it was.
    refine ⟨⟨size, ?_⟩, ?_, ?_, serves.nonempty, serves.screen⟩
    all_goals rw [same]
    · exact serves.body
    · exact serves.handle
    · exact serves.rom
  -- After the step the core says where the picture is, without changing anything.
  obtain ⟨_, _, points, replies⟩ :=
    serving.exists_replies (.screenPointer current.handle) nofun
  cases replies with
  | pointer =>
    refine ⟨romByte, machine, first, ⟨⟨machine, vsync ▸ steps, points⟩, ?_, ?_⟩, serving, ?_, ?_⟩
    · rw [serves.screen]
      decide
    · rw [serves.screen, size]
      decide
    · rw [same]
    · rw [same]
      exact filled

/-- A tick has drawn the shade of a frame. -/
structure Shades [Clockwork] (current : LoadedRom) (number : Nat) (romByte : UInt8)
    (pipeline ticked : Pipeline) (rig after : Rig (Linked Sample) Canvas) : Prop where
  ticked : pipeline.Ticked ticked
  serves : Serves current after.machine
  frames : after.machine.state.state.frames = .ofNat number
  same : Canvas.SameShape rig.display after.display
  wellFormed : after.display.backing.WellFormed
  draws : after.display.draws.toNat = rig.display.draws.toNat + 1
  backing : after.display.backing = Frame.solid after.display.backing.width
    after.display.backing.height after.display.backing.encoding (shade number romByte)

/-- A tick of the rom in service draws the shade of the next frame, unless the canvas does not
survive it. -/
theorem tick_shades [Clockwork] [Sandbox] {scale : UInt32} (serves : Serves current rig.machine)
    (holds : Holds current.rom image rig.machine)
    (frames : rig.machine.state.state.frames = .ofNat number) (vsync : pipeline.stepMode = .vsync)
    (sized : rig.display.SizedFor ⟨8, 4⟩ scale) (factor : pipeline.scale = scale)
    (timely : pipeline.Timely) (steady : pipeline.Steady) (countable : pipeline.Countable) :
    ∃ romByte, image[0]? = some romByte ∧
      ((∃ fault, rig.display.draw (Frame.solid 8 4 rig.display.backing.encoding
            (shade (number + 1) romByte)) scale = .error fault ∧
          (pipeline.tick (.loaded current)).Faults rig fault) ∨
        ∃ ticked after made, (pipeline.tick (.loaded current)).Gives rig (.ok true, ticked) after
            made ∧ Shades current (number + 1) romByte pipeline ticked rig after) := by
  obtain ⟨romByte, machine, first, answers, serving, counted, filled⟩ :=
    serves.answers holds frames vsync
  refine ⟨romByte, first, ?_⟩
  -- What is fetched from the screen is the solid picture, and so this is what is drawn.
  have solid : ∀ picture, Pipeline.Pictures picture current.screen rig.display.backing.encoding
      machine.memory 0x800 → picture = Frame.solid 8 4 rig.display.backing.encoding
        (shade (number + 1) romByte) := by
    intro picture pictures
    have portrays := pictures.portrays answers.inside
    rw [serves.screen] at portrays
    exact portrays.solid fun place inside => (filled place inside).shade
  subst factor
  -- The draw decides how the tick ends: the canvas may come to its end, and it takes the picture
  -- otherwise.
  cases draws : rig.display.draw (Frame.solid 8 4 rig.display.backing.encoding
      (shade (number + 1) romByte)) pipeline.scale with
  | error fault =>
    refine .inl ⟨fault, rfl, ?_⟩
    refine Pipeline.tick_faults timely steady countable answers fun picture pictures => ?_
    rw [solid picture pictures]
    exact draws
  | ok reply =>
    obtain ⟨answer, display⟩ := reply
    obtain ⟨picture, pictures, ticks⟩ := Pipeline.tick_gives timely steady countable answers
    obtain rfl := solid picture pictures
    have fits : rig.display.Fits (8 : UInt32) 4 pipeline.scale := sized.fits
    obtain rfl : answer = .ok () := fits.accepts draws
    obtain ⟨ticked, stopwatch, gives, ticked_ok⟩ := ticks _ _ draws
    -- A canvas that takes a solid frame is solid.
    obtain ⟨same, drawn, -⟩ :=
      Canvas.of_granted_draw sized.wellFormed Frame.wellFormed_solid draws
    have backing := Canvas.solid_of_draw sized.wellFormed draws
    rw [← same.width, ← same.height, ← same.encoding] at backing
    exact .inr ⟨ticked, _, _, gives, ticked_ok, serving, counted, same,
      Canvas.wellFormed_of_draw sized.wellFormed draws, drawn, backing⟩

end Sample

namespace Emulator

open Act Sample

variable {scale : UInt32} {encoding : PixelEncoding} {deeds : List Deed}
  {history : List NativeCall} {emulator next : Emulator} {rig after : Rig (Linked Sample) Canvas}
  {current : LoadedRom} {operation : Operation} {answer : Except Error operation.Answer}
  {calls : List NativeCall}

/-! ## §2 The invariant

The invariant has the number of the frame in the core, in the controller and in the deeds, and says
what is shown if the last deed was a tick that succeeded.  A deed either draws nothing, or draws the
next shade. -/

/-- The canvas has one pixel everywhere: the shade of the number of the successful ticks and of the
first byte of the rom that was loaded last. -/
def Shown (scale : UInt32) (encoding : PixelEncoding) (deeds : List Deed) (canvas : Canvas) :
    Prop :=
  ∃ image romByte, LastLoaded deeds image ∧ image[0]? = some romByte ∧
    canvas.backing = Frame.solid (8 * scale) (4 * scale) encoding
      (shade (deeds.countP Deed.isFrame) romByte)

section Sessions

variable [Clockwork]

/-- A controller of the sample core that draws on a canvas, after deeds that have come to calls. -/
structure OnScreen (scale : UInt32) (encoding : PixelEncoding) (deeds : List Deed)
    (history : List NativeCall) (emulator : Emulator) (rig : Rig (Linked Sample) Canvas) : Prop
    extends InUse scale deeds history emulator rig where
  within : emulator.pipeline.Within emulator.steps
  draws : rig.display.draws.toNat ≤ emulator.steps
  frames : rig.machine.state.state.frames = .ofNat (deeds.countP Deed.isFrame)
  same_encoding : rig.display.backing.encoding = encoding
  serving : ∀ current, emulator.lifecycle = .loaded current →
    Serves current rig.machine ∧ rig.display.SizedFor ⟨8, 4⟩ scale
  shown : ∀ deed ∈ deeds.getLast?, deed.isFrame = true → Shown scale encoding deeds rig.display

/-- A deed that has drawn nothing leaves the number of the frame alone, and nothing is to be seen
after it. -/
theorem OnScreen.unframed {deed : Deed}
    (on : OnScreen scale encoding deeds history emulator rig) (unframed : deed.isFrame = false)
    (canvas : Canvas) :
    rig.machine.state.state.frames = .ofNat ((deeds ++ [deed]).countP Deed.isFrame) ∧
      ∀ last ∈ (deeds ++ [deed]).getLast?, last.isFrame = true →
        Shown scale encoding (deeds ++ [deed]) canvas := by
  constructor
  · rw [List.countP_append, List.countP_singleton, unframed]
    exact on.frames
  · intro last newest framed
    obtain rfl : deed = last := Option.some.inj (List.getLast?_concat.symm.trans newest)
    cases unframed.symm.trans framed

/-- An operation that makes no step keeps the invariant. -/
theorem OnScreen.moved [Sandbox]
    (on : OnScreen scale encoding deeds history emulator rig)
    (inUse : InUse scale (deeds ++ [⟨operation, answer⟩]) (history ++ calls) next after)
    (upkept : Upkept emulator next rig after)
    (unframed : Deed.isFrame ⟨operation, answer⟩ = false) :
    OnScreen scale encoding (deeds ++ [⟨operation, answer⟩]) (history ++ calls) next after := by
  -- The core has counted no frame, whatever else it has been asked.
  obtain ⟨⟨made, moves⟩, -, -, statistics, running⟩ := upkept
  have same_steps : next.steps = emulator.steps := congrArg (·.stepTime.events.toNat) statistics
  have tended := moves.tended
  have at_frame := on.books.toIntact.atFrame.of_moves moves fun _ => id
  obtain ⟨frames, shown⟩ := on.unframed unframed after.display
  refine ⟨inUse, ?_, ?_, at_frame.frames.trans frames, tended.encoding.trans on.same_encoding, ?_,
    shown⟩
  -- The timer has not counted, so the old bounds are still good.
  · obtain ⟨frames_le, faults_le, events_le⟩ := on.within
    rw [same_steps]
    constructor <;> rw [statistics] <;> assumption
  · rw [tended.draws, same_steps]
    exact on.draws
  · intro current loaded
    rcases running current loaded with ⟨image, loading, loads, value, same⟩ | ⟨before, _, buttons⟩
    · -- A load has put the rom into service and sized the canvas for it.
      have gives := Gives.of_run loads
      rw [value] at gives
      have serves := serves_of_load on.books.toIntact gives
      obtain ⟨-, sized⟩ := Lifecycle.sized_of_load loads value
      rw [same] at serves sized
      exact ⟨serves, serves.screen ▸ on.factor ▸ sized⟩
    · obtain ⟨serves, sized⟩ := on.serving current before
      have same : rig.display = after.display := buttons.display_invariant nofun rfl
      exact ⟨serves.of_buttons buttons, same ▸ sized⟩

/-- A tick whose step the core cannot make keeps the invariant. -/
theorem OnScreen.aborted [Sandbox]
    {outcome : Outcome (Linked Sample) Canvas (Except Error Bool × Pipeline)}
    (on : OnScreen scale encoding deeds history emulator rig)
    (loaded : emulator.lifecycle = .loaded current)
    (mode : emulator.pipeline.stepMode = .instruction)
    (inUse : InUse scale (deeds ++ [⟨.tick, outcome.value.1⟩]) (history ++ calls)
      { emulator with pipeline := outcome.value.2 } outcome.rig)
    (run : (emulator.pipeline.tick (.loaded current)).run rig = .ok outcome) :
    OnScreen scale encoding (deeds ++ [⟨.tick, outcome.value.1⟩]) (history ++ calls)
      { emulator with pipeline := outcome.value.2 } outcome.rig := by
  obtain ⟨serves, sized⟩ := on.serving current loaded
  -- The step fails in the core, before there is a picture.
  obtain ⟨cause, aborts⟩ := serves.aborts
  rw [← mode] at aborts
  obtain ⟨produced, stopwatch, produces⟩ := Pipeline.produce_unstepped aborts
  obtain ⟨value, same, -⟩ := (Pipeline.tick_of_unproduced produces).outcome_eq run
  -- Neither the timer nor the core has counted anything.
  obtain ⟨events, faults, frames⟩ := (Pipeline.produce_counts produces).1
  obtain ⟨⟨answer, ticked⟩, last, journal⟩ := outcome
  obtain ⟨rfl, rfl⟩ := Prod.mk.inj value
  dsimp only at same inUse
  subst same
  have undrawn : Deed.isFrame ⟨.tick, .error cause⟩ = false := rfl
  obtain ⟨frames_kept, shown⟩ := on.unframed undrawn rig.display
  have same_steps : steps { emulator with pipeline := ticked } = emulator.steps := events
  obtain ⟨frames_le, faults_le, events_le⟩ := on.within
  refine ⟨inUse, ?_, ?_, frames_kept, on.same_encoding, fun other running => ?_, shown⟩
  · rw [same_steps]
    exact ⟨frames ▸ frames_le, faults ▸ faults_le, events ▸ events_le⟩
  · rw [same_steps]
    exact on.draws
  · exact on.serving other running

/-- A tick that draws the shade of the next frame keeps the invariant. -/
theorem OnScreen.shaded {ticked : Pipeline} {image : Bytes} {romByte : UInt8}
    (on : OnScreen scale encoding deeds history emulator rig)
    (loaded : emulator.lifecycle = .loaded current) (last_loaded : LastLoaded deeds image)
    (first : image[0]? = some romByte)
    (inUse : InUse scale (deeds ++ [⟨.tick, .ok true⟩]) (history ++ calls)
      { emulator with pipeline := ticked } after)
    (shades : Shades current (deeds.countP Deed.isFrame + 1) romByte emulator.pipeline ticked rig
      after) :
    OnScreen scale encoding (deeds ++ [⟨.tick, .ok true⟩]) (history ++ calls)
      { emulator with pipeline := ticked } after := by
  obtain ⟨ticked_ok, serves, frames, same, wellFormed, draws, backing⟩ := shades
  -- The tick is one deed more that has drawn.
  have counted : (deeds ++ [(⟨.tick, .ok true⟩ : Deed)]).countP Deed.isFrame =
      deeds.countP Deed.isFrame + 1 := List.countP_append
  have one_more : steps { emulator with pipeline := ticked } = emulator.steps + 1 :=
    ticked_ok.events
  have encoded := same.encoding.trans on.same_encoding
  obtain ⟨suits, -, enlarged⟩ := (on.serving current loaded).2
  have suits := suits.of_sameShape same
  refine ⟨inUse, one_more ▸ ticked_ok.within on.within, ?_, counted ▸ frames, encoded,
    fun other running => ?_, fun _ _ _ => ?_⟩
  · have before := on.draws
    omega
  · obtain rfl := Lifecycle.loaded.inj (loaded.symm.trans running)
    exact ⟨serves, suits, wellFormed, enlarged⟩
  -- The image is the one of the last load still, and the canvas is solid of the size that it was
  -- given.
  · refine ⟨image, romByte, last_loaded.concat trivial, first, ?_⟩
    rw [counted, backing, suits.fits.axes.1, suits.fits.axes.2, encoded]

/-- Every tick of a running rom keeps the invariant. -/
theorem OnScreen.ticked [Sandbox]
    {outcome : Outcome (Linked Sample) Canvas (Except Error Bool × Pipeline)}
    (on : OnScreen scale encoding deeds history emulator rig)
    (loaded : emulator.lifecycle = .loaded current)
    (inUse : InUse scale (deeds ++ [⟨.tick, outcome.value.1⟩]) (history ++ calls)
      { emulator with pipeline := outcome.value.2 } outcome.rig)
    (run : (emulator.pipeline.tick (.loaded current)).run rig = .ok outcome) :
    OnScreen scale encoding (deeds ++ [⟨.tick, outcome.value.1⟩]) (history ++ calls)
      { emulator with pipeline := outcome.value.2 } outcome.rig := by
  cases mode : emulator.pipeline.stepMode with
  | instruction => exact on.aborted loaded mode inUse run
  | vsync =>
    obtain ⟨image, last_loaded, holds⟩ := on.running current loaded
    obtain ⟨serves, sized⟩ := on.serving current loaded
    obtain ⟨_, _, -, answers, -⟩ := serves.answers holds on.frames mode
    -- A tick that the timer cannot count, or for which the clock has no time left, would not have
    -- come to an end.
    by_cases small : emulator.steps + 1 < 2 ^ 32
    · have countable := on.within.countable small
      by_cases timely : emulator.pipeline.Timely
      · obtain ⟨romByte, first, ⟨fault, -, journal, cut⟩ | ⟨ticked, after, made, gives, shades⟩⟩ :=
          tick_shades serves holds on.frames mode sized on.factor timely on.steady countable
        · cases cut.symm.trans run
        · obtain ⟨value, same, -⟩ := gives.outcome_eq run
          rw [value, same] at inUse ⊢
          exact on.shaded loaded last_loaded first inUse shades
      · obtain ⟨journal, cut⟩ := Pipeline.tick_late timely on.steady countable answers
        cases cut.symm.trans run
    · obtain ⟨⟨_, steps, -⟩, -, -⟩ := answers
      have faults : (emulator.pipeline.tick (.loaded current)).Faults rig .overflow :=
        Pipeline.tick_exhausted (Nat.le_of_not_lt small) steps
      obtain ⟨journal, cut⟩ := faults
      cases cut.symm.trans run

/-! ## §3 Sessions

An operation is a tick of a running rom, or it makes no step. -/

theorem OnScreen.perform [Sandbox]
    {outcome : Outcome (Linked Sample) Canvas (Except Error operation.Answer × Emulator)}
    (on : OnScreen scale encoding deeds history emulator rig)
    (short : ∀ image, operation = .loadRom image → image.size < 2 ^ 31)
    (run : (emulator.perform operation).run rig = .ok outcome) :
    OnScreen scale encoding (deeds ++ [⟨operation, outcome.value.1⟩])
      (history ++ outcome.journal.calls) outcome.value.2 outcome.rig := by
  have inUse := on.toInUse.perform short run
  -- Apart from a tick of a running rom, no operation makes a step.
  by_cases idle : operation = .tick → emulator.lifecycle = .empty
  · obtain ⟨upkept, unframed⟩ := upkept_of_perform on.steady idle run
    exact on.moved inUse upkept unframed
  · obtain ⟨rfl, running⟩ := Classical.not_imp.1 idle
    cases hlifecycle : emulator.lifecycle with
    | empty => exact absurd hlifecycle running
    | loaded current =>
      obtain ⟨inner, ticks, rfl⟩ := run_map_eq_ok_iff.1 run
      exact on.ticked hlifecycle inUse (hlifecycle ▸ ticks)

/-- Any number of operations keeps the invariant. -/
theorem OnScreen.performAll [Sandbox] {operations : List Operation}
    {outcome : Outcome (Linked Sample) Canvas (List Deed × Emulator)}
    (on : OnScreen scale encoding deeds history emulator rig)
    (short : ∀ image, .loadRom image ∈ operations → image.size < 2 ^ 31)
    (run : (emulator.performAll operations).run rig = .ok outcome) :
    OnScreen scale encoding (deeds ++ outcome.value.1) (history ++ outcome.journal.calls)
      outcome.value.2 outcome.rig := by
  -- As the operations are done one after the other, their deeds and calls are appended.
  induction operations generalizing deeds history emulator rig outcome with
  | nil =>
    obtain rfl := Except.ok.inj run
    rwa [Journal.calls_nil, List.append_nil, List.append_nil]
  | cons operation operations ih =>
    obtain ⟨first, rest, performs, goes_on, rfl⟩ := run_bind_eq_ok_iff.1 run
    obtain ⟨others, performs_others, rfl⟩ := run_map_eq_ok_iff.1 goes_on
    have middle := on.perform
      (fun image same => short image (same ▸ List.mem_cons_self)) performs
    have final := ih middle (fun image later => short image (List.mem_cons_of_mem _ later))
      performs_others
    rw [Journal.calls_append, ← List.append_assoc, List.append_cons]
    exact final

theorem onScreen_fresh (options : EmulatorOptions) (encoding : PixelEncoding)
    (width height : UInt32) (stopwatch : Stopwatch) :
    OnScreen options.scale encoding [] [] (new options)
      ⟨fresh, (Canvas.new encoding).withLimit width height, stopwatch⟩ where
  toInUse := inUse_fresh ..
  within := Pipeline.within_new _ _
  draws := Nat.le_refl 0
  frames := rfl
  same_encoding := rfl
  serving := nofun
  shown _ last := nomatch last

end Sessions

/-! ## §4 Ticks that succeed

With clocks as they are documented a tick of a running rom succeeds until the timer is full.  The
invariant already knows what the canvas shows then, so all that is left is to find the image and the
number in the deeds. -/

/-- A tick of a running rom succeeds, as long as the timer can count it. -/
theorem OnScreen.tick_gives [Clockwork] [Sandbox] (standard : Clockwork.Standard)
    (on : OnScreen scale encoding deeds history emulator rig)
    (loaded : emulator.lifecycle = .loaded current) (vsync : emulator.pipeline.stepMode = .vsync)
    (area : 8 * scale.toNat * (4 * scale.toNat) ≤ 2 ^ 32) (small : emulator.steps + 1 < 2 ^ 32) :
    ∃ next after made, emulator.tick.Gives rig (.ok true, next) after made ∧
      next.lifecycle = .loaded current ∧ next.pipeline.stepMode = .vsync ∧
      next.steps = emulator.steps + 1 := by
  obtain ⟨image, -, holds⟩ := on.running current loaded
  obtain ⟨serves, sized⟩ := on.serving current loaded
  have countable := on.within.countable small
  -- Either the draw faults, or the tick succeeds.
  obtain ⟨romByte, -, ⟨fault, cut, -⟩ | ⟨ticked, after, made, gives, shades⟩⟩ :=
    tick_shades serves holds on.frames vsync sized on.factor
      (on.steady.timely standard countable.frames) on.steady countable
  · -- The canvas survives the draw: neither its rows nor its counter come to their end.
    have addressable : rig.display.backing.Addressable := by
      apply Frame.addressable_of_area
      rw [pixelCount, sized.fits.width, sized.fits.height]
      exact area
    have countable : rig.display.draws.toNat + 1 < 2 ^ 64 := by
      have before := on.draws
      omega
    obtain ⟨_, draws, -⟩ := Canvas.draw_ok sized.wellFormed Frame.wellFormed_solid addressable
      sized.fits countable
    cases cut.symm.trans draws
  · rw [← loaded] at gives
    exact ⟨_, after, made, tick_of_pipeline gives, loaded, shades.ticked.stepMode.trans vsync,
      shades.ticked.events⟩

/-- By induction on their number: ticks in a row succeed. -/
theorem OnScreen.ticks_give [Clockwork] [Sandbox] (standard : Clockwork.Standard) {count : Nat}
    (on : OnScreen scale encoding deeds history emulator rig)
    (loaded : emulator.lifecycle = .loaded current) (vsync : emulator.pipeline.stepMode = .vsync)
    (area : 8 * scale.toNat * (4 * scale.toNat) ≤ 2 ^ 32)
    (few : emulator.steps + count < 2 ^ 32) :
    ∃ next after made, (emulator.performAll (List.replicate count .tick)).Gives rig
      (List.replicate count ⟨.tick, .ok true⟩, next) after made := by
  -- Every tick leaves the rom running, with one step less that can be counted.
  induction count generalizing deeds history emulator rig with
  | zero => exact ⟨_, _, _, gives_pure _ _⟩
  | succ count ih =>
    obtain ⟨middle, between, made, ticks, still_loaded, still_vsync, one_more⟩ :=
      on.tick_gives standard loaded vsync area (by omega)
    have few : middle.steps + count < 2 ^ 32 := by omega
    obtain ⟨journal, run, -⟩ := id ticks
    have run : (emulator.perform .tick).run rig = .ok ⟨(.ok true, middle), between, journal⟩ := run
    have on := on.perform (by nofun) run
    obtain ⟨next, after, more, others⟩ := ih on still_loaded still_vsync few
    exact ⟨next, after, made ++ more, ticks.bind (others.then_quietly (gives_pure _ _))⟩

/-- The deeds of a load and of ticks that succeed. -/
def played (image : Bytes) (count : Nat) : List Deed :=
  ⟨.loadRom image, .ok ⟨8, 4⟩⟩ :: List.replicate count ⟨.tick, .ok true⟩

theorem countP_played (image : Bytes) (count : Nat) :
    (played image count).countP Deed.isFrame = count := by
  have load : ¬ Deed.isFrame ⟨.loadRom image, .ok ⟨8, 4⟩⟩ = true := nofun
  have tick : Deed.isFrame ⟨.tick, .ok true⟩ = true := rfl
  rw [played, List.countP_cons_of_neg load, List.countP_replicate, if_pos tick]

theorem getLast?_played (image : Bytes) (count : Nat) :
    (played image (count + 1)).getLast? = some ⟨.tick, .ok true⟩ := by
  rw [played, List.replicate_succ', ← List.cons_append, List.getLast?_concat]

/-- No other image has been loaded. -/
theorem image_of_played {image other : Bytes} {count : Nat}
    (last : LastLoaded (played image count) other) : other = image := by
  obtain ⟨before, screen, after, same, -⟩ := last
  have loaded : ⟨.loadRom other, .ok screen⟩ ∈ played image count :=
    same ▸ List.mem_append_right _ List.mem_cons_self
  -- The only deed that is a load is the first one.
  rcases List.mem_cons.1 loaded with same | ticked
  · cases same
    rfl
  · cases List.eq_of_mem_replicate ticked

/-- If the enlarged screen has at most `2 ^ 32` points, its axes are words, and a canvas of its size
has no more points. -/
theorem axes_of_area (enlarged : scale ≠ 0)
    (area : 8 * scale.toNat * (4 * scale.toNat) ≤ 2 ^ 32) :
    8 * scale.toNat < 2 ^ 32 ∧ pixelCount (8 * scale) (4 * scale) ≤ 2 ^ 32 := by
  have positive : 0 < scale.toNat := Checked.toNat_pos enlarged
  -- A product of two axes is at least as large as one of them.
  have rows : 8 * scale.toNat * 4 ≤ 8 * scale.toNat * (4 * scale.toNat) :=
    Nat.mul_le_mul_left _ (by omega)
  have pixels : pixelCount (8 * scale) (4 * scale) ≤ 8 * scale.toNat * (4 * scale.toNat) := by
    rw [pixelCount, UInt32.toNat_mul, UInt32.toNat_mul]
    exact Nat.mul_le_mul (Nat.mod_le ..) (Nat.mod_le ..)
  exact ⟨by omega, Nat.le_trans pixels area⟩

/-- A rom that has room is loaded, and then it can be ticked successfully as often as the timer can
count. -/
theorem load_and_ticks_give [Clockwork] [Sandbox] (standard : Clockwork.Standard)
    {options : EmulatorOptions} {width height : UInt32} {image : Bytes} {count : Nat}
    (stopwatch : Stopwatch) (vsync : options.stepMode = .vsync) (enlarged : options.scale ≠ 0)
    (area : 8 * options.scale.toNat * (4 * options.scale.toNat) ≤ 2 ^ 32)
    (accepts : Canvas.Within (width, height) (8 * options.scale) (4 * options.scale))
    (nonempty : image.size ≠ 0) (room : image.size ≤ 0x1F000) (few : count < 2 ^ 32) :
    ∃ next after made,
      ((new options).performAll (.loadRom image :: List.replicate count .tick)).Gives
        ⟨fresh, (Canvas.new encoding).withLimit width height, stopwatch⟩
        (played image count, next) after made := by
  have on := onScreen_fresh options encoding width height stopwatch
  have short : image.size < 2 ^ 31 := Nat.lt_of_le_of_lt room (by decide)
  obtain ⟨word, pixels⟩ := axes_of_area enlarged area
  obtain ⟨display, resizes⟩ :=
    @Canvas.resize_ok ((Canvas.new encoding).withLimit width height) _ _ accepts
      (Frame.room_of_area pixels)
  -- The heap of a core that has not been called begins behind the screen.
  have block : (fresh.state.state.heap.toNat + image.size + 7) / 8 * 8 ≤ memorySize := by
    show (0x1000 + image.size + 7) / 8 * 8 ≤ 0x20000
    omega
  obtain ⟨rom, loaded, machine, made, loads, running, mode⟩ :=
    loadRom_of_room on.toInUse ⟨enlarged, word⟩ resizes nonempty short block
  -- The load has brought about what the ticks need, and it has counted no step.
  obtain ⟨journal, run, -⟩ := id loads
  have statistics := (upkept_of_loadRom on.steady run).statistics
  have unstepped : loaded.steps = 0 := congrArg (·.stepTime.events.toNat) statistics
  have on := @OnScreen.perform _ _ _ _ _ _ (.loadRom image) _ _ _ on
    (by rintro _ ⟨⟩; exact short) run
  obtain ⟨next, after, more, ticks⟩ := on.ticks_give standard running (mode.trans vsync) area
    (by rwa [unstepped, Nat.zero_add] : loaded.steps + count < 2 ^ 32)
  exact ⟨next, after, _, loads.bind (ticks.then_quietly (gives_pure _ _))⟩

/-- After the last of the ticks the canvas has one pixel everywhere, which is the shade of their
number. -/
theorem solid_of_played [Clockwork] [Sandbox] {options : EmulatorOptions} {width height : UInt32}
    {image : Bytes} {romByte : UInt8} {count : Nat} {stopwatch : Stopwatch}
    {outcome : Outcome (Linked Sample) Canvas (List Deed × Emulator)}
    (first : image[0]? = some romByte) (short : image.size < 2 ^ 31)
    (run : ((new options).performAll (.loadRom image :: List.replicate (count + 1) .tick)).run
      ⟨fresh, (Canvas.new encoding).withLimit width height, stopwatch⟩ = .ok outcome)
    (deeds : outcome.value.1 = played image (count + 1)) :
    outcome.rig.display.backing = Frame.solid (8 * options.scale) (4 * options.scale) encoding
      (shade (count + 1) romByte) := by
  -- The run is a session, so the canvas shows the shade of its last deed.
  have on := (onScreen_fresh options encoding width height stopwatch).performAll
    (fun other given => by
      rcases List.mem_cons.1 given with same | ticked
      · cases same
        exact short
      · cases List.eq_of_mem_replicate ticked) run
  rw [List.nil_append, deeds] at on
  obtain ⟨other, otherByte, last_loaded, other_first, backing⟩ :=
    on.shown _ (getLast?_played image count) rfl
  -- There is only one image and only one first byte that it can be the shade of.
  obtain rfl := image_of_played last_loaded
  obtain rfl := Option.some.inj (first.symm.trans other_first)
  rwa [countP_played] at backing

/-- A rom that has room is loaded, and after as many ticks as the timer can count the canvas has the
shade of their number. -/
theorem load_and_ticks_show [Clockwork] [Sandbox] (standard : Clockwork.Standard)
    {options : EmulatorOptions} {width height : UInt32} {image : Bytes} {romByte : UInt8}
    {count : Nat} (stopwatch : Stopwatch) (vsync : options.stepMode = .vsync)
    (enlarged : options.scale ≠ 0)
    (area : 8 * options.scale.toNat * (4 * options.scale.toNat) ≤ 2 ^ 32)
    (accepts : Canvas.Within (width, height) (8 * options.scale) (4 * options.scale))
    (first : image[0]? = some romByte) (room : image.size ≤ 0x1F000) (few : count + 1 < 2 ^ 32) :
    ∃ outcome : Outcome (Linked Sample) Canvas (List Deed × Emulator),
      ((new options).performAll (.loadRom image :: List.replicate (count + 1) .tick)).run
        ⟨fresh, (Canvas.new encoding).withLimit width height, stopwatch⟩ = .ok outcome ∧
      outcome.value.1 = played image (count + 1) ∧
      outcome.rig.display.backing = Frame.solid (8 * options.scale) (4 * options.scale) encoding
        (shade (count + 1) romByte) := by
  have nonempty : image.size ≠ 0 := Nat.ne_of_gt (Array.getElem?_eq_some_iff.1 first).1
  obtain ⟨next, after, made, ⟨journal, run, -⟩⟩ :=
    load_and_ticks_give standard stopwatch vsync enlarged area accepts nonempty room few
  exact ⟨_, run, rfl, solid_of_played first (Nat.lt_of_le_of_lt room (by decide)) run rfl⟩

/-- In every session with the sample core, right after a tick that succeeds, the canvas has one
pixel everywhere.  It is the shade of the number of the successful ticks and of the first byte of
the rom that was loaded last.

A rom that has room, on a canvas that accepts its size, is loaded, and with clocks as they are
documented it can be ticked successfully as often as the timer can count.  So the shade of every
number can be seen.

The shade is red for the number and green for the byte alone exactly if the second byte of the
number adds nothing to that of the rom and the third byte is zero. -/
theorem shows_shade [Clockwork] [Sandbox] {machine : Machine (Linked Sample)}
    {options : EmulatorOptions} {encoding : PixelEncoding} {width height : UInt32}
    {stopwatch : Stopwatch} (linked : ((Sample.image .plain {}).link .plain).value = .ok machine) :
    (∀ operations outcome, (∀ image, .loadRom image ∈ operations → image.size < 2 ^ 31) →
      ((new options).performAll operations).run
        ⟨machine, (Canvas.new encoding).withLimit width height, stopwatch⟩ = .ok outcome →
      ∀ earlier, outcome.value.1 = earlier ++ [⟨.tick, .ok true⟩] →
        ∃ image romByte, LastLoaded outcome.value.1 image ∧ image[0]? = some romByte ∧
          outcome.rig.display.backing = Frame.solid (8 * options.scale) (4 * options.scale) encoding
            (shade (outcome.value.1.countP Deed.isFrame) romByte)) ∧
    (Clockwork.Standard → options.stepMode = .vsync → options.scale ≠ 0 →
      8 * options.scale.toNat * (4 * options.scale.toNat) ≤ 2 ^ 32 →
      Canvas.Within (width, height) (8 * options.scale) (4 * options.scale) →
      ∀ (image : Bytes) (romByte : UInt8) (count : Nat), image[0]? = some romByte →
        image.size ≤ 0x1F000 → count + 1 < 2 ^ 32 →
        ∃ outcome,
          ((new options).performAll (.loadRom image :: List.replicate (count + 1) .tick)).run
            ⟨machine, (Canvas.new encoding).withLimit width height, stopwatch⟩ = .ok outcome ∧
          outcome.value.1 =
            ⟨.loadRom image, .ok ⟨8, 4⟩⟩ :: List.replicate (count + 1) ⟨.tick, .ok true⟩ ∧
          outcome.rig.display.backing = Frame.solid (8 * options.scale) (4 * options.scale) encoding
            (shade (count + 1) romByte)) ∧
    ∀ (count : Nat) (romByte : UInt8),
      (shade count romByte).encode encoding =
          (Pixel.rgba (.ofNat count) romByte 0 255).encode encoding ↔
        romByte ||| .ofNat (count / 256) = romByte ∧ UInt8.ofNat (count / 65536) = 0 := by
  -- There is only one core that the image links to.
  rw [link_image] at linked
  obtain rfl := Except.ok.inj linked
  -- The invariant holds of the fresh core, and a tick at the end of the operations has shown a
  -- shade.
  refine ⟨fun operations outcome short run earlier last => ?_,
    fun standard vsync enlarged area accepts image romByte count first room few =>
      load_and_ticks_show standard stopwatch vsync enlarged area accepts first room few,
    shade_encode_eq_iff encoding⟩
  have on := (onScreen_fresh options encoding width height stopwatch).performAll short run
  rw [List.nil_append] at on
  exact on.shown ⟨.tick, .ok true⟩ (last ▸ List.getLast?_concat) rfl

/-- A rom of one byte after its first tick: the canvas is enlarged to twice the size of the screen,
and all of it is red for the number 1 and green for the byte. -/
theorem shows_shade_of_first_tick :
    ∃ outcome : Outcome (Linked Sample) Canvas (List Deed × Emulator),
      ((new { scale := 2 }).performAll [.loadRom #[0x5A], .tick]).run
        ⟨fresh, (Canvas.new .rgba).withLimit 16 8, {}⟩ = .ok outcome ∧
      outcome.value.1 = [⟨.loadRom #[0x5A], .ok ⟨8, 4⟩⟩, ⟨.tick, .ok true⟩] ∧
      outcome.rig.display.backing = Frame.solid 16 8 .rgba (.rgba 1 0x5A 0 255) ∧
      ∃ image romByte, LastLoaded outcome.value.1 image ∧ image[0]? = some romByte ∧
        outcome.rig.display.backing = Frame.solid 16 8 .rgba (shade 1 romByte) := by
  have linked : ((Sample.image .plain {}).link .plain).value = .ok fresh := by rw [link_image]
  obtain ⟨sessions, ticks, -⟩ :=
    @shows_shade _ _ fresh { scale := 2 } .rgba 16 8 {} linked
  obtain ⟨outcome, run, deeds, backing⟩ :=
    ticks Platform.clockwork_standard rfl (by decide) (by decide) (by decide) #[0x5A] 0x5A 0 rfl
      (by decide) (by decide)
  have short : ∀ image : Bytes, .loadRom image ∈ [Operation.loadRom #[0x5A], .tick] →
      image.size < 2 ^ 31 := by
    intro image given
    rcases List.mem_pair.1 given with same | same <;> cases same
    decide
  -- The outcome is one of the sessions that the first half is about as well.
  rw [Nat.zero_add, List.replicate_one] at run deeds
  have shown := sessions _ outcome short run [⟨.loadRom #[0x5A], .ok ⟨8, 4⟩⟩] deeds
  refine ⟨outcome, run, deeds, backing, ?_⟩
  rw [deeds] at shown ⊢
  exact shown

/-- The 256th tick of a rom of one byte: the number is zero in one byte, but its second byte shows
in the green channel. -/
theorem number_shows_in_green :
    ∃ outcome : Outcome (Linked Sample) Canvas (List Deed × Emulator),
      ((new { scale := 1 }).performAll (.loadRom #[0x5A] :: List.replicate 256 .tick)).run
        ⟨fresh, (Canvas.new .rgba).withLimit 0xFFFFFFFF 0xFFFFFFFF, {}⟩ = .ok outcome ∧
      outcome.value.1 = ⟨.loadRom #[0x5A], .ok ⟨8, 4⟩⟩ :: List.replicate 256 ⟨.tick, .ok true⟩ ∧
      outcome.rig.display.backing.getPixel 0 0 ≠
        .ok (some ((Pixel.rgba (.ofNat 256) 0x5A 0 255).encode .rgba)) := by
  obtain ⟨outcome, run, deeds, backing⟩ :=
    @load_and_ticks_show .rgba _ _ Platform.clockwork_standard { scale := 1 } 0xFFFFFFFF 0xFFFFFFFF
      #[0x5A] 0x5A 255 {} rfl (by decide) (by decide) (by decide) rfl (by decide) (by decide)
  have number : 255 + 1 = 256 := rfl
  rw [number] at run deeds backing
  refine ⟨outcome, run, deeds, ?_⟩
  rw [backing]
  decide +kernel

end Emulator

end Handheld
