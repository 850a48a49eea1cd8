import Mathlib.Control.Monad.Basic
import Handheld.Bench.Core
import Handheld.Display.Canvas
import Handheld.Proofs.Session.Milestone
import Handheld.Session.Emulator

/-!
# Loads Are All or Nothing

The main result, `Lifecycle.load_failure`, says that a load which fails has made its steps in
their order up to the first that failed, has answered with the error of that step, and has then
done no more than to give back what it had acquired.  `Lifecycle.reason_of_load` adds in numbers
why that step failed.

The proof follows the code: `Act.Follows` says of a part of a load which steps it makes and what
it does after one that fails, and it has a rule for each way in which the parts are put together.
-/

namespace Handheld

/-! ## §1 Acts that follow the steps

`Follows` connects a part of the program with the steps of a load.  Its value says how far the load
has come, and the calls behind a failure belong to what has been acquired; the rule for sequences
puts two such parts together. -/

namespace Act

variable {σ τ α β : Type}

/-- The act succeeds with a given result, leaves the rig alone and makes no call. -/
def Settles (act : Act σ τ α) (value : α) : Prop :=
  ∀ rig outcome, act.run rig = .ok outcome →
    outcome.value = value ∧ outcome.rig = rig ∧ outcome.journal.exchanges = []

/-- The act ends with the given result, and its calls are of the given kind. -/
def Ends (act : Act σ τ α) (value : α) (kind : List Entry → Prop) : Prop :=
  ∀ rig outcome, act.run rig = .ok outcome →
    outcome.value = value ∧ kind outcome.journal.exchanges

theorem settles_pure (value : α) : (pure value : Act σ τ α).Settles value := by
  intro rig outcome run
  obtain rfl := Except.ok.inj run
  exact ⟨rfl, rfl, rfl⟩

theorem settles_note (diagnostic : Diagnostic) :
    (note diagnostic : Act σ τ Unit).Settles () := by
  intro rig outcome run
  obtain rfl := Except.ok.inj run
  exact ⟨rfl, rfl, rfl⟩

theorem settles_noteError (result : Except Error α) (diagnostic : Error → Diagnostic) :
    (noteError result diagnostic : Act σ τ Unit).Settles () := by
  cases result with
  | ok value => exact settles_pure ()
  | error cause => exact settles_note (diagnostic cause)

/-- A diagnostic before the result. -/
theorem settles_note_pure (diagnostic : Diagnostic) (value : α) :
    (do note diagnostic; return value : Act σ τ α).Settles value := by
  intro rig outcome run
  obtain rfl := Except.ok.inj run
  exact ⟨rfl, rfl, rfl⟩

theorem Settles.ends {act : Act σ τ α} {value : α} {kind : List Entry → Prop}
    (settles : act.Settles value) (silent : kind []) : act.Ends value kind := by
  intro rig outcome run
  obtain ⟨hvalue, -, calls⟩ := settles _ _ run
  exact ⟨hvalue, calls ▸ silent⟩

theorem Settles.bind {first : Act σ τ α} {next : α → Act σ τ β} {value : α} {result : β}
    (settles : first.Settles value) (then_settles : (next value).Settles result) :
    (first >>= next).Settles result := by
  intro rig outcome run
  obtain ⟨inner, outer, hfirst, hnext, rfl⟩ := run_bind_eq_ok_iff.1 run
  obtain ⟨hvalue, hrig, hcalls⟩ := settles _ _ hfirst
  rw [hvalue, hrig] at hnext
  obtain ⟨hresult, hrig', hmore⟩ := then_settles _ _ hnext
  exact ⟨hresult, hrig', by rw [Journal.exchanges_append, hcalls, hmore, List.append_nil]⟩

/-- Something quiet goes before. -/
theorem Settles.bind_ends {first : Act σ τ α} {next : α → Act σ τ β} {value : α} {result : β}
    {kind : List Entry → Prop} (settles : first.Settles value)
    (ends : (next value).Ends result kind) : (first >>= next).Ends result kind := by
  intro rig outcome run
  obtain ⟨inner, outer, hfirst, hnext, rfl⟩ := run_bind_eq_ok_iff.1 run
  obtain ⟨hvalue, -, hcalls⟩ := settles _ _ hfirst
  rw [hvalue] at hnext
  obtain ⟨hresult, hmore⟩ := ends _ _ hnext
  refine ⟨hresult, ?_⟩
  rwa [Journal.exchanges_append, hcalls, List.nil_append]

/-- A call goes before, whatever its answer is. -/
theorem ends_of_ask [NativeCore σ] {request : Request}
    {next : Except Error request.Answer → Act σ τ β} {result : β} {kind : List Entry → Prop}
    (ends : ∀ answer, (next answer).Ends result fun calls =>
      kind (.native request answer :: calls)) :
    (ask request >>= next).Ends result kind := by
  intro rig outcome run
  obtain ⟨inner, outer, hask, hnext, rfl⟩ := run_bind_eq_ok_iff.1 run
  obtain ⟨hresult, hkind⟩ := ends inner.value _ _ hnext
  refine ⟨hresult, ?_⟩
  obtain ⟨machine, -, -, hjournal⟩ := run_ask_eq_ok_iff.1 hask
  rwa [hjournal, Journal.exchanges_append, Journal.exchanges_native]

variable [NativeCore σ] [Surface τ]

/-- From a milestone on the act makes the steps of a load.  Its value tells what has become of
them: the milestone that they have reached, or the error of a step that failed, after which
there are calls that belong to what has been acquired. -/
def Follows (act : Act σ τ α) (image : Bytes) (scale : UInt32) (milestone : Milestone)
    (verdict : α → Except Error Milestone) (belongs : Holdings → List Entry → Prop) : Prop :=
  ∀ rig outcome, act.run rig = .ok outcome →
    match verdict outcome.value with
    | .ok last => Progress image scale milestone rig outcome.journal.exchanges last outcome.rig
    | .error cause => BrokenOff image scale milestone rig cause belongs outcome.journal.exchanges

variable {image : Bytes} {scale : UInt32} {milestone middle : Milestone}
  {verdict : α → Except Error Milestone} {result : β → Except Error Milestone}
  {belongs other : Holdings → List Entry → Prop}

/-- Nothing is left to do. -/
theorem Settles.follows {act : Act σ τ α} {value : α} (settles : act.Settles value)
    (reached : verdict value = .ok milestone) :
    act.Follows image scale milestone verdict belongs := by
  intro rig outcome run
  obtain ⟨hvalue, hrig, hcalls⟩ := settles _ _ run
  rw [hvalue, reached, hrig, hcalls]
  exact .refl milestone rig

/-- The next step is made by an act of its own. -/
theorem follows_step {first : Act σ τ α} {next : α → Act σ τ β}
    {answer : α → Except Error Milestone}
    (step : milestone.advance image scale = (do return answer (← first)))
    (succeeds : ∀ value reached, answer value = .ok reached →
      (next value).Follows image scale reached result belongs)
    (fails : ∀ value cause, answer value = .error cause →
      ∃ final, result final = .error cause ∧
        (next value).Ends final (belongs milestone.holdings)) :
    (first >>= next).Follows image scale milestone result belongs := by
  intro rig outcome run
  obtain ⟨inner, outer, hfirst, hnext, rfl⟩ := run_bind_eq_ok_iff.1 run
  have hstep : (milestone.advance image scale).run rig =
      .ok ⟨answer inner.value, inner.rig, inner.journal⟩ := by
    rw [step]
    exact run_map_eq_ok_iff.2 ⟨inner, hfirst, rfl⟩
  dsimp only
  rw [Journal.exchanges_append]
  cases hanswer : answer inner.value with
  | ok reached =>
    -- The step goes before whatever comes of the rest.
    have follows := succeeds inner.value reached hanswer _ _ hnext
    have once : Progress image scale milestone rig
        (inner.journal.exchanges ++ []) reached inner.rig :=
      .step hstep hanswer (.refl reached inner.rig)
    rw [List.append_nil] at once
    split at follows
    · exact once.trans follows
    · exact follows.prepend once
  | error cause =>
    -- The load breaks off here, and the rest only cleans up.
    obtain ⟨final, hfinal, ends⟩ := fails inner.value cause hanswer
    obtain ⟨hvalue, hkind⟩ := ends _ _ hnext
    rw [hvalue, hfinal]
    exact ⟨milestone, rig, _, [], _, .refl milestone rig, hstep, hanswer, hkind, rfl⟩

/-- The next step is made by a call of its own, and a failure of it is passed on. -/
theorem follows_step_of_map {first : Act σ τ (Except Error α)}
    {next : Except Error α → Act σ τ (Except Error β)} {reach : α → Milestone}
    {finish : β → Milestone}
    (step : milestone.advance image scale = (do return (← first).map reach))
    (succeeds : ∀ value,
      (next (.ok value)).Follows image scale (reach value) (·.map finish) belongs)
    (fails : ∀ cause, (next (.error cause)).Ends (.error cause) (belongs milestone.holdings)) :
    (first >>= next).Follows image scale milestone (·.map finish) belongs := by
  apply follows_step step
  -- A call that has failed leads to no milestone, and one that has succeeded gives no error.
  · intro answer reached hanswer
    cases answer with
    | error cause => cases hanswer
    | ok value =>
      cases hanswer
      exact succeeds value
  · intro answer cause hanswer
    cases answer with
    | ok value => cases hanswer
    | error first_cause =>
      cases hanswer
      exact ⟨.error cause, rfl, fails cause⟩

/-- The next step is the whole act. -/
theorem follows_of_step {act : Act σ τ α}
    (step : milestone.advance image scale = (do return verdict (← act)))
    (silent : belongs milestone.holdings []) :
    act.Follows image scale milestone verdict belongs := by
  rw [← bind_pure act]
  refine follows_step step ?_ ?_
  · intro value reached hvalue
    exact (settles_pure value).follows hvalue
  · intro value cause hvalue
    exact ⟨value, hvalue, (settles_pure value).ends silent⟩

/-- Something quiet goes before. -/
theorem Settles.bind_follows {first : Act σ τ α} {next : α → Act σ τ β} {value : α}
    (settles : first.Settles value)
    (follows : (next value).Follows image scale milestone result belongs) :
    (first >>= next).Follows image scale milestone result belongs := by
  -- What is quiet adds nothing to the calls and leaves the rig as it is.
  intro rig outcome run
  obtain ⟨inner, outer, hfirst, hnext, rfl⟩ := run_bind_eq_ok_iff.1 run
  obtain ⟨hvalue, hrig, hcalls⟩ := settles _ _ hfirst
  rw [hvalue, hrig] at hnext
  have after := follows _ _ hnext
  dsimp only
  rwa [Journal.exchanges_append, hcalls, List.nil_append]

/-- The next step succeeds without an act of its own. -/
theorem Follows.of_pass {act : Act σ τ α}
    (step : (milestone.advance image scale : Act σ τ _) = pure (.ok middle))
    (follows : act.Follows image scale middle verdict belongs) :
    act.Follows image scale milestone verdict belongs := by
  intro rig outcome run
  have passes : (milestone.advance image scale).run rig = .ok ⟨.ok middle, rig, []⟩ := by
    rw [step]
    rfl
  -- A step without an act is a row of its own, with no calls.
  have once : Progress image scale milestone rig [] middle rig :=
    .step passes rfl (.refl middle rig)
  have rest := follows _ _ run
  split at rest
  · exact once.trans rest
  · exact rest.prepend once

/-- The next step fails without an act of its own. -/
theorem follows_of_refusal {act : Act σ τ α} {cause : Error} {value : α}
    (step : (milestone.advance image scale : Act σ τ _) = pure (.error cause))
    (refused : verdict value = .error cause)
    (ends : act.Ends value (belongs milestone.holdings)) :
    act.Follows image scale milestone verdict belongs := by
  intro rig outcome run
  have refuses : (milestone.advance image scale).run rig = .ok ⟨.error cause, rig, []⟩ := by
    rw [step]
    rfl
  obtain ⟨hvalue, hkind⟩ := ends _ _ run
  rw [hvalue, refused]
  exact ⟨milestone, rig, _, [], _, .refl milestone rig, refuses, rfl, hkind, rfl⟩

/-- One part of a load comes after another; if the first breaks off, then what comes after it
may only add calls that belong to what has been acquired. -/
theorem Follows.bind {first : Act σ τ α} {next : α → Act σ τ β}
    (follows : first.Follows image scale milestone verdict belongs)
    (succeeds : ∀ value reached, verdict value = .ok reached →
      (next value).Follows image scale reached result other)
    (fails : ∀ value cause, verdict value = .error cause →
      ∃ final, result final = .error cause ∧ ∀ holdings calls, belongs holdings calls →
        (next value).Ends final fun more => other holdings (calls ++ more)) :
    (first >>= next).Follows image scale milestone result other := by
  intro rig outcome run
  obtain ⟨inner, outer, hfirst, hnext, rfl⟩ := run_bind_eq_ok_iff.1 run
  have before := follows _ _ hfirst
  dsimp only
  rw [Journal.exchanges_append]
  -- Either the first part has come somewhere, and the second goes on from there.
  split at before
  · next reached hverdict =>
    have after := succeeds inner.value reached hverdict _ _ hnext
    split at after
    · exact before.trans after
    · exact after.prepend before
  · next cause hverdict =>
    -- The first part has broken off; what the second adds joins the calls behind the failure.
    obtain ⟨final, hfinal, ends⟩ := fails inner.value cause hverdict
    obtain ⟨last, broken, failed, made, calls, progress, hrun, hfails, fits, hcalls⟩ := before
    obtain ⟨hvalue, hkind⟩ := ends _ _ fits _ _ hnext
    rw [hvalue, hfinal, hcalls]
    exact ⟨last, broken, failed, made, _, progress, hrun, hfails, hkind, by
      rw [List.append_assoc _ calls]⟩

/-- A failure of the first part is passed on by the second. -/
theorem Follows.bind_of_map {first : Act σ τ (Except Error α)}
    {next : Except Error α → Act σ τ (Except Error β)} {reach : α → Milestone}
    {finish : β → Milestone}
    (follows : first.Follows image scale milestone (·.map reach) belongs)
    (succeeds : ∀ value, (next (.ok value)).Follows image scale (reach value) (·.map finish) other)
    (fails : ∀ cause holdings calls, belongs holdings calls →
      (next (.error cause)).Ends (.error cause) fun more => other holdings (calls ++ more)) :
    (first >>= next).Follows image scale milestone (·.map finish) other := by
  apply follows.bind
  -- The milestone of an answer tells whether the part has succeeded.
  · intro answer reached hanswer
    cases answer with
    | error cause => cases hanswer
    | ok value =>
      cases hanswer
      exact succeeds value
  · intro answer cause hanswer
    cases answer with
    | ok value => cases hanswer
    | error first_cause =>
      cases hanswer
      exact ⟨.error cause, rfl, fails cause⟩

end Act

/-! ## §2 The parts of a load

In the order of the program, from the teardown of an old rom to the launch of the new one. -/

namespace Lifecycle

variable {σ τ : Type} [NativeCore σ] [Surface τ] (image : Bytes) (scale : UInt32)

/-- Nothing has been called, while so much is held. -/
def Untouched (held : Holdings) (holdings : Holdings) (calls : List Entry) : Prop :=
  holdings = held ∧ calls = []

theorem tearDown_follows (old : LoadedRom) :
    (tearDown old.handle old.rom : Act σ τ _).Follows image scale (.occupied old)
      (·.map fun () => .vacant) Holdings.CleanedUp := by
  refine Act.follows_step_of_map rfl (fun _ => ?_) fun cause => ?_
  · exact (Act.settles_note _).bind_follows (Act.follows_of_step rfl rfl)
  · -- The buffer is leaked, so no call follows.
    exact (Act.settles_note_pure _ _).ends rfl

theorem unload_follows (lifecycle : Lifecycle) :
    (lifecycle.unload : Act σ τ _).Follows image scale (.start lifecycle)
      (fun answer => answer.1.map fun () => .vacant) Holdings.CleanedUp := by
  cases lifecycle with
  -- Without a rom a load starts where an unload ends.
  | empty => exact (Act.settles_pure _).follows rfl
  | loaded old =>
    refine (Act.settles_note _).bind_follows ?_
    apply (tearDown_follows image scale old).bind
    · intro answer reached hanswer
      cases answer with
      | error cause => cases hanswer
      | ok =>
        cases hanswer
        exact (Act.settles_pure _).follows rfl
    -- An old rom that cannot be taken away ends the load, and the unload has cleaned up by itself.
    · intro answer cause hanswer
      cases answer with
      | ok => cases hanswer
      | error first_cause =>
        cases hanswer
        refine ⟨(.error cause, .empty), rfl, fun holdings calls cleaned => ?_⟩
        exact (Act.settles_pure _).ends (by rwa [List.append_nil])

omit [Surface τ] in
/-- Giving back what belongs to an instance, whatever the core answers. -/
theorem tearDown_ends {β : Type} (handle : Handle) (rom : Region) {result : β}
    {next : Except Error Unit → Act σ τ β} (settles : ∀ answer, (next answer).Settles result) :
    (tearDown handle rom >>= next).Ends result (Holdings.CleanedUp (.instance rom handle)) := by
  unfold tearDown
  rw [bind_assoc]
  -- The block is given back only after the instance is destroyed.
  refine Act.ends_of_ask fun answer => ?_
  rcases answer with cause | _
  · rw [bind_assoc]
    exact (Act.settles_note _).bind_ends <| (Act.settles_pure _).bind_ends <|
      (settles _).ends (.inl ⟨cause, rfl⟩)
  · unfold Region.release
    rw [bind_assoc]
    refine (Act.settles_note _).bind_ends (Act.ends_of_ask fun answer => ?_)
    exact (settles _).ends (.inr ⟨answer, rfl⟩)

omit [Surface τ] in
theorem discard_ends {β : Type} (rom : Region) {result : β} {next : Unit → Act σ τ β}
    (settles : (next ()).Settles result) :
    (discard rom >>= next).Ends result (Holdings.CleanedUp (.block rom)) := by
  unfold discard Region.release
  simp only [bind_assoc]
  refine (Act.settles_note _).bind_ends (Act.ends_of_ask fun answer => ?_)
  exact (Act.settles_noteError _ _).bind_ends (settles.ends ⟨answer, rfl⟩)

theorem askScreen_follows (rom : Region) (handle : Handle) :
    (askScreen handle : Act σ τ _).Follows image scale (.created rom handle)
      (·.map fun screen => .sized rom handle screen) (Untouched (.instance rom handle)) := by
  -- The two questions are two steps; a failure of either leaves everything as it is.
  refine Act.follows_step_of_map rfl (fun width => ?_) fun cause => ?_
  · refine Act.follows_step_of_map rfl (fun height => ?_) fun cause => ?_
    · exact (Act.settles_pure _).follows rfl
    · exact (Act.settles_pure _).ends ⟨rfl, rfl⟩
  · exact (Act.settles_pure _).ends ⟨rfl, rfl⟩

omit [NativeCore σ] in
/-- The check of the screen comes before the request to the surface. -/
theorem fitSurface_eq (screen : Screen) (scale : UInt32) :
    (fitSurface screen scale : Act σ τ _) = (do
      match screen.checked scale (← Act.memory) with
      | .error cause => return .error cause
      | .ok size => return (← Act.present (.resize size.1 size.2)).map fun () => screen) := by
  unfold fitSurface
  congr 1
  funext memory
  unfold Screen.checked
  split
  · rfl
  · cases screen.surfaceSize? scale <;> rfl

theorem fitSurface_follows (rom : Region) (handle : Handle) (screen : Screen) :
    (fitSurface screen scale : Act σ τ _).Follows image scale (.sized rom handle screen)
      (·.map fun screen => .finished ⟨handle, rom, screen⟩)
      (Untouched (.instance rom handle)) := by
  rw [fitSurface_eq]
  -- The step reads native memory and decides by what it finds there.
  let answer (memory : Bytes) : Except Error Milestone :=
    (screen.checked scale memory).map (.fitting rom handle screen)
  have step : (Milestone.advance image scale (.sized rom handle screen) : Act σ τ _) =
    (do return answer (← Act.memory)) := rfl
  apply Act.follows_step step
  · intro memory reached hanswer
    simp only [answer] at hanswer
    cases hchecked : screen.checked scale memory with
    | error => simp [hchecked, Except.map] at hanswer
    -- The screen can be shown, so what is left is to size the surface.
    | ok size =>
      simp only [hchecked, Except.map, Except.ok.injEq] at hanswer
      subst hanswer
      refine Act.follows_step_of_map rfl (fun _ => ?_) fun cause => ?_
      · exact (Act.settles_pure _).follows rfl
      · exact (Act.settles_pure _).ends ⟨rfl, rfl⟩
  · intro memory cause hanswer
    simp only [answer] at hanswer
    cases hchecked : screen.checked scale memory with
    | ok => simp [hchecked, Except.map] at hanswer
    -- The screen is refused before the surface hears of it.
    | error =>
      simp only [hchecked, Except.map, Except.error.injEq] at hanswer
      subst hanswer
      exact ⟨.error _, rfl, (Act.settles_pure _).ends ⟨rfl, rfl⟩⟩

theorem configure_follows (rom : Region) (handle : Handle) :
    (configure handle scale : Act σ τ _).Follows image scale (.created rom handle)
      (·.map fun screen => .finished ⟨handle, rom, screen⟩)
      (Untouched (.instance rom handle)) := by
  apply (askScreen_follows image scale rom handle).bind_of_map
  · intro screen
    exact fitSurface_follows image scale rom handle screen
  · intro cause holdings calls untouched
    -- Until now nothing has been given back, and it is not done here either.
    obtain ⟨rfl, rfl⟩ := untouched
    exact (Act.settles_pure _).ends ⟨rfl, rfl⟩

theorem settle_follows (rom : Region) (handle : Handle) (bytes : Nat) :
    (settle handle rom scale bytes : Act σ τ _).Follows image scale (.created rom handle)
      (·.map .finished) Holdings.CleanedUp := by
  apply (configure_follows image scale rom handle).bind_of_map
  · intro screen
    exact (Act.settles_note_pure _ _).follows rfl
  · -- Until now nothing has been given back, so all of it is given back here.
    intro cause holdings calls untouched
    obtain ⟨rfl, rfl⟩ := untouched
    exact tearDown_ends handle rom fun _ =>
      (Act.settles_noteError _ _).bind (Act.settles_pure _)

theorem boot_follows (rom : Region) :
    (boot rom scale image.size : Act σ τ _).Follows image scale (.filled rom)
      (·.map .finished) Holdings.CleanedUp := by
  apply Act.follows_step rfl
  · intro answer reached hanswer
    -- Of the three answers only a handle leads on.
    rcases answer with cause | _ | handle
    · cases hanswer
    · cases hanswer
    · cases hanswer
      exact settle_follows image scale rom handle image.size
  · -- The core may fail, or it may refuse the rom.
    intro answer cause hanswer
    rcases answer with first_cause | _ | handle
    · cases hanswer
      exact ⟨.error cause, rfl, discard_ends rom (Act.settles_pure _)⟩
    · cases hanswer
      exact ⟨.error (.createFailed image.size), rfl, discard_ends rom (Act.settles_pure _)⟩
    · cases hanswer

theorem fill_follows (rom : Region) :
    (rom.fill image : Act σ τ _).Follows image scale (.given rom)
      (·.map .filled) Holdings.CleanedUp := by
  refine Act.follows_step_of_map rfl (fun _ => ?_) fun cause => ?_
  · exact (Act.settles_note_pure _ _).follows rfl
  -- A block outside of memory is given back at once.
  · refine Act.ends_of_ask fun answer => ?_
    exact (Act.settles_noteError _ _).bind_ends ((Act.settles_pure _).ends ⟨answer, rfl⟩)

theorem allocate_follows :
    (Region.allocate image : Act σ τ _).Follows image scale .admitted
      (·.map .filled) Holdings.CleanedUp := by
  unfold Region.allocate
  split
  -- A length that is a word costs a step without an act.
  · next short =>
    refine .of_pass (by rw [Milestone.advance, if_pos short]) ?_
    apply Act.follows_step rfl
    · intro answer reached hanswer
      cases answer with
      | error cause => cases hanswer
      | ok addr =>
        cases hregion : Region.ofAddress? addr (UInt32.ofNat image.size) with
        | none => simp [Except.bind, hregion] at hanswer
        | some rom =>
          simp only [Except.bind, hregion, Except.ok.injEq] at hanswer
          -- The block that the step has given is the one that the image is copied to.
          subst hanswer
          simp only [hregion]
          exact fill_follows image scale rom
    · intro answer cause hanswer
      cases answer with
      | error first_cause =>
        cases hanswer
        exact ⟨.error cause, rfl, (Act.settles_pure _).ends rfl⟩
      | ok addr =>
        cases hregion : Region.ofAddress? addr (UInt32.ofNat image.size) with
        | some rom => simp [Except.bind, hregion] at hanswer
        | none =>
          simp only [Except.bind, hregion, Except.error.injEq] at hanswer
          subst hanswer
          simp only [hregion]
          exact ⟨.error _, rfl, (Act.settles_pure _).ends rfl⟩
  · next long =>
    exact Act.follows_of_refusal (by rw [Milestone.advance, if_neg long]) rfl
      ((Act.settles_pure _).ends rfl)

theorem launch_follows :
    (launch image scale : Act σ τ _).Follows image scale .vacant
      (·.map .finished) Holdings.CleanedUp := by
  unfold launch
  split
  · next empty =>
    exact Act.follows_of_refusal (by rw [Milestone.advance, if_pos empty]) rfl
      ((Act.settles_pure _).ends rfl)
  · next full =>
    refine .of_pass (by rw [Milestone.advance, if_neg full]) ?_
    apply (allocate_follows image scale).bind_of_map
    · intro rom
      exact boot_follows image scale rom
    · -- The allocation has given its block back by itself.
      intro cause holdings calls cleaned
      exact (Act.settles_pure _).ends (by rwa [List.append_nil])

/-! ## §3 The whole load

The milestone of a lifecycle closes the circle: a load that succeeds has come to its last milestone,
and one that fails is broken off on its way there. -/

/-- The milestone that a lifecycle stands for at the end of a load. -/
def milestone : Lifecycle → Milestone
  | .empty => .vacant
  | .loaded current => .finished current

theorem load_follows (lifecycle : Lifecycle) :
    (lifecycle.load image scale : Act σ τ _).Follows image scale (.start lifecycle)
      (fun answer => answer.1.map fun _ => answer.2.milestone) Holdings.CleanedUp := by
  apply (unload_follows image scale lifecycle).bind
  · intro unloaded reached hunloaded
    rcases unloaded with ⟨_ | _, rest⟩
    · cases hunloaded
    cases hunloaded
    -- The old rom is gone, and the new one is started from nothing.
    apply (launch_follows image scale).bind
    · intro launched reached hlaunched
      cases launched with
      | error cause => cases hlaunched
      | ok current =>
        cases hlaunched
        exact (Act.settles_pure _).follows rfl
    · intro launched cause hlaunched
      cases launched with
      | ok current => cases hlaunched
      | error first_cause =>
        cases hlaunched
        refine ⟨(.error cause, .empty), rfl, fun holdings calls cleaned => ?_⟩
        exact (Act.settles_pure _).ends (by rwa [List.append_nil])
  -- An unload that fails is the end, and nothing is started.
  · intro unloaded cause hunloaded
    rcases unloaded with ⟨first_cause | _, rest⟩
    · cases hunloaded
      refine ⟨(.error cause, .empty), rfl, fun holdings calls cleaned => ?_⟩
      exact (Act.settles_pure _).ends (by rwa [List.append_nil])
    · cases hunloaded

variable {image scale}
variable {lifecycle : Lifecycle} {rig : Rig σ τ}
  {outcome : Outcome σ τ (Except Error Screen × Lifecycle)}

/-- A load leaves either nothing behind or the rom whose screen it answers with. -/
theorem load_value (completes : (lifecycle.load image scale).run rig = .ok outcome) :
    (∃ cause, outcome.value = (.error cause, .empty)) ∨
      ∃ current, outcome.value = (.ok current.screen, .loaded current) := by
  obtain ⟨unloaded, last, -, hlast, rfl⟩ := Act.run_bind_eq_ok_iff.1 completes
  -- The three ways out: the unload fails, the launch fails, or neither does.
  split at hlast
  · next cause _ _ =>
    obtain rfl := Except.ok.inj hlast
    exact .inl ⟨cause, rfl⟩
  · obtain ⟨⟨launched, _, _⟩, final, -, hfinal, rfl⟩ := Act.run_bind_eq_ok_iff.1 hlast
    rcases launched with cause | current
    · obtain rfl := Except.ok.inj hfinal
      exact .inl ⟨cause, rfl⟩
    · obtain rfl := Except.ok.inj hfinal
      exact .inr ⟨current, rfl⟩

/-- A load that succeeds has made every step, and nothing else. -/
theorem load_success {screen : Screen} {rest : Lifecycle}
    (completes : (lifecycle.load image scale).run rig = .ok outcome)
    (succeeds : outcome.value = (.ok screen, rest)) :
    ∃ current, current.screen = screen ∧ rest = .loaded current ∧
      Progress image scale (.start lifecycle) rig outcome.journal.exchanges (.finished current)
        outcome.rig := by
  have follows := load_follows image scale lifecycle _ _ completes
  rcases load_value completes with ⟨cause, hvalue⟩ | ⟨current, hvalue⟩
  · rw [hvalue] at succeeds
    cases succeeds
  · rw [hvalue] at succeeds follows
    cases succeeds
    exact ⟨current, rfl, rfl, follows⟩

/-- A load that fails leaves nothing behind and is broken off. -/
theorem brokenOff_of_load {cause : Error} {rest : Lifecycle}
    (completes : (lifecycle.load image scale).run rig = .ok outcome)
    (fails : outcome.value = (.error cause, rest)) :
    rest = .empty ∧ BrokenOff image scale (.start lifecycle) rig cause Holdings.CleanedUp
      outcome.journal.exchanges := by
  have follows := load_follows image scale lifecycle _ _ completes
  rcases load_value completes with ⟨first, hvalue⟩ | ⟨current, hvalue⟩
  · rw [hvalue] at fails follows
    cases fails
    exact ⟨rfl, follows⟩
  · rw [hvalue] at fails
    cases fails

/-- A load that fails has failed at a step for which there is a reason in numbers. -/
theorem reason_of_load {cause : Error} {rest : Lifecycle}
    (completes : (lifecycle.load image scale).run rig = .ok outcome)
    (fails : outcome.value = (.error cause, rest)) :
    ∃ last reached made, Progress image scale (.start lifecycle) rig made last reached ∧
      last.Fails image scale reached cause := by
  obtain ⟨-, last, reached, failed, made, -, progress, run, broken, -⟩ :=
    brokenOff_of_load completes fails
  exact ⟨last, reached, made, progress, Milestone.fails_of_advance run broken⟩

/-- A load that fails leaves nothing behind.  It has made its steps in their order up to the
first that failed, its answer is the error of that step, and the only calls after it are those
that give back what the load had acquired, whatever these are answered with. -/
theorem load_failure {cause : Error} {rest : Lifecycle}
    (completes : (lifecycle.load image scale).run rig = .ok outcome)
    (fails : outcome.value = (.error cause, rest)) :
    rest = .empty ∧
      ∃ (last : Milestone) (reached : Rig σ τ) (failed : Outcome σ τ (Except Error Milestone))
        (made cleanup : List Entry),
        Progress image scale (.start lifecycle) rig made last reached ∧
        (last.advance image scale).run reached = .ok failed ∧ failed.value = .error cause ∧
        last.holdings.CleanedUp cleanup ∧
        outcome.journal.exchanges = made ++ failed.journal.exchanges ++ cleanup := by
  obtain ⟨empty, last, reached, failed, made, cleanup, progress, run, broken, gives_back, calls⟩ :=
    brokenOff_of_load completes fails
  exact ⟨empty, last, reached, failed, made, cleanup, progress, run, broken, gives_back, calls⟩

/-- The canvas takes no size, and the bench core cannot destroy its instance. -/
def stubbornRig : Rig Bench Canvas where
  machine := Bench.machine { heapSize := 64, screen := ⟨1, 1⟩, mischief := { failDestroy := true } }
  display := (Canvas.new .rgba).withLimit 0 0

theorem load_failure_of_refused_resize :
    ∃ outcome, (Lifecycle.empty.load #[7] 1).run stubbornRig = .ok outcome ∧
      outcome.value = (.error (.surface (.sizeNotSupported 1 1)), .empty) ∧
      ∃ (last : Milestone) (reached : Rig Bench Canvas)
        (failed : Outcome Bench Canvas (Except Error Milestone)) (made cleanup : List Entry),
        Progress #[7] 1 (.start .empty) stubbornRig made last reached ∧
        (last.advance #[7] 1).run reached = .ok failed ∧
        failed.value = .error (.surface (.sizeNotSupported 1 1)) ∧
        last.holdings.CleanedUp cleanup ∧
        outcome.journal.exchanges = made ++ failed.journal.exchanges ++ cleanup := by
  -- That the load fails, and with which error, is evaluated; how it comes to that is the theorem.
  have fails : ((Lifecycle.empty.load #[7] 1).run stubbornRig).toOption.any fun outcome =>
      outcome.value = (.error (.surface (.sizeNotSupported 1 1)), .empty) := by
    decide +kernel
  cases hrun : (Lifecycle.empty.load #[7] 1).run stubbornRig with
  | error cut => simp [hrun, Except.toOption] at fails
  | ok outcome =>
    simp only [hrun, Except.toOption, Option.any_some, decide_eq_true_eq] at fails
    exact ⟨outcome, rfl, fails, (load_failure hrun fails).2⟩

end Lifecycle

/-! ## §4 Loads by the controller -/

/-- A controller whose load fails is left without a rom; after one that succeeds the pipeline has
been reset for the screen of the new rom. -/
theorem Emulator.of_loadRom {σ τ : Type} [NativeCore σ] [Surface τ] {emulator : Emulator}
    {image : Bytes} {rig : Rig σ τ} {outcome : Outcome σ τ (Except Error Screen × Emulator)}
    (run : (emulator.loadRom image).run rig = .ok outcome) :
    ∃ loading, (emulator.lifecycle.load image emulator.pipeline.scale).run rig = .ok loading ∧
      outcome.rig = loading.rig ∧
      ((∃ cause, loading.value = (.error cause, .empty) ∧
          outcome.value = (.error cause, { emulator with lifecycle := .empty })) ∨
        ∃ current fresh, loading.value = (.ok current.screen, .loaded current) ∧
          emulator.pipeline.reset current.screen.width current.screen.height = .ok fresh ∧
          outcome.value = (.ok current.screen,
            { emulator with lifecycle := .loaded current, pipeline := fresh })) := by
  obtain ⟨loading, last, hload, hlast, rfl⟩ := Act.run_bind_eq_ok_iff.1 run
  refine ⟨loading, hload, ?_⟩
  rcases Lifecycle.load_value hload with ⟨cause, hvalue⟩ | ⟨current, hvalue⟩
  · rw [hvalue] at hlast
    obtain rfl := Except.ok.inj hlast
    exact ⟨rfl, .inl ⟨cause, hvalue, rfl⟩⟩
  · rw [hvalue] at hlast
    obtain ⟨resetting, final, hreset, hfinal, rfl⟩ := Act.run_bind_eq_ok_iff.1 hlast
    obtain ⟨fresh, hfresh, rfl⟩ := Act.run_ofFaulty_eq_ok_iff.1 hreset
    obtain rfl := Except.ok.inj hfinal
    exact ⟨rfl, .inr ⟨current, fresh, hvalue, hfresh, rfl⟩⟩

end Handheld
