import Handheld.Proofs.Core.Memory
import Handheld.Proofs.Session.Continuation
import Handheld.Proofs.Session.Moves
import Handheld.Proofs.Session.Sizing

/-!
# Which Screens Are Shown

A load whose new instance has told its screen asks the surface for the enlarged size, once, if the
screen is `Screen.Showable`, and otherwise it fails without any request.  This is
`Lifecycle.load_of_screen`.  It follows a load from the point where the screen is known: the part
of the program that is left there, `Lifecycle.finish`, is executed for each answer of the check and
of the surface.
-/

namespace Handheld

/-! ## §1 Loads that give up

When a load gives up, it destroys the instance and gives the buffer back.  What the core answers
does not matter, and the surface is not asked. -/

namespace Lifecycle

open Act

variable {σ τ : Type} [NativeCore σ] [Surface τ] {rom : Region} {handle : Handle}
  {screen : Screen} {scale : UInt32} {bytes : Nat} {cause : Error} {rig reached : Rig σ τ}
  {made : List Entry} {load : Act σ τ (Except Error Screen × Lifecycle)}

/-- After the given exchanges the load gives back the instance and the buffer and fails with the
given cause, whatever the core answers to that.  Only a fault of the core can prevent it. -/
structure GivesUp (load : Act σ τ (Except Error Screen × Lifecycle)) (rig : Rig σ τ)
    (made : List Entry) (rom : Region) (handle : Handle) (cause : Error) (reached : Rig σ τ) :
    Prop where
  returns : ∀ ⦃answer after calls⦄, (tearDown handle rom).Gives reached answer after calls →
    load.Gives rig (.error cause, .empty) after (made ++ calls)
  faults : ∀ ⦃fault⦄, (tearDown handle rom).Faults reached fault → load.Faults rig fault

omit [Surface τ] in
theorem givesUp_of_comesTo (comes : load.ComesTo rig made (abandon rom handle cause) reached) :
    GivesUp load rig made rom handle cause reached := by
  constructor
  · intro answer after calls gives
    have quiet := gives_noteError answer (.abandonFailed handle) after
    exact comes.gives (gives.then_quietly (quiet.quietly (gives_pure _ _)))
  · intro fault faults
    exact comes.faults faults.bind

theorem abandon_moves {shows : SurfaceRequest → Prop} (rom : Region) (handle : Handle)
    (cause : Error) : (abandon rom handle cause : Act σ τ _).MovesBy Request.IsUpkeep shows :=
  (tearDown_moves (fun _ => Request.Minds.isUpkeep) handle).bind fun _ =>
    (movesBy_noteError _ _).bind fun _ => movesBy_pure _

/-- A load that comes to its giving up has asked the surface for nothing more. -/
theorem surfaceRequests_of_abandon
    (comes : load.ComesTo rig made (abandon rom handle cause) reached) :
    (load.journal rig).surfaceRequests = Journal.surfaceRequests made := by
  rw [← Journal.surfaceRequests_exchanges, comes.exchanges, Journal.surfaceRequests_append,
    Journal.surfaceRequests_exchanges, (abandon_moves rom handle cause).surfaceRequests_eq_nil,
    List.append_nil]

/-! ## §2 The last two steps

All that is left of a load is a check and a request, so its ends are known as soon as the memory and
the answer of the surface are. -/

/-- A screen that is refused ends the load. -/
theorem finish_of_refusal
    (refused : screen.checked scale rig.machine.memory = .error cause) :
    (finish rom handle screen scale bytes).ComesTo rig [] (abandon rom handle cause) rig := by
  unfold finish
  refine (gives_memory rig).bind_comesTo ?_
  rw [refused]
  exact comesTo_self _ _

omit [NativeCore σ] in
theorem gives_resize {width height : UInt32} {answer : Except HostError Unit} {display : τ}
    (resizes : Surface.resize width height rig.display = .ok (answer, display)) :
    (present (.resize width height)).Gives rig (answer.mapError .surface) { rig with display }
      [.surface (.resize width height) answer] := gives_present resizes

section Resize

variable {width height : UInt32} {display : τ}
  (found : screen.checked scale rig.machine.memory = .ok (width, height))
include found

/-- A screen that passes the check is followed by the request. -/
theorem finish_of_checked :
    (finish rom handle screen scale bytes).ComesTo rig [] (do
      match ← present (.resize width height) with
      | .error cause => abandon rom handle cause
      | .ok () =>
        note (.loaded bytes handle screen.width screen.height)
        return (.ok screen, .loaded ⟨handle, rom, screen⟩)) rig := by
  unfold finish
  refine (gives_memory rig).bind_comesTo ?_
  rw [found]
  exact comesTo_self _ _

theorem finish_of_resize
    (resizes : Surface.resize width height rig.display = .ok (.ok (), display)) :
    (finish rom handle screen scale bytes).Gives rig (.ok screen, .loaded ⟨handle, rom, screen⟩)
      { rig with display } [.surface (.resize width height) (.ok ())] := by
  refine (finish_of_checked found).gives ((gives_resize resizes).then_quietly ?_)
  exact (gives_note _ _).quietly (gives_pure _ _)

/-- A size that the surface refuses ends the load, too. -/
theorem finish_of_refused_resize {reason : HostError}
    (resizes : Surface.resize width height rig.display = .ok (.error reason, display)) :
    (finish rom handle screen scale bytes).ComesTo rig
      [.surface (.resize width height) (.error reason)] (abandon rom handle (.surface reason))
      { rig with display } :=
  (finish_of_checked found).trans ((gives_resize resizes).bind_comesTo (comesTo_self _ _))

theorem finish_of_fault {fault : Fault}
    (resizes : Surface.resize width height rig.display = .error fault) :
    (finish rom handle screen scale bytes).Faults rig fault := by
  have cut : (present (.resize width height) : Act σ τ _).Faults rig fault :=
    faults_present resizes
  exact (finish_of_checked found).faults cut.bind

end Resize

/-! ## §3 Whole loads

A load is at its ninth milestone when it knows the screen.  What it does from there is `finish`, and
the two cases of the check decide it. -/

variable {image : Bytes} {lifecycle : Lifecycle}

/-- The last two steps of a load leave the machine alone. -/
theorem of_progress_sized {current : LoadedRom} {final : Rig σ τ}
    (progress : Progress image scale (.sized rom handle screen) rig made (.finished current)
      final) :
    current = ⟨handle, rom, screen⟩ ∧ final.machine = rig.machine ∧
      ∃ size, screen.checked scale rig.machine.memory = .ok size := by
  -- The first step checks the screen, and it reads nothing but the memory.
  obtain _ | ⟨run, succeeds, rest⟩ := progress
  obtain ⟨inner, reads, rfl⟩ := run_map_eq_ok_iff.1 run
  obtain rfl := Except.ok.inj reads
  cases checked : screen.checked scale rig.machine.memory with
  | error cause => simp [checked, Except.map] at succeeds
  | ok size =>
    simp only [checked, Except.map, Except.ok.injEq] at succeeds
    subst succeeds
    obtain _ | ⟨run, succeeds, rest⟩ := rest
    obtain ⟨inner, presents, rfl⟩ := run_map_eq_ok_iff.1 run
    obtain ⟨answer, display, -, hvalue, hrig, -⟩ := run_present_eq_ok_iff.1 presents
    cases answer with
    | error reason => simp [hvalue, Except.mapError, Except.map] at succeeds
    | ok =>
      simp only [hvalue, Except.mapError, Except.map, Except.ok.injEq] at succeeds
      subst succeeds
      obtain ⟨finished, rfl⟩ := rest.last_of_finished
      have same : inner.rig.machine = rig.machine := by rw [hrig]
      exact ⟨Milestone.finished.inj finished, same, size, rfl⟩

/-- A load that succeeds has got to know its screen, which has passed the check. -/
theorem screen_of_load {rest : Lifecycle} {outcome : Outcome σ τ (Except Error Screen × Lifecycle)}
    (completes : (lifecycle.load image scale).run rig = .ok outcome)
    (succeeds : outcome.value = (.ok screen, rest)) :
    ∃ current made reached, rest = .loaded current ∧ current.screen = screen ∧
      Progress image scale (.start lifecycle) rig made
        (.sized current.rom current.handle current.screen) reached ∧
      outcome.rig.machine = reached.machine ∧
      ∃ size, screen.checked scale reached.machine.memory = .ok size := by
  obtain ⟨current, rfl, rfl, progress⟩ := load_success completes succeeds
  -- A load begins at stage 2 or before it and ends at stage 11, so it comes through stage 9.
  have start_early := Milestone.stage_start_le lifecycle
  obtain ⟨middle, reached, made, more, before, after, stage, -⟩ :=
    progress.through (Nat.le_trans start_early (by decide : 2 ≤ 9)) (by simp [Milestone.stage])
  cases middle with
  | sized rom handle screen =>
    obtain ⟨rfl, same, checked⟩ := of_progress_sized after
    exact ⟨_, made, reached, rfl, rfl, before, same, checked⟩
  | occupied | halted | vacant | admitted | measured | given | filled | created | wide | fitting
  | finished => simp [Milestone.stage] at stage

/-- After the given exchanges the load asks the surface for a size, and the surface's answer decides
what becomes of the new rom. -/
structure Resizes (load : Act σ τ (Except Error Screen × Lifecycle)) (rig : Rig σ τ)
    (made : List Entry) (current : LoadedRom) (width height : UInt32) (reached : Rig σ τ) :
    Prop where
  once : ∀ ⦃reply⦄, Surface.resize width height reached.display = .ok reply →
    (load.journal rig).surfaceRequests = [.resize width height]
  accepted : ∀ ⦃display⦄, Surface.resize width height reached.display = .ok (.ok (), display) →
    load.Gives rig (.ok current.screen, .loaded current) { reached with display }
      (made ++ [.surface (.resize width height) (.ok ())])
  refused : ∀ ⦃reason display⦄,
    Surface.resize width height reached.display = .ok (.error reason, display) →
    GivesUp load rig (made ++ [.surface (.resize width height) (.error reason)]) current.rom
      current.handle (.surface reason) { reached with display }
  faults : ∀ ⦃fault⦄, Surface.resize width height reached.display = .error fault →
    load.Faults rig fault

theorem load_of_showable
    (progress : Progress image scale (.start lifecycle) rig made (.sized rom handle screen) reached)
    (showable : screen.Showable scale reached.machine.memory.size) :
    ∃ width height : UInt32, width.toNat = screen.width.toNat * scale.toNat ∧
      height.toNat = screen.height.toNat * scale.toNat ∧
      Resizes (lifecycle.load image scale) rig made ⟨handle, rom, screen⟩ width height reached := by
  -- What is left of the load at this point is executed for each answer of the surface.
  have comes : (lifecycle.load image scale).ComesTo rig made
      (finish rom handle screen scale image.size) reached := load_leads lifecycle progress
  have unasked : Journal.surfaceRequests made = [] :=
    (progress.shows_nothing (by simp [Milestone.stage])).surfaceRequests_eq_nil
  obtain ⟨width, height, found, width_eq, height_eq⟩ := Screen.checked_of_showable showable
  refine ⟨width, height, width_eq, height_eq, ?_, ?_, ?_, ?_⟩
  -- The request is made whatever the surface answers.
  · rintro ⟨_ | _, display⟩ resizes
    · rw [surfaceRequests_of_abandon (comes.trans (finish_of_refused_resize found resizes)),
        Journal.surfaceRequests_append, unasked]
      rfl
    · have gives := comes.gives (finish_of_resize found resizes)
      rw [← Journal.surfaceRequests_exchanges, gives.exchanges_journal,
        Journal.surfaceRequests_append, unasked]
      rfl
  · intro display resizes
    exact comes.gives (finish_of_resize found resizes)
  · intro reason display resizes
    exact givesUp_of_comesTo (comes.trans (finish_of_refused_resize found resizes))
  · intro fault resizes
    exact comes.faults (finish_of_fault found resizes)

theorem load_of_not_showable
    (progress : Progress image scale (.start lifecycle) rig made (.sized rom handle screen) reached)
    (host : reached.machine.memory.size ≤ Checked.maxBufferBytes)
    (refused : ¬ screen.Showable scale reached.machine.memory.size) :
    ((lifecycle.load image scale : Act σ τ _).journal rig).surfaceRequests = [] ∧
      GivesUp (lifecycle.load image scale) rig made rom handle
        (.invalidResolution screen.width screen.height) reached := by
  have comes : (lifecycle.load image scale).ComesTo rig made
      (finish rom handle screen scale image.size) reached := load_leads lifecycle progress
  have unasked : Journal.surfaceRequests made = [] :=
    (progress.shows_nothing (by simp [Milestone.stage])).surfaceRequests_eq_nil
  -- The load gives up at once, so the calls after the check are those of giving up.
  have abandons := comes.trans (finish_of_refusal (Screen.checked_of_not_showable refused host))
  rw [List.append_nil] at abandons
  exact ⟨(surfaceRequests_of_abandon abandons).trans unasked, givesUp_of_comesTo abandons⟩

/-- A load whose new instance has told its screen, while native memory has the length that it has
then, asks the surface for the exact size of the enlarged screen if the screen can be shown.  It
succeeds if the surface accepts this size and fails otherwise.  If the screen cannot be shown, the
surface is not asked for anything, and the load fails with the resolution. -/
theorem load_of_screen
    (progress : Progress image scale (.start lifecycle) rig made (.sized rom handle screen) reached)
    (host : reached.machine.memory.size ≤ Checked.maxBufferBytes) :
    (screen.Showable scale reached.machine.memory.size →
      ∃ width height : UInt32, width.toNat = screen.width.toNat * scale.toNat ∧
        height.toNat = screen.height.toNat * scale.toNat ∧
        Resizes (lifecycle.load image scale) rig made ⟨handle, rom, screen⟩ width height
          reached) ∧
    (¬ screen.Showable scale reached.machine.memory.size →
      ((lifecycle.load image scale : Act σ τ _).journal rig).surfaceRequests = [] ∧
        GivesUp (lifecycle.load image scale) rig made rom handle
          (.invalidResolution screen.width screen.height) reached) :=
  ⟨load_of_showable progress, load_of_not_showable progress host⟩

/-- A bench core with a screen of two pixels, and a canvas without a limit. -/
def twoPixelRig : Rig Bench Canvas where
  machine := Bench.machine { heapSize := 64, screen := ⟨2, 1⟩ }
  display := .new .rgba

theorem load_of_screen_of_two_pixels :
    ∃ current made reached, current.screen = ⟨2, 1⟩ ∧
      Progress #[7] 3 (.start .empty) twoPixelRig made
        (.sized current.rom current.handle current.screen) reached ∧
      Resizes (Lifecycle.empty.load #[7] 3) twoPixelRig made current 6 3 reached := by
  -- The load is run once; that it has come through its ninth step is read off its success.
  obtain ⟨outcome, completes, succeeds, small⟩ :
      ∃ outcome, (Lifecycle.empty.load #[7] 3).run twoPixelRig = .ok outcome ∧
        outcome.value.1 = .ok ⟨2, 1⟩ ∧
        outcome.rig.machine.memory.size ≤ Checked.maxBufferBytes :=
    Checked.exists_of_any (by decide +kernel)
  obtain ⟨current, made, reached, -, screen, progress, same, size, checked⟩ :=
    screen_of_load completes (Prod.ext succeeds rfl)
  rw [same] at small
  have showable := Screen.showable_of_checked small checked
  rw [screen] at progress
  obtain ⟨width, height, width_eq, height_eq, resizes⟩ :=
    (load_of_screen progress small).1 showable
  obtain rfl : width = 6 := UInt32.toNat_inj.1 width_eq
  obtain rfl : height = 3 := UInt32.toNat_inj.1 height_eq
  refine ⟨current, made, reached, screen, screen ▸ progress, ?_⟩
  rw [← screen] at resizes
  exact resizes

end Lifecycle

end Handheld
