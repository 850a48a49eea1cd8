import Handheld.Proofs.Session.Execution
import Handheld.Proofs.Session.Loading

/-!
# What Is Left of a Load

A load whose steps have succeeded so far goes on in one way only.  The main result,
`Lifecycle.load_leads`, says that a load which has got to know its screen is `Lifecycle.finish`
from then on.

`Act.Follows` reads the steps of a load off an execution.  `Act.Leads` goes the other way: it puts
the execution together out of steps that are known to succeed, and so it also says what happens
when a later call is cut short by a fault.
-/

namespace Handheld

/-! ## §1 Acts that come to others

An act comes to another one if it has made some exchanges and goes on as the other act does.  This
puts two programs side by side without running either to its end, so it also holds for those that a
fault cuts short. -/

namespace Act

variable {σ τ α β : Type} {rig middle reached after : Rig σ τ} {value : α} {result : β}
  {made more : List Entry}

/-- A run that something else has been done before. -/
def resumed (done : Journal) :
    Except Interruption (Outcome σ τ α) → Except Interruption (Outcome σ τ α)
  | .ok outcome => .ok { outcome with journal := done ++ outcome.journal }
  | .error cut => .error { cut with journal := done ++ cut.journal }

/-- On the first rig the act makes the given exchanges, and then it does what the other act does
on the second rig. -/
def ComesTo (act : Act σ τ α) (rig : Rig σ τ) (made : List Entry) (rest : Act σ τ α)
    (reached : Rig σ τ) : Prop :=
  ∃ done : Journal, act.run rig = resumed done (rest.run reached) ∧ done.exchanges = made

theorem comesTo_self (act : Act σ τ α) (rig : Rig σ τ) : act.ComesTo rig [] act rig := by
  refine ⟨[], ?_, rfl⟩
  cases act.run rig <;> rfl

/-- An act that has been done is followed by what comes to the rest. -/
theorem Gives.bind_comesTo {first : Act σ τ α} {next : α → Act σ τ β} {rest : Act σ τ β}
    (gives : first.Gives rig value middle made)
    (comes : (next value).ComesTo middle more rest reached) :
    (first >>= next).ComesTo rig (made ++ more) rest reached := by
  obtain ⟨journal, run, rfl⟩ := gives
  obtain ⟨done, resumes, rfl⟩ := comes
  refine ⟨journal ++ done, ?_, Journal.exchanges_append journal done⟩
  rw [run_bind, run]
  dsimp only
  rw [resumes]
  cases rest.run reached <;> simp only [resumed, List.append_assoc]

variable {act rest : Act σ τ α} (comes : act.ComesTo rig made rest reached)
include comes

theorem ComesTo.trans {last : Act σ τ α} (goes_on : rest.ComesTo reached more last after) :
    act.ComesTo rig (made ++ more) last after := by
  obtain ⟨done, resumes, rfl⟩ := comes
  obtain ⟨later, resumes_later, rfl⟩ := goes_on
  refine ⟨done ++ later, ?_, Journal.exchanges_append done later⟩
  rw [resumes, resumes_later]
  cases last.run after <;> simp only [resumed, List.append_assoc]

theorem ComesTo.gives (gives : rest.Gives reached value after more) :
    act.Gives rig value after (made ++ more) := by
  obtain ⟨done, resumes, rfl⟩ := comes
  obtain ⟨journal, run, rfl⟩ := gives
  refine ⟨done ++ journal, ?_, Journal.exchanges_append done journal⟩
  rw [resumes, run]
  rfl

theorem ComesTo.faults {fault : Fault} (faults : rest.Faults reached fault) :
    act.Faults rig fault := by
  obtain ⟨done, resumes, -⟩ := comes
  obtain ⟨journal, cut⟩ := faults
  refine ⟨done ++ journal, ?_⟩
  rw [resumes, cut]
  rfl

/-- What the act does in all, also if a fault cuts it short. -/
theorem ComesTo.exchanges :
    (act.journal rig).exchanges = made ++ (rest.journal reached).exchanges := by
  obtain ⟨done, resumes, rfl⟩ := comes
  rw [← Journal.exchanges_append]
  unfold journal
  rw [resumes]
  cases rest.run reached <;> rfl

end Act

/-! ## §2 Acts that lead to a milestone

Given the steps of a load up to a milestone, there is only one way for the program to have come
there. -/

namespace Act

variable {σ τ α β : Type} [NativeCore σ] [Surface τ]

/-- If the steps of a load from the first milestone on succeed up to the second, then the act makes
them, and what is left of it is the other act. -/
def Leads (act : Act σ τ α) (image : Bytes) (scale : UInt32) (milestone target : Milestone)
    (rest : Act σ τ α) : Prop :=
  ∀ ⦃rig reached made⦄, Progress image scale milestone rig made target reached →
    act.ComesTo rig made rest reached

variable {image : Bytes} {scale : UInt32} {milestone target : Milestone} {rest : Act σ τ β}

/-- The milestone has been reached. -/
theorem leads_of_arrival {act : Act σ τ β} (same : milestone.stage = target.stage)
    (unfinished : target.stage < 11) (rest_eq : milestone = target → act = rest) :
    act.Leads image scale milestone target rest := by
  intro rig reached made progress
  obtain ⟨arrived, rfl, rfl⟩ := progress.of_same_stage same unfinished
  obtain rfl := rest_eq arrived
  exact comesTo_self act rig

/-- The next step is made by an act of its own. -/
theorem leads_step {first : Act σ τ α} {next : α → Act σ τ β}
    {answer : α → Except Error Milestone}
    (step : milestone.advance image scale = (do return answer (← first)))
    (before : milestone ≠ target)
    (succeeds : ∀ value reached, answer value = .ok reached →
      (next value).Leads image scale reached target rest) :
    (first >>= next).Leads image scale milestone target rest := by
  intro rig reached made progress
  -- The target lies further on, so the row of steps is not empty, and its first step is this one.
  cases progress with
  | refl => exact absurd rfl before
  | step run succeeded more =>
    rw [step] at run
    obtain ⟨inner, hfirst, rfl⟩ := run_map_eq_ok_iff.1 run
    exact (Gives.of_run hfirst).bind_comesTo (succeeds inner.value _ succeeded more)

/-- The next step is made by an act of its own, which may fail. -/
theorem leads_step_of_map {first : Act σ τ (Except Error α)} {next : Except Error α → Act σ τ β}
    {reach : α → Milestone}
    (step : milestone.advance image scale = (do return (← first).map reach))
    (before : milestone ≠ target)
    (succeeds : ∀ value, (next (.ok value)).Leads image scale (reach value) target rest) :
    (first >>= next).Leads image scale milestone target rest := by
  apply leads_step step before
  intro answer reached hanswer
  cases answer with
  | error cause => cases hanswer
  | ok value =>
    cases hanswer
    exact succeeds value

/-- The next step needs no act. -/
theorem leads_of_pure {act : Act σ τ β} {verdict : Except Error Milestone}
    (step : (milestone.advance image scale : Act σ τ _) = pure verdict)
    (before : milestone ≠ target)
    (succeeds : ∀ reached, verdict = .ok reached →
      act.Leads image scale reached target rest) :
    act.Leads image scale milestone target rest := by
  intro rig reached made progress
  cases progress with
  | refl => exact absurd rfl before
  | step run succeeded more =>
    rw [step] at run
    obtain rfl := Except.ok.inj run
    exact succeeds _ succeeded more

/-- A diagnostic is no step. -/
theorem leads_of_note {diagnostic : Diagnostic} {next : Unit → Act σ τ β}
    (leads : (next ()).Leads image scale milestone target rest) :
    (note diagnostic >>= next).Leads image scale milestone target rest :=
  fun rig _ _ progress => (gives_note diagnostic rig).bind_comesTo (leads progress)

end Act

/-! ## §3 The parts of a load

A load up to its last two steps.  What is left then is named `finish`, so that later proofs need not
look at the program again. -/

namespace Lifecycle

open Act

variable {σ τ β : Type} [NativeCore σ] [Surface τ] {image : Bytes} {scale : UInt32}

/-- What a load does that fails when it has an instance: it gives all back. -/
def abandon (rom : Region) (handle : Handle) (cause : Error) :
    Act σ τ (Except Error Screen × Lifecycle) := do
  Act.noteError (← tearDown handle rom) (.abandonFailed handle)
  return (.error cause, .empty)

/-- What is left of a load when the screen of the new instance is known. -/
def finish (rom : Region) (handle : Handle) (screen : Screen) (scale : UInt32) (bytes : Nat) :
    Act σ τ (Except Error Screen × Lifecycle) := do
  match screen.checked scale (← Act.memory) with
  | .error cause => abandon rom handle cause
  | .ok size =>
    match ← Act.present (.resize size.1 size.2) with
    | .error cause => abandon rom handle cause
    | .ok () =>
      Act.note (.loaded bytes handle screen.width screen.height)
      return (.ok screen, .loaded ⟨handle, rom, screen⟩)

/-- The answer of a load whose last part has ended so. -/
def conclusion : Except Error LoadedRom → Except Error Screen × Lifecycle
  | .error cause => (.error cause, .empty)
  | .ok current => (.ok current.screen, .loaded current)

section Filling

variable {rom : Region} {rest : Act σ τ β}

theorem tearDown_leads {old : LoadedRom} {next : Except Error Unit → Act σ τ β}
    (leads : (next (.ok ())).Leads image scale .vacant (.filled rom) rest) :
    (tearDown old.handle old.rom >>= next).Leads image scale (.occupied old) (.filled rom)
      rest := by
  unfold tearDown Region.release
  rw [bind_assoc]
  refine leads_step_of_map rfl nofun fun _ => ?_
  rw [bind_assoc]
  exact leads_of_note <| leads_step_of_map rfl nofun fun _ => leads

theorem unload_leads {lifecycle : Lifecycle} {next : Except Error Unit × Lifecycle → Act σ τ β}
    (leads : (next (.ok (), .empty)).Leads image scale .vacant (.filled rom) rest) :
    (lifecycle.unload >>= next).Leads image scale (.start lifecycle) (.filled rom) rest := by
  -- Where a rom is running, the two steps of its teardown have succeeded.
  cases lifecycle with
  | empty =>
    rw [unload, pure_bind]
    exact leads
  | loaded old =>
    rw [unload, bind_assoc]
    refine leads_of_note ?_
    rw [bind_assoc]
    refine tearDown_leads ?_
    rw [pure_bind]
    exact leads

theorem allocate_leads (next : Except Error Region → Act σ τ β) :
    (Region.allocate image >>= next).Leads image scale .admitted (.filled rom)
      (next (.ok rom)) := by
  refine leads_of_pure rfl nofun fun reached hreached => ?_
  -- The milestone that was reached says which way the code has gone.
  unfold Region.allocate
  -- The length of the image has passed the test.
  split at hreached
  · next short =>
    cases hreached
    rw [if_pos short, bind_assoc]
    refine leads_step rfl nofun fun answer reached hreached => ?_
    cases answer with
    | error => cases hreached
    -- An answer without a block would have been a refusal.
    | ok addr =>
      cases hregion : Region.ofAddress? addr (UInt32.ofNat image.size) with
      | none => simp [Except.bind, hregion] at hreached
      | some region =>
        simp only [Except.bind, hregion, Except.ok.injEq] at hreached ⊢
        subst hreached
        unfold Region.fill
        rw [bind_assoc]
        refine leads_step_of_map rfl nofun fun _ => ?_
        rw [bind_assoc]
        refine leads_of_note ?_
        rw [pure_bind]
        refine leads_of_arrival rfl (by simp [Milestone.stage]) ?_
        rintro ⟨⟩
        rfl
  · cases hreached

/-- A load that has filled a block creates an instance next. -/
theorem load_leads_boot (lifecycle : Lifecycle) :
    (lifecycle.load image scale : Act σ τ _).Leads image scale (.start lifecycle) (.filled rom)
      (boot rom scale image.size >>= fun launched => pure (conclusion launched)) := by
  -- What a load makes of a launch is its conclusion.
  have ends : ∀ launched : Except Error LoadedRom,
      (match launched with
        | .error error => return (.error error, .empty)
        | .ok current => return (.ok current.screen, .loaded current) :
        Act σ τ (Except Error Screen × Lifecycle)) = pure (conclusion launched) := by
    intro launched
    cases launched <;> rfl
  have launched : (launch image scale >>= fun launched => pure (conclusion launched) :
      Act σ τ _).Leads image scale .vacant (.filled rom)
      (boot rom scale image.size >>= fun launched => pure (conclusion launched)) := by
    refine leads_of_pure rfl nofun fun reached hreached => ?_
    unfold launch
    -- The image is not empty, or the load would not have come any further.
    split at hreached
    · cases hreached
    · next full =>
      cases hreached
      rw [if_neg full, bind_assoc]
      exact allocate_leads _
  rw [← bind_congr ends] at launched
  exact unload_leads launched

end Filling

section Settling

variable {rom : Region} {handle : Handle} {screen : Screen}

theorem askScreen_leads {block : Region} {fresh : Handle} {rest : Act σ τ β}
    {next : Except Error Screen → Act σ τ β}
    (leads : ∀ found, (next (.ok found)).Leads image scale (.sized block fresh found)
      (.sized rom handle screen) rest) :
    (askScreen fresh >>= next).Leads image scale (.created block fresh)
      (.sized rom handle screen) rest := by
  unfold askScreen
  rw [bind_assoc]
  refine leads_step_of_map rfl nofun fun width => ?_
  rw [bind_assoc]
  refine leads_step_of_map rfl nofun fun height => ?_
  rw [pure_bind]
  exact leads ⟨width, height⟩

theorem settle_leads (block : Region) (fresh : Handle) (bytes : Nat) :
    (settle fresh block scale bytes >>= fun launched => pure (conclusion launched) :
      Act σ τ _).Leads image scale (.created block fresh) (.sized rom handle screen)
      (finish rom handle screen scale bytes) := by
  unfold settle configure
  rw [bind_assoc, bind_assoc]
  refine askScreen_leads fun found => leads_of_arrival rfl (by simp [Milestone.stage]) ?_
  intro arrived
  -- The handle, the block and the screen are those that the steps have found.
  cases arrived
  unfold finish abandon
  dsimp only
  rw [fitSurface_eq, bind_assoc]
  -- From here on both sides are the same program, written in two ways.
  refine bind_congr fun memory => ?_
  cases screen.checked scale memory with
  | error cause =>
    simp only [bind_assoc, pure_bind]
    rfl
  | ok size =>
    simp only [bind_assoc, pure_bind]
    refine bind_congr fun answer => ?_
    cases answer with
    | error cause =>
      simp only [Except.map, bind_assoc, pure_bind]
      rfl
    | ok =>
      simp only [Except.map, bind_assoc, pure_bind]
      rfl

/-- A load whose block is filled is `finish` as soon as it knows the screen of the instance. -/
theorem boot_leads (block : Region) (bytes : Nat) :
    (boot block scale bytes >>= fun launched => pure (conclusion launched) : Act σ τ _).Leads image
      scale (.filled block) (.sized rom handle screen)
      (finish rom handle screen scale bytes) := by
  unfold boot
  rw [bind_assoc]
  refine leads_step rfl nofun fun answer reached hreached => ?_
  rcases answer with _ | _ | created
  · cases hreached
  · cases hreached
  · cases hreached
    exact settle_leads block created bytes

/-- A load that has got to know the screen of its new instance is `finish` from then on. -/
theorem load_leads (lifecycle : Lifecycle) :
    (lifecycle.load image scale : Act σ τ _).Leads image scale (.start lifecycle)
      (.sized rom handle screen) (finish rom handle screen scale image.size) := by
  intro rig reached made progress
  have start_early := Milestone.stage_start_le lifecycle
  -- On its way the load has filled a block.
  obtain ⟨middle, halfway, before, after, fills, goes_on, stage, rfl⟩ :=
    progress.through (Nat.le_trans start_early (by decide : 2 ≤ 6)) (by simp [Milestone.stage])
  cases middle with
  | filled block => exact (load_leads_boot lifecycle fills).trans (boot_leads block _ goes_on)
  | occupied | halted | vacant | admitted | measured | given | created | wide | sized | fitting
  | finished => simp [Milestone.stage] at stage

end Settling

end Lifecycle

end Handheld
