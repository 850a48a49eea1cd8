import Handheld.Proofs.Session.Exchange
import Handheld.Session.Region

/-!
# Taking Acts Apart

The rules for `Act.Gives` in the other direction: an act that is put together of others gives
exactly what these give one after another.  Read from left to right the laws execute an act; read
from right to left they put an execution together, and so they show that an act has a result.
-/

namespace Handheld.Act

variable {σ τ α β : Type} {rig after : Rig σ τ} {value : α} {result : β} {calls : List Entry}

/-! ## §1 Runs -/

theorem Gives.of_run {act : Act σ τ α} {outcome : Outcome σ τ α}
    (run : act.run rig = .ok outcome) :
    act.Gives rig outcome.value outcome.rig outcome.journal.exchanges :=
  ⟨outcome.journal, run, rfl⟩

/-- An act gives one thing only. -/
theorem Gives.outcome_eq {act : Act σ τ α} {outcome : Outcome σ τ α}
    (gives : act.Gives rig value after calls) (run : act.run rig = .ok outcome) :
    outcome.value = value ∧ outcome.rig = after ∧ outcome.journal.exchanges = calls := by
  obtain ⟨journal, gives, rfl⟩ := gives
  obtain rfl := Except.ok.inj (gives.symm.trans run)
  exact ⟨rfl, rfl, rfl⟩

theorem Gives.unique {act : Act σ τ α} {other : α} {reached : Rig σ τ} {made : List Entry}
    (gives : act.Gives rig value after calls) (also_gives : act.Gives rig other reached made) :
    value = other ∧ after = reached ∧ calls = made := by
  obtain ⟨journal, run, rfl⟩ := gives
  obtain ⟨rfl, rfl, rfl⟩ := also_gives.outcome_eq run
  exact ⟨rfl, rfl, rfl⟩

/-! ## §2 Sequences

A sequence gives what its parts give, and there is exactly one way to split it. -/

@[simp] theorem gives_pure_iff {given : α} :
    (pure given : Act σ τ α).Gives rig value after calls ↔
      value = given ∧ after = rig ∧ calls = [] := by
  constructor
  · rintro ⟨journal, run, rfl⟩
    cases run
    exact ⟨rfl, rfl, rfl⟩
  · rintro ⟨rfl, rfl, rfl⟩
    exact gives_pure _ _

theorem gives_bind_iff {first : Act σ τ α} {next : α → Act σ τ β} :
    (first >>= next).Gives rig result after calls ↔
      ∃ value middle made more, first.Gives rig value middle made ∧
        (next value).Gives middle result after more ∧ calls = made ++ more := by
  constructor
  · rintro ⟨journal, run, rfl⟩
    obtain ⟨inner, last, hfirst, hnext, heq⟩ := run_bind_eq_ok_iff.1 run
    cases heq
    exact ⟨_, _, _, _, .of_run hfirst, .of_run hnext, Journal.exchanges_append _ _⟩
  · rintro ⟨value, middle, made, more, gives, then_gives, rfl⟩
    exact gives.bind then_gives

/-- An act whose result is only made into another one. -/
theorem gives_map_iff {act : Act σ τ α} {f : α → β} :
    (act >>= fun value => pure (f value)).Gives rig result after calls ↔
      ∃ value, act.Gives rig value after calls ∧ result = f value := by
  rw [gives_bind_iff]
  constructor
  · rintro ⟨value, middle, made, more, gives, returned, rfl⟩
    obtain ⟨rfl, rfl, rfl⟩ := gives_pure_iff.1 returned
    rw [List.append_nil]
    exact ⟨value, gives, rfl⟩
  · rintro ⟨value, gives, rfl⟩
    exact ⟨value, after, calls, [], gives, gives_pure _ _, (List.append_nil calls).symm⟩

/-- What comes after an act matters only where the act leaves off. -/
theorem run_bind_congr {first : Act σ τ α} {next other : α → Act σ τ β}
    (same : ∀ value after calls, first.Gives rig value after calls →
      (next value).run after = (other value).run after) :
    (first >>= next).run rig = (first >>= other).run rig := by
  rw [run_bind, run_bind]
  cases run : first.run rig with
  | error cut => rfl
  | ok outcome =>
    dsimp only
    rw [same _ _ _ (.of_run run)]

/-! ## §3 What makes no call -/

@[simp] theorem gives_note_iff {diagnostic : Diagnostic} {nothing : Unit} :
    (note diagnostic : Act σ τ Unit).Gives rig nothing after calls ↔ after = rig ∧ calls = [] := by
  constructor
  · rintro ⟨journal, run, rfl⟩
    cases run
    exact ⟨rfl, rfl⟩
  · rintro ⟨rfl, rfl⟩
    exact gives_note diagnostic _

theorem gives_noteError (answer : Except Error α) (diagnostic : Error → Diagnostic)
    (rig : Rig σ τ) : (noteError answer diagnostic).Gives rig () rig [] := by
  cases answer with
  | ok => exact gives_pure _ _
  | error cause => exact gives_note _ _

@[simp] theorem gives_noteError_iff {answer : Except Error α} {diagnostic : Error → Diagnostic}
    {nothing : Unit} :
    (noteError answer diagnostic : Act σ τ Unit).Gives rig nothing after calls ↔
      after = rig ∧ calls = [] := by
  cases answer with
  | ok => simp [noteError]
  | error => simp [noteError]

@[simp] theorem gives_ofNoted_iff {noted : Noted α} :
    (ofNoted noted : Act σ τ α).Gives rig value after calls ↔
      value = noted.value ∧ after = rig ∧ calls = [] := by
  constructor
  · rintro ⟨journal, run, rfl⟩
    exact (gives_ofNoted noted rig).outcome_eq run
  · rintro ⟨rfl, rfl, rfl⟩
    exact gives_ofNoted noted _

@[simp] theorem gives_ofFaulty_iff {computation : Faulty α} :
    (ofFaulty computation : Act σ τ α).Gives rig value after calls ↔
      computation = .ok value ∧ after = rig ∧ calls = [] := by
  constructor
  · rintro ⟨journal, run, rfl⟩
    obtain ⟨given, success, heq⟩ := run_ofFaulty_eq_ok_iff.1 run
    cases heq
    exact ⟨success, rfl, rfl⟩
  · rintro ⟨success, rfl, rfl⟩
    exact gives_ofFaulty success _

@[simp] theorem gives_memory_iff {bytes : Bytes} :
    (memory : Act σ τ Bytes).Gives rig bytes after calls ↔
      bytes = rig.machine.memory ∧ after = rig ∧ calls = [] := by
  constructor
  · rintro ⟨journal, run, rfl⟩
    exact (gives_memory rig).outcome_eq run
  · rintro ⟨rfl, rfl, rfl⟩
    exact gives_memory _

@[simp] theorem gives_encoding_iff [Surface τ] {wanted : PixelEncoding} :
    (encoding : Act σ τ PixelEncoding).Gives rig wanted after calls ↔
      wanted = Surface.encoding rig.display ∧ after = rig ∧ calls = [] := by
  constructor
  · rintro ⟨journal, run, rfl⟩
    exact (gives_encoding rig).outcome_eq run
  · rintro ⟨rfl, rfl, rfl⟩
    exact gives_encoding _

@[simp] theorem gives_readStopwatch_iff {reading : Nat} :
    (readStopwatch : Act σ τ Nat).Gives rig reading after calls ↔
      reading = rig.stopwatch.read.1 ∧
        after = { rig with stopwatch := rig.stopwatch.read.2 } ∧ calls = [] := by
  constructor
  · rintro ⟨journal, run, rfl⟩
    exact (gives_readStopwatch rig).outcome_eq run
  · rintro ⟨rfl, rfl, rfl⟩
    exact gives_readStopwatch _

/-- Writing to native memory is no call. -/
theorem gives_writeMemory {addr : UInt32} {bytes memory : Bytes}
    (written : Memory.write rig.machine.memory addr bytes = .ok memory) :
    (Region.writeMemory addr bytes).Gives rig (.ok ()) { rig with machine.memory := memory }
      [] := by
  have sets : (setMemory memory).Gives rig () { rig with machine.memory := memory } [] :=
    ⟨[], rfl, rfl⟩
  unfold Region.writeMemory
  refine (gives_memory rig).quietly ?_
  rw [written]
  exact sets.quietly (gives_pure _ _)

theorem gives_writeMemory_refused {addr : UInt32} {bytes : Bytes} {cause : Error}
    (refused : Memory.write rig.machine.memory addr bytes = .error cause) :
    (Region.writeMemory addr bytes).Gives rig (.error cause) rig [] := by
  unfold Region.writeMemory
  refine (gives_memory rig).quietly ?_
  rw [refused]
  exact gives_pure _ _

/-! ## §4 Calls -/

theorem gives_ask_iff [NativeCore σ] {request : Request} {answer : Except Error request.Answer} :
    (ask request : Act σ τ _).Gives rig answer after calls ↔
      ∃ machine, NativeCore.answer request rig.machine = .ok (answer, machine) ∧
        after = { rig with machine } ∧ calls = [.native request answer] := by
  constructor
  · rintro ⟨journal, run, rfl⟩
    obtain ⟨machine, answered, hrig, hjournal⟩ := run_ask_eq_ok_iff.1 run
    exact ⟨machine, answered, hrig, congrArg Journal.exchanges hjournal⟩
  · rintro ⟨machine, answered, rfl, rfl⟩
    exact gives_ask answered

theorem gives_present_iff [Surface τ] {request : SurfaceRequest} {given : Except Error Unit} :
    (present request : Act σ τ _).Gives rig given after calls ↔
      ∃ answer display, request.perform rig.display = .ok (answer, display) ∧
        given = answer.mapError .surface ∧ after = { rig with display } ∧
        calls = [.surface request answer] := by
  constructor
  · rintro ⟨journal, run, rfl⟩
    obtain ⟨answer, display, performed, hvalue, hrig, hjournal⟩ := run_present_eq_ok_iff.1 run
    exact ⟨answer, display, performed, hvalue, hrig, congrArg Journal.exchanges hjournal⟩
  · rintro ⟨answer, display, performed, rfl, rfl, rfl⟩
    exact gives_present performed

section Hosts

variable [Host τ]

theorem gives_waitForRefresh_iff {answer : Except HostError Bool} {sent : List HostEvent} :
    (waitForRefresh : Act σ τ _).Gives rig (answer, sent) after calls ↔
      ∃ display, Host.waitForRefresh rig.display = .ok ((answer, display), sent) ∧
        after = { rig with display } ∧ calls = [.host (.refresh answer)] := by
  -- Only the refresh itself can be cut short, and then nothing is given.
  constructor
  · rintro ⟨journal, run, rfl⟩
    simp only [waitForRefresh] at run
    split at run
    · cases run
    · next refreshed =>
      cases run
      exact ⟨_, refreshed, rfl, rfl⟩
  · rintro ⟨display, refreshed, rfl, rfl⟩
    refine ⟨[.host (.refresh answer)], ?_, rfl⟩
    simp only [waitForRefresh, refreshed]

@[simp] theorem gives_frameComplete_iff {frames : UInt64} {nothing : Unit} :
    (frameComplete frames : Act σ τ Unit).Gives rig nothing after calls ↔
      after = { rig with display := Host.frameComplete frames rig.display } ∧
        calls = [.host (.frameComplete frames)] := by
  constructor
  · rintro ⟨journal, run, rfl⟩
    cases run
    exact ⟨rfl, rfl⟩
  · rintro ⟨rfl, rfl⟩
    exact ⟨_, rfl, rfl⟩

/-- What the host notes on its own about a failure is no call. -/
@[simp] theorem gives_reportError_iff {cause : Error} {nothing : Unit} :
    (reportError cause : Act σ τ Unit).Gives rig nothing after calls ↔
      after = { rig with display := (Host.reportError cause rig.display).value } ∧
        calls = [.host (.reportError cause)] := by
  have reported : Journal.exchanges (.host (.reportError cause) ::
      (Host.reportError cause rig.display).notes.map .diagnostic) =
        [.host (.reportError cause)] := by
    rw [← Journal.exchanges_notes (Host.reportError cause rig.display).notes]
    rfl
  constructor
  · rintro ⟨journal, run, rfl⟩
    cases run
    exact ⟨rfl, reported⟩
  · rintro ⟨rfl, rfl⟩
    exact ⟨_, rfl, reported⟩

end Hosts

/-! ## §5 Results

What holds of every value that an act can give is enough where the run itself does not matter. -/

variable {first : Act σ τ α} {next : α → Act σ τ β} {knows : α → Prop} {post : β → Prop}

/-- Whatever the act gives meets the condition. -/
def Ensures (act : Act σ τ α) (post : α → Prop) : Prop :=
  ∀ ⦃rig value after calls⦄, act.Gives rig value after calls → post value

theorem ensures_pure (holds : post result) : (pure result : Act σ τ β).Ensures post := by
  intro rig value after calls gives
  obtain ⟨rfl, -, -⟩ := gives_pure_iff.1 gives
  exact holds

theorem Ensures.mono {act : Act σ τ β} {weaker : β → Prop} (ensures : act.Ensures post)
    (post_le : ∀ value, post value → weaker value) : act.Ensures weaker := by
  intro rig value after calls gives
  exact post_le value (ensures gives)

theorem Ensures.bind (ensures : first.Ensures knows)
    (then_ensures : ∀ value, knows value → (next value).Ensures post) :
    (first >>= next).Ensures post := by
  intro rig result after calls gives
  obtain ⟨value, middle, made, more, hfirst, hnext, -⟩ := gives_bind_iff.1 gives
  exact then_ensures value (ensures hfirst) hnext

/-- Nothing needs to be known of an act that the rest does not depend on. -/
theorem bind_ensures (ensures : ∀ value, (next value).Ensures post) :
    (first >>= next).Ensures post := by
  intro rig result after calls gives
  obtain ⟨value, middle, made, more, -, hnext, -⟩ := gives_bind_iff.1 gives
  exact ensures value hnext

theorem ensures_ofFaulty (computation : Faulty α) :
    (ofFaulty computation : Act σ τ α).Ensures (computation = .ok ·) :=
  fun _ _ _ _ gives => (gives_ofFaulty_iff.1 gives).1

/-! ## §6 Faults

A fault ends an act wherever it comes; what has been given before cannot be given as well. -/

/-- A fault cuts the act short. -/
def Faults (act : Act σ τ α) (rig : Rig σ τ) (fault : Fault) : Prop :=
  ∃ journal, act.run rig = .error ⟨fault, journal⟩

variable {fault : Fault}

/-- What comes after a fault is not done. -/
theorem Faults.bind (faults : first.Faults rig fault) : (first >>= next).Faults rig fault := by
  obtain ⟨journal, run⟩ := faults
  exact ⟨journal, by rw [run_bind, run]⟩

theorem Gives.bind_faults {middle : Rig σ τ} (gives : first.Gives rig value middle calls)
    (faults : (next value).Faults middle fault) : (first >>= next).Faults rig fault := by
  obtain ⟨journal, run, -⟩ := gives
  obtain ⟨more, cut⟩ := faults
  refine ⟨journal ++ more, ?_⟩
  rw [run_bind, run]
  dsimp only
  rw [cut]

/-- An act that gives something is not cut short. -/
theorem Gives.not_faults {act : Act σ τ α} (gives : act.Gives rig value after calls) :
    ¬ act.Faults rig fault := by
  obtain ⟨journal, run, -⟩ := gives
  rintro ⟨done, cut⟩
  cases run.symm.trans cut

theorem Faults.unique {act : Act σ τ α} {other : Fault} (faults : act.Faults rig fault)
    (also_faults : act.Faults rig other) : fault = other := by
  obtain ⟨journal, run⟩ := faults
  obtain ⟨done, cut⟩ := also_faults
  exact (Interruption.mk.inj (Except.error.inj (run.symm.trans cut))).1

theorem faults_ofFaulty {computation : Faulty α} (cut : computation = .error fault)
    (rig : Rig σ τ) :
    (ofFaulty computation : Act σ τ α).Faults rig fault := by
  subst cut
  exact ⟨[], rfl⟩

theorem faults_ask [NativeCore σ] {request : Request}
    (cut : NativeCore.answer request rig.machine = .error fault) :
    (ask request : Act σ τ _).Faults rig fault := by
  refine ⟨[], ?_⟩
  simp only [ask, cut]

theorem faults_present [Surface τ] {request : SurfaceRequest}
    (cut : request.perform rig.display = .error fault) :
    (present request : Act σ τ _).Faults rig fault := by
  refine ⟨[], ?_⟩
  simp only [present, cut]

/-! ## §7 Journals of whole acts

The journal of an act is there whether or not the act comes to its end. -/

/-- What an act does on a rig, also if a fault cuts it short. -/
def journal (act : Act σ τ α) (rig : Rig σ τ) : Journal :=
  match act.run rig with
  | .ok outcome => outcome.journal
  | .error cut => cut.journal

theorem Gives.exchanges_journal {act : Act σ τ α} (gives : act.Gives rig value after calls) :
    (act.journal rig).exchanges = calls := by
  obtain ⟨done, run, rfl⟩ := gives
  rw [journal, run]

/-- What two acts do is done by the first, or by the second after the first. -/
theorem mem_journal_bind {entry : Entry} (done : entry ∈ (first >>= next).journal rig) :
    entry ∈ first.journal rig ∨
      ∃ outcome, first.run rig = .ok outcome ∧
        entry ∈ (next outcome.value).journal outcome.rig := by
  unfold journal at done ⊢
  rw [run_bind] at done
  -- The entries of the second act, up to its fault as well, stand behind those of the first.
  cases hfirst : first.run rig with
  | error cut =>
    rw [hfirst] at done
    exact .inl done
  | ok outcome =>
    rw [hfirst] at done
    dsimp only at done ⊢
    cases hnext : (next outcome.value).run outcome.rig with
    | error cut =>
      rw [hnext] at done
      exact (List.mem_append.1 done).imp_right fun later => ⟨outcome, rfl, by rwa [hnext]⟩
    | ok last =>
      rw [hnext] at done
      exact (List.mem_append.1 done).imp_right fun later => ⟨outcome, rfl, by rwa [hnext]⟩

theorem mem_journal_present [Surface τ] {request : SurfaceRequest} {entry : Entry}
    (done : entry ∈ (present request : Act σ τ _).journal rig) :
    ∃ answer display, request.perform rig.display = .ok (answer, display) ∧
      entry = .surface request answer := by
  simp only [journal, present] at done
  cases performed : request.perform rig.display with
  | error fault =>
    rw [performed] at done
    cases done
  | ok reply =>
    rw [performed] at done
    exact ⟨reply.1, reply.2, rfl, List.mem_singleton.1 done⟩

end Handheld.Act
