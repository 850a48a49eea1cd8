import Handheld.Session.Act

/-!
# Exchanges

An exchange is a call to the core, the surface or the host together with its answer: the part of
the journal that others take part in.  `Act.Gives` says exactly what an act does when the core
and the surface answer in a given way; it is how acts are executed in proofs, one call after
another.
-/

namespace Handheld

/-! ## §1 Exchanges

The journal of a run has diagnostics in it as well.  What the theorems compare are the exchanges,
which a reader could have seen from outside. -/

/-- The entry is something other than a diagnostic. -/
def Entry.isExchange : Entry → Bool
  | .diagnostic _ => false
  | .native _ _ | .surface _ _ | .host _ => true

/-- The calls of a run to the core, the surface and the host, each with its answer. -/
def Journal.exchanges (journal : Journal) : List Entry := journal.filter Entry.isExchange

@[simp] theorem Journal.exchanges_append (first second : Journal) :
    Journal.exchanges (first ++ second) = Journal.exchanges first ++ Journal.exchanges second :=
  List.filter_append ..

@[simp] theorem Journal.exchanges_nil : Journal.exchanges [] = [] := rfl

@[simp] theorem Journal.exchanges_native (request : Request)
    (answer : Except Error request.Answer) :
    Journal.exchanges [.native request answer] = [.native request answer] := rfl

@[simp] theorem Journal.exchanges_note (note : Diagnostic) :
    Journal.exchanges [.diagnostic note] = [] := rfl

@[simp] theorem Journal.exchanges_notes (notes : List Diagnostic) :
    Journal.exchanges (notes.map .diagnostic) = [] := by
  apply List.filter_eq_nil_iff.2
  intro entry hentry
  obtain ⟨diagnostic, -, rfl⟩ := List.mem_map.1 hentry
  simp [Entry.isExchange]

@[simp] theorem Journal.surfaceRequests_append (first second : Journal) :
    Journal.surfaceRequests (first ++ second) =
      Journal.surfaceRequests first ++ Journal.surfaceRequests second :=
  List.filterMap_append ..

/-- A diagnostic asks the surface for nothing. -/
theorem Journal.surfaceRequests_exchanges (journal : Journal) :
    Journal.surfaceRequests journal.exchanges = journal.surfaceRequests := by
  unfold surfaceRequests exchanges
  rw [List.filterMap_filter]
  congr 1
  funext entry
  cases entry <;> rfl

namespace Act

variable {σ τ α β : Type}

/-- A value computed from that of an act. -/
theorem run_map_eq_ok_iff {act : Act σ τ α} {f : α → β} {rig : Rig σ τ}
    {outcome : Outcome σ τ β} :
    (act >>= fun value => pure (f value)).run rig = .ok outcome ↔
      ∃ inner, act.run rig = .ok inner ∧ outcome = ⟨f inner.value, inner.rig, inner.journal⟩ := by
  rw [run_bind_eq_ok_iff]
  constructor
  · rintro ⟨inner, last, hinner, hlast, rfl⟩
    obtain rfl := Except.ok.inj hlast
    exact ⟨inner, hinner, by simp⟩
  · rintro ⟨inner, hinner, rfl⟩
    exact ⟨inner, ⟨f inner.value, inner.rig, []⟩, hinner, rfl, by simp⟩

theorem run_ofFaulty_eq_ok_iff {computation : Faulty α} {rig : Rig σ τ}
    {outcome : Outcome σ τ α} :
    (ofFaulty computation).run rig = .ok outcome ↔
      ∃ value, computation = .ok value ∧ outcome = ⟨value, rig, []⟩ := by
  cases computation with
  | error fault => simp [ofFaulty]
  | ok value => simp [ofFaulty, eq_comm]

/-- A call gives the core's answer, moves the machine on and is the one exchange. -/
theorem run_ask_eq_ok_iff [NativeCore σ] {request : Request} {rig : Rig σ τ}
    {outcome : Outcome σ τ (Except Error request.Answer)} :
    (ask request).run rig = .ok outcome ↔
      ∃ machine, NativeCore.answer request rig.machine = .ok (outcome.value, machine) ∧
        outcome.rig = { rig with machine } ∧
        outcome.journal = [.native request outcome.value] := by
  simp only [ask]
  constructor
  · intro run
    split at run
    · cases run
    · next answer machine answered =>
      obtain rfl := Except.ok.inj run
      exact ⟨machine, answered, rfl, rfl⟩
  · rintro ⟨machine, answered, hrig, hjournal⟩
    rw [answered]
    dsimp only
    rw [← hrig, ← hjournal]

/-- A request whose answer is made into something else. -/
theorem of_run_map_ask [NativeCore σ] {request : Request} {f : Except Error request.Answer → α}
    {rig : Rig σ τ} {outcome : Outcome σ τ α}
    (run : (ask request >>= fun answer => pure (f answer)).run rig = .ok outcome) :
    ∃ answer machine, NativeCore.answer request rig.machine = .ok (answer, machine) ∧
      outcome.value = f answer ∧ outcome.rig = { rig with machine } := by
  obtain ⟨⟨answer, reached, journal⟩, asks, rfl⟩ := run_map_eq_ok_iff.1 run
  obtain ⟨machine, answered, rfl, -⟩ := run_ask_eq_ok_iff.1 asks
  exact ⟨answer, machine, answered, rfl, rfl⟩

/-- A request to the surface moves the display on. -/
theorem run_present_eq_ok_iff [Surface τ] {request : SurfaceRequest} {rig : Rig σ τ}
    {outcome : Outcome σ τ (Except Error Unit)} :
    (present request).run rig = .ok outcome ↔
      ∃ answer display, request.perform rig.display = .ok (answer, display) ∧
        outcome.value = answer.mapError .surface ∧ outcome.rig = { rig with display } ∧
        outcome.journal = [.surface request answer] := by
  simp only [present]
  constructor
  · intro run
    split at run
    · cases run
    · next answer display performed =>
      obtain rfl := Except.ok.inj run
      exact ⟨answer, display, performed, rfl, rfl, rfl⟩
  · rintro ⟨answer, display, performed, hvalue, hrig, hjournal⟩
    rw [performed]
    dsimp only
    rw [← hrig, ← hjournal, ← hvalue]

/-! ## §2 Executing acts

`Gives` has one rule for each act and one for each way to go on.  Most of a program is quiet, so the
rules for what makes no exchange are the ones that are used most. -/

/-- On the first rig the act gives a value, leaves the second rig behind and makes the given
exchanges. -/
def Gives (act : Act σ τ α) (rig : Rig σ τ) (value : α) (after : Rig σ τ)
    (exchanges : List Entry) : Prop :=
  ∃ journal, act.run rig = .ok ⟨value, after, journal⟩ ∧ journal.exchanges = exchanges

theorem gives_pure (value : α) (rig : Rig σ τ) :
    (pure value : Act σ τ α).Gives rig value rig [] := ⟨[], rfl, rfl⟩

theorem Gives.bind {first : Act σ τ α} {next : α → Act σ τ β} {rig middle after : Rig σ τ}
    {value : α} {result : β} {made more : List Entry}
    (gives : first.Gives rig value middle made)
    (then_gives : (next value).Gives middle result after more) :
    (first >>= next).Gives rig result after (made ++ more) := by
  obtain ⟨journal, hfirst, rfl⟩ := gives
  obtain ⟨later, hnext, rfl⟩ := then_gives
  refine ⟨journal ++ later, ?_, Journal.exchanges_append journal later⟩
  exact run_bind_eq_ok_iff.2 ⟨_, _, hfirst, hnext, rfl⟩

/-- Something quiet goes before. -/
theorem Gives.quietly {first : Act σ τ α} {next : α → Act σ τ β} {rig middle after : Rig σ τ}
    {value : α} {result : β} {exchanges : List Entry} (gives : first.Gives rig value middle [])
    (then_gives : (next value).Gives middle result after exchanges) :
    (first >>= next).Gives rig result after exchanges := gives.bind then_gives

/-- Something quiet comes after. -/
theorem Gives.then_quietly {first : Act σ τ α} {next : α → Act σ τ β} {rig middle after : Rig σ τ}
    {value : α} {result : β} {exchanges : List Entry}
    (gives : first.Gives rig value middle exchanges)
    (then_gives : (next value).Gives middle result after []) :
    (first >>= next).Gives rig result after exchanges := by
  rw [← List.append_nil exchanges]
  exact gives.bind then_gives

/-- One exchange goes before. -/
theorem Gives.first {act : Act σ τ α} {next : α → Act σ τ β} {rig middle after : Rig σ τ}
    {value : α} {result : β} {entry : Entry} {exchanges : List Entry}
    (gives : act.Gives rig value middle [entry])
    (then_gives : (next value).Gives middle result after exchanges) :
    (act >>= next).Gives rig result after (entry :: exchanges) := gives.bind then_gives

theorem gives_note (diagnostic : Diagnostic) (rig : Rig σ τ) :
    (note diagnostic).Gives rig () rig [] := ⟨_, rfl, rfl⟩

theorem gives_ofNoted (noted : Noted α) (rig : Rig σ τ) :
    (ofNoted noted).Gives rig noted.value rig [] :=
  ⟨_, rfl, Journal.exchanges_notes noted.notes⟩

theorem gives_ofFaulty {computation : Faulty α} {value : α} (h : computation = .ok value)
    (rig : Rig σ τ) : (ofFaulty computation).Gives rig value rig [] := by
  subst h
  exact ⟨[], rfl, rfl⟩

theorem gives_memory (rig : Rig σ τ) : memory.Gives rig rig.machine.memory rig [] :=
  ⟨[], rfl, rfl⟩

theorem gives_encoding [Surface τ] (rig : Rig σ τ) :
    encoding.Gives rig (Surface.encoding rig.display) rig [] := ⟨[], rfl, rfl⟩

theorem gives_readStopwatch (rig : Rig σ τ) :
    readStopwatch.Gives rig rig.stopwatch.read.1
      { rig with stopwatch := rig.stopwatch.read.2 } [] := ⟨[], rfl, rfl⟩

theorem gives_ask [NativeCore σ] {request : Request} {rig : Rig σ τ}
    {answer : Except Error request.Answer} {machine : Machine σ}
    (h : NativeCore.answer request rig.machine = .ok (answer, machine)) :
    (ask request).Gives rig answer { rig with machine } [.native request answer] :=
  ⟨[.native request answer], run_ask_eq_ok_iff.2 ⟨machine, h, rfl, rfl⟩, rfl⟩

theorem gives_present [Surface τ] {request : SurfaceRequest} {rig : Rig σ τ}
    {answer : Except HostError Unit} {display : τ}
    (h : request.perform rig.display = .ok (answer, display)) :
    (present request).Gives rig (answer.mapError .surface) { rig with display }
      [.surface request answer] :=
  ⟨[.surface request answer],
    run_present_eq_ok_iff.2 ⟨answer, display, h, rfl, rfl, rfl⟩, rfl⟩

end Act

end Handheld
