import Mathlib.Data.List.Basic
import Handheld.Guest.Sample

/-!
# Linking Is All or Nothing

What a core needs to be linked, said without the order in which it is looked for:

- `ExportTable.Offers`: a function of the right type is exported under a name;
- `Image.Initializer`, `Image.Starts`: the initializer that counts, and what its one call comes to;
- `Image.Links`: the four ways in which a link ends.

`link_binds_all_or_nothing` shows that a link ends in exactly these ways, so the first thing that is
wrong decides the error, and that it succeeds exactly if nothing is wrong.
-/

namespace Handheld

variable {σ : Type}

/-! ## §1 Exports

A table of exports says what belongs to a name.  The type is part of the question, so a name can be
taken and the function be missing all the same. -/

namespace ExportTable

/-- A function of the given type is exported under the name. -/
def Offers (table : ExportTable σ) (name : String) (signature : Signature) (body : Body σ) :
    Prop :=
  table.lookup name = some (.function signature body)

/-- A memory is exported under the name. -/
def OffersMemory (table : ExportTable σ) (name : String) : Prop :=
  table.lookup name = some .memory

variable {table : ExportTable σ} {name : String} {signature : Signature} {body : Body σ}

theorem body?_eq_some_iff :
    table.body? name signature = some body ↔ table.Offers name signature body := by
  unfold body? Offers
  split
  · next actual other found =>
    -- The name belongs to a function, whose type may be another one.
    rw [found]
    by_cases same : actual = signature
    · subst same
      simp only [if_pos, Option.some.injEq, Export.function.injEq, true_and]
    · rw [if_neg same]
      simp only [reduceCtorEq, Option.some.injEq, Export.function.injEq, same, false_and]
  -- The name belongs to a memory or to nothing at all.
  · next other =>
    constructor
    · intro h
      cases h
    · intro found
      exact absurd found (other signature body)

theorem body?_eq_none_iff :
    table.body? name signature = none ↔ ∀ body, ¬ table.Offers name signature body := by
  simp only [Option.eq_none_iff_forall_ne_some, ne_eq, body?_eq_some_iff]

theorem hasMemory_iff : table.hasMemory name = true ↔ table.OffersMemory name := by
  unfold hasMemory OffersMemory
  split
  · next found => simp only [found]
  · next other => simpa using other

end ExportTable

namespace Image

/-! ## §2 The initializer

There are two names that an initializer may have.  The one that counts runs before anything is
looked up, and its trap ends the link. -/

/-- The initializer of a core: a function that takes and gives nothing, exported under the first
name, or under the second if there is none under the first. -/
inductive Initializer (image : Image σ) : String → Body σ → Prop
  | first {body : Body σ} (offered : image.exports.Offers "_initialize" .initializer body) :
      Initializer image "_initialize" body
  | second {body : Body σ}
      (absent : ∀ other, ¬ image.exports.Offers "_initialize" .initializer other)
      (offered : image.exports.Offers "__wasm_call_ctors" .initializer body) :
      Initializer image "__wasm_call_ctors" body

/-- What the start of a core comes to, with the diagnostics of it: the machine on which everything
else is looked up, or the trap that ends the link. -/
inductive Starts (image : Image σ) : List Diagnostic → Except Trap (Machine σ) → Prop
  | bare (absent : ∀ name body, ¬ image.Initializer name body) :
      Starts image [] (.ok image.machine)
  | returned {name : String} {body : Body σ} {word : UInt32} {machine : Machine σ}
      (initializer : image.Initializer name body)
      (call : body [] image.machine = (.ok word, machine)) :
      Starts image [.running name] (.ok machine)
  | trapped {name : String} {body : Body σ} {trap : Trap} {machine : Machine σ}
      (initializer : image.Initializer name body)
      (call : body [] image.machine = (.error trap, machine)) :
      Starts image [.running name] (.error trap)

variable {image : Image σ} {names : ExportNames}

theorem initializer?_eq_some_iff {name : String} {body : Body σ} :
    -- There are two names, so the search is a choice between them.
    image.initializer? = some (name, body) ↔ image.Initializer name body := by
  have unfolded : image.initializer? =
      match image.exports.body? "_initialize" .initializer with
      | some body => some ("_initialize", body)
      | none => (image.exports.body? "__wasm_call_ctors" .initializer).map
          fun body => ("__wasm_call_ctors", body) := by
    unfold initializer? initializerNames
    simp only [List.findSome?_cons, List.findSome?_nil]
    cases image.exports.body? "_initialize" .initializer with
    | some body => rfl
    | none => cases image.exports.body? "__wasm_call_ctors" .initializer <;> rfl
  rw [unfolded]
  constructor
  -- The second name counts only if nothing has been found under the first.
  · split
    · next first found =>
      rintro ⟨⟩
      exact .first (ExportTable.body?_eq_some_iff.1 found)
    · next absent =>
      rw [Option.map_eq_some_iff]
      rintro ⟨second, found, ⟨⟩⟩
      exact .second (ExportTable.body?_eq_none_iff.1 absent)
        (ExportTable.body?_eq_some_iff.1 found)
  · rintro (offered | ⟨absent, offered⟩)
    · rw [ExportTable.body?_eq_some_iff.2 offered]
    · rw [ExportTable.body?_eq_none_iff.2 absent, ExportTable.body?_eq_some_iff.2 offered]
      rfl

/-- An initializer of another type is passed over, although it has the first name. -/
example : (Sample.image .typedBoth {}).initializer?.map Prod.fst = some "__wasm_call_ctors" := by
  decide +kernel

theorem initializer?_eq_none_iff :
    image.initializer? = none ↔ ∀ name body, ¬ image.Initializer name body := by
  simp only [Option.eq_none_iff_forall_ne_some, ne_eq, Prod.forall, initializer?_eq_some_iff]

/-- Every core starts in one of these ways. -/
theorem exists_starts (image : Image σ) : ∃ notes start, image.Starts notes start := by
  cases found : image.initializer? with
  | none => exact ⟨_, _, .bare (initializer?_eq_none_iff.1 found)⟩
  | some entry =>
    obtain ⟨name, body⟩ := entry
    have initializer := initializer?_eq_some_iff.1 found
    rcases call : body [] image.machine with ⟨trap | word, machine⟩
    · exact ⟨_, _, .trapped initializer call⟩
    · exact ⟨_, _, .returned initializer call⟩

/-- A link starts the core first, and a trap ends it. -/
theorem Starts.link [Sandbox] {notes : List Diagnostic} {start : Except Trap (Machine σ)}
    (starts : image.Starts notes start) (names : ExportNames) :
    image.link names =
      ⟨(start.mapError fun trap => .native (Sandbox.trapText trap)).bind (image.resolve names),
        notes⟩ := by
  have started : image.initialized =
      ⟨start.mapError fun trap => .native (Sandbox.trapText trap), notes⟩ := by
    -- The machine of the start is the one that the call of the initializer has left behind.
    unfold Image.initialized
    cases starts with
    | bare absent =>
      rw [initializer?_eq_none_iff.2 absent]
      rfl
    | returned initializer call =>
      rw [initializer?_eq_some_iff.2 initializer]
      simp only [call]
      rfl
    | trapped initializer call =>
      rw [initializer?_eq_some_iff.2 initializer]
      simp only [call]
      rfl
  unfold Image.link
  rw [started]

/-! ## §3 The functions

The functions are looked for in a fixed order, and the first that is missing decides the error. -/

/-- The core has the function under its name and with its type. -/
def Has (image : Image σ) (names : ExportNames) (function : NativeFunction) (body : Body σ) :
    Prop :=
  image.exports.Offers (names.name function) function.signature body

theorem function?_eq_some_iff {function : NativeFunction} {body : Body σ} :
    image.function? names function = some body ↔ image.Has names function body :=
  ExportTable.body?_eq_some_iff

theorem isNone_function?_iff {function : NativeFunction} :
    (image.function? names function).isNone ↔ ∀ body, ¬ image.Has names function body := by
  rw [Option.isNone_iff_eq_none]
  exact ExportTable.body?_eq_none_iff

theorem not_isNone_function?_iff {function : NativeFunction} :
    (!(image.function? names function).isNone) = true ↔ ∃ body, image.Has names function body := by
  rw [Bool.not_eq_true', Bool.eq_false_iff, ne_eq, isNone_function?_iff]
  push Not
  rfl

/-- The function that is missing is the first one in the order of the search. -/
theorem missing?_eq_some_iff {function : NativeFunction} :
    image.missing? names = some function ↔
      ∃ before after, NativeFunction.all = before ++ function :: after ∧
        (∀ earlier ∈ before, ∃ body, image.Has names earlier body) ∧
        ∀ body, ¬ image.Has names function body := by
  unfold missing?
  rw [List.find?_eq_some_iff_append]
  simp only [isNone_function?_iff, not_isNone_function?_iff]
  constructor
  · rintro ⟨absent, before, after, split, offered⟩
    exact ⟨before, after, split, offered, absent⟩
  · rintro ⟨before, after, split, offered, absent⟩
    exact ⟨absent, before, after, split, offered⟩

theorem missing?_eq_none_iff :
    image.missing? names = none ↔ ∀ function, ∃ body, image.Has names function body := by
  have listed (function : NativeFunction) : function ∈ NativeFunction.all := by
    cases function <;> decide
  unfold missing?
  simp only [List.find?_eq_none, isNone_function?_iff, not_forall, not_not, listed, forall_const]

/-! ## §4 The link

`Links` lists the four ends, each with its conditions on the image alone.  Each comes about, and
every image has one of them; so the link is determined, and the equivalence follows. -/

variable [Sandbox]

/-- How a link ends, in the order in which things can go wrong.  What the sandbox says about a trap
or about a failed lookup stands in the error word for word. -/
inductive Links (image : Image σ) (names : ExportNames) :
    Noted (Except Error (Machine (Linked σ))) → Prop
  | trapped {notes : List Diagnostic} {trap : Trap} (starts : image.Starts notes (.error trap)) :
      Links image names ⟨.error (.native (Sandbox.trapText trap)), notes⟩
  | noMemory {notes : List Diagnostic} {machine : Machine σ}
      (starts : image.Starts notes (.ok machine))
      (absent : ¬ image.exports.OffersMemory "memory") :
      Links image names ⟨.error (.native "core has no exported memory"), notes⟩
  /-- All functions that are looked for before this one are there. -/
  | missing {notes : List Diagnostic} {machine : Machine σ} {function : NativeFunction}
      {before after : List NativeFunction}
      (starts : image.Starts notes (.ok machine))
      (memory : image.exports.OffersMemory "memory")
      (order : NativeFunction.all = before ++ function :: after)
      (offered : ∀ earlier ∈ before, ∃ body, image.Has names earlier body)
      (absent : ∀ body, ¬ image.Has names function body) :
      Links image names ⟨.error (.native ("export " ++ names.name function ++ ": " ++
        Sandbox.lookupText (names.name function) (image.exports.type? (names.name function))
          function.signature)), notes⟩
  /-- The core goes on from where the initializer left it, with the functions it exports. -/
  | linked {notes : List Diagnostic} {machine : Machine σ} {body : NativeFunction → Body σ}
      (starts : image.Starts notes (.ok machine))
      (memory : image.exports.OffersMemory "memory")
      (offered : ∀ function, image.Has names function (body function)) :
      Links image names ⟨.ok ⟨machine.memory, machine.state, body⟩, notes⟩

theorem resolve_of_no_memory (absent : ¬ image.exports.OffersMemory memoryName)
    (machine : Machine σ) :
    image.resolve names machine = .error (.native "core has no exported memory") := by
  unfold resolve
  rw [if_neg (mt ExportTable.hasMemory_iff.1 absent)]
  rfl

theorem resolve_of_missing {function : NativeFunction}
    (memory : image.exports.OffersMemory memoryName)
    (missing : image.missing? names = some function) (machine : Machine σ) :
    image.resolve names machine = .error (image.lookupError names function) := by
  unfold resolve
  rw [if_pos (ExportTable.hasMemory_iff.2 memory), missing]

theorem resolve_of_offered {body : NativeFunction → Body σ}
    (memory : image.exports.OffersMemory memoryName)
    (offered : ∀ function, image.Has names function (body function)) (machine : Machine σ) :
    image.resolve names machine = .ok ⟨machine.memory, machine.state, body⟩ := by
  -- With every function in place the search for a missing one finds nothing.
  have none_missing : image.missing? names = none :=
    missing?_eq_none_iff.2 fun function => ⟨body function, offered function⟩
  have found (function : NativeFunction) :
      image.function? names function = some (body function) :=
    function?_eq_some_iff.2 (offered function)
  unfold resolve
  rw [if_pos (ExportTable.hasMemory_iff.2 memory), none_missing]
  simp only [found, Option.getD_some]

theorem Links.link {result : Noted (Except Error (Machine (Linked σ)))}
    (links : image.Links names result) : image.link names = result := by
  cases links with
  | trapped starts => exact starts.link names
  | noMemory starts absent =>
    rw [starts.link names]
    exact congrArg (Noted.mk · _) (resolve_of_no_memory absent _)
  | missing starts memory order offered absent =>
    have missing := missing?_eq_some_iff.2 ⟨_, _, order, offered, absent⟩
    rw [starts.link names]
    exact congrArg (Noted.mk · _) (resolve_of_missing memory missing _)
  | linked starts memory offered =>
    rw [starts.link names]
    exact congrArg (Noted.mk · _) (resolve_of_offered memory offered _)

/-- Every link ends in one of the four ways. -/
theorem exists_links (image : Image σ) (names : ExportNames) :
    ∃ result, image.Links names result := by
  -- The core starts in some way; if that is no trap, the memory is looked for and then the
  -- functions.
  obtain ⟨notes, start, starts⟩ := image.exists_starts
  cases start with
  | error trap => exact ⟨_, .trapped starts⟩
  | ok machine =>
    by_cases memory : image.exports.OffersMemory "memory"
    · cases missing : image.missing? names with
      | some function =>
        obtain ⟨before, after, order, offered, absent⟩ := missing?_eq_some_iff.1 missing
        exact ⟨_, .missing starts memory order offered absent⟩
      | none =>
        -- The bodies are chosen all at once, one for every function.
        choose body offered using missing?_eq_none_iff.1 missing
        exact ⟨_, .linked starts memory offered⟩
    · exact ⟨_, .noMemory starts memory⟩

theorem link_eq_iff {result : Noted (Except Error (Machine (Linked σ)))} :
    image.link names = result ↔ image.Links names result := by
  constructor
  · rintro rfl
    obtain ⟨result, links⟩ := image.exists_links names
    rwa [links.link]
  · exact Links.link

/-- A core is linked if nothing at all is wrong. -/
theorem link_succeeds_iff :
    (∃ machine, (image.link names).value = .ok machine) ↔
      (∀ notes trap, ¬ image.Starts notes (.error trap)) ∧
        image.exports.OffersMemory "memory" ∧
        ∀ function, ∃ body, image.Has names function body := by
  constructor
  · rintro ⟨machine, linked⟩
    -- Of the four ways to end, a success is only the last one.
    have links := link_eq_iff.1 (rfl : image.link names = image.link names)
    rw [show image.link names = ⟨.ok machine, (image.link names).notes⟩ by rw [← linked]] at links
    cases links with
    | linked starts memory offered =>
      refine ⟨fun notes trap trapped => ?_, memory, fun function => ⟨_, offered function⟩⟩
      rw [trapped.link names] at linked
      cases linked
  · rintro ⟨untrapped, memory, offered⟩
    obtain ⟨notes, start, starts⟩ := image.exists_starts
    cases start with
    | error trap => exact absurd starts (untrapped notes trap)
    | ok machine =>
      choose body has using offered
      exact ⟨_, congrArg Noted.value (Links.linked starts memory has).link⟩

/-- A link reports the initializer that it runs, and nothing else. -/
theorem link_notes (image : Image σ) (names : ExportNames) :
    (image.link names).notes = [] ∧ (∀ name body, ¬ image.Initializer name body) ∨
      ∃ name body, image.Initializer name body ∧ (image.link names).notes = [.running name] := by
  obtain ⟨notes, start, starts⟩ := image.exists_starts
  have same : (image.link names).notes = notes := by rw [starts.link names]
  rw [same]
  cases starts with
  | bare absent => exact .inl ⟨rfl, absent⟩
  | returned initializer _ => exact .inr ⟨_, _, initializer, rfl⟩
  | trapped initializer _ => exact .inr ⟨_, _, initializer, rfl⟩

/-- A link runs at most one initializer, before it looks for anything else, and binds the whole core
or nothing.  What is wrong first, in the order of `Links`, is its error. -/
theorem link_binds_all_or_nothing (image : Image σ) (names : ExportNames) :
    (∀ result, image.link names = result ↔ image.Links names result) ∧
      ((∃ machine, (image.link names).value = .ok machine) ↔
        (∀ notes trap, ¬ image.Starts notes (.error trap)) ∧
          image.exports.OffersMemory "memory" ∧
          ∀ function, ∃ body, image.Has names function body) ∧
      ((image.link names).notes = [] ∧ (∀ name body, ¬ image.Initializer name body) ∨
        ∃ name body, image.Initializer name body ∧
          (image.link names).notes = [.running name]) :=
  ⟨fun _ => link_eq_iff, link_succeeds_iff, image.link_notes names⟩

end Image

end Handheld
