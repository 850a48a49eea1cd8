import Handheld.Session.Region

/-!
# The Protocol of a Native Core

Seen from a native core, a run of the controller is a list of calls.  This module says which
lists of calls keep to the protocol, in two ways:

- `Disciplined` says what every single call may refer to, given all the calls before it;
- `Phase` is a machine that reads the calls one by one, and a list of calls that the machine can
  read to its end from `Phase.idle` is disciplined (`disciplined_of_steps`).

The first is what a core relies on.  The second is what the controller is shown to do, one
function at a time.
-/

namespace Handheld

/-! ## §1 Native calls -/

/-- A call into the native core, with its answer. -/
structure NativeCall where
  request : Request
  answer : Except Error request.Answer

/-- The calls of a run into the native core, in order. -/
def Journal.calls (journal : Journal) : List NativeCall :=
  journal.filterMap fun
    | .native request answer => some ⟨request, answer⟩
    | _ => none

@[simp] theorem Journal.calls_nil : Journal.calls [] = [] := rfl

@[simp] theorem Journal.calls_append (first second : Journal) :
    Journal.calls (first ++ second) = Journal.calls first ++ Journal.calls second :=
  List.filterMap_append ..

@[simp] theorem Journal.calls_native (request : Request) (answer : Except Error request.Answer) :
    Journal.calls [.native request answer] = [⟨request, answer⟩] := rfl

/-- Diagnostics are no calls. -/
@[simp] theorem Journal.calls_notes (notes : List Diagnostic) :
    Journal.calls (notes.map .diagnostic) = [] := by
  induction notes with
  | nil => rfl
  | cons note notes ih => exact ih

/-- The instance that a request is for, if it is for one. -/
def Request.handle? : Request → Option Handle
  | .destroy handle | .step handle _ | .screenPointer handle | .screenWidth handle
  | .screenHeight handle | .setButtonState handle _ _ => some handle
  | .malloc _ | .free _ | .create _ _ => none

/-! ## §2 Disciplined runs

Discipline is a matter of all the calls before a call: which block they have given, which
instance they have created, and what has become of all others. -/

/-- Every instance that the calls have created has met its fate in a later call. -/
def EveryInstance (fate : Handle → NativeCall → Prop) (calls : List NativeCall) : Prop :=
  ∀ older rom len handle newer,
    calls = older ++ ⟨.create rom len, .ok (some handle)⟩ :: newer →
    ∃ call ∈ newer, fate handle call

/-- Every instance that the calls have created has had its destruction attempted. -/
def Settled : List NativeCall → Prop :=
  EveryInstance fun handle call => call.request = .destroy handle

/-- Every instance that the calls have created has been destroyed. -/
def Destroyed : List NativeCall → Prop :=
  EveryInstance fun handle call => call = ⟨.destroy handle, .ok ()⟩

/-- The calls of a run keep to the protocol, every one of them after the calls before it.  A
block is known by the `malloc` call that gave it. -/
structure Disciplined (calls : List NativeCall) : Prop where
  /-- A call for an instance is for the one that the most recent `create` call gave, and no
  destruction has been attempted since. -/
  current : ∀ before call after handle, calls = before ++ call :: after →
    call.request.handle? = some handle →
    ∃ older rom len newer, before = older ++ ⟨.create rom len, .ok (some handle)⟩ :: newer ∧
      ∀ later ∈ newer, later.request.function ≠ .create ∧ later.request.function ≠ .destroy
  /-- An instance is created only while no other is there, from the block that has just been
  given. -/
  alone : ∀ before rom len answer after, calls = before ++ ⟨.create rom len, answer⟩ :: after →
    Settled before ∧ ∃ older, before = older ++ [⟨.malloc len, .ok rom⟩]
  /-- What is given back is the block of the most recent `malloc` call, which no call has given
  back since; and an instance created since then has been destroyed. -/
  owned : ∀ before addr answer after, calls = before ++ ⟨.free addr, answer⟩ :: after →
    addr ≠ 0 ∧ ∃ older len newer, before = older ++ ⟨.malloc len, .ok addr⟩ :: newer ∧
      (∀ later ∈ newer, later.request.function ≠ .malloc ∧ later.request.function ≠ .free) ∧
      Destroyed newer

/-! ## §3 Phases

A phase remembers a block and an instance at most.  `Step` has one constructor for each answer of
each call, so a proof about the protocol is a proof by cases on it. -/

/-- Where a run stands: which block and which instance are in the controller's hands. -/
inductive Phase
  /-- Nothing is. -/
  | idle
  /-- A block that has just been given. -/
  | holding (block : Region)
  /-- An instance and the block that it was created from. -/
  | running (block : Region) (handle : Handle)
  /-- A block that no instance uses and none will. -/
  | vacated (block : Region)

namespace Phase

/-- The calls that are allowed in a phase, and the phase that their answers lead to. -/
inductive Step : Phase → NativeCall → Phase → Prop
  /-- There is no block. -/
  | exhausted (len : UInt32) : Step .idle ⟨.malloc len, .ok 0⟩ .idle
  | mallocFailed (len : UInt32) (cause : Error) : Step .idle ⟨.malloc len, .error cause⟩ .idle
  | given (block : Region) : Step .idle ⟨.malloc block.len, .ok block.addr⟩ (.holding block)
  /-- The block turns out to be misplaced. -/
  | returned (block : Region) (answer : Except Error Unit) :
      Step (.holding block) ⟨.free block.addr, answer⟩ .idle
  /-- The rom is refused. -/
  | refused (block : Region) :
      Step (.holding block) ⟨.create block.addr block.len, .ok none⟩ (.vacated block)
  | createFailed (block : Region) (cause : Error) :
      Step (.holding block) ⟨.create block.addr block.len, .error cause⟩ (.vacated block)
  | created (block : Region) (handle : Handle) :
      Step (.holding block) ⟨.create block.addr block.len, .ok (some handle)⟩
        (.running block handle)
  | used {request : Request} {handle : Handle} (block : Region)
      (answer : Except Error request.Answer) (carried : request.handle? = some handle)
      (kept : request.function ≠ .destroy) :
      Step (.running block handle) ⟨request, answer⟩ (.running block handle)
  | destroyed (block : Region) (handle : Handle) :
      Step (.running block handle) ⟨.destroy handle, .ok ()⟩ (.vacated block)
  /-- The instance may still use the block, so the block is given up. -/
  | destroyFailed (block : Region) (handle : Handle) (cause : Error) :
      Step (.running block handle) ⟨.destroy handle, .error cause⟩ .idle
  | freed (block : Region) (answer : Except Error Unit) :
      Step (.vacated block) ⟨.free block.addr, answer⟩ .idle

/-- The phase that a list of calls leads to. -/
inductive Steps : Phase → List NativeCall → Phase → Prop
  | nil (phase : Phase) : Steps phase [] phase
  | cons {before middle after : Phase} {call : NativeCall} {calls : List NativeCall} :
      Step before call middle → Steps middle calls after → Steps before (call :: calls) after

theorem Steps.single {before after : Phase} {call : NativeCall} (step : Step before call after) :
    Steps before [call] after :=
  .cons step (.nil after)

theorem Steps.append {before middle after : Phase} {first second : List NativeCall}
    (left : Steps before first middle) (right : Steps middle second after) :
    Steps before (first ++ second) after := by
  induction left with
  | nil => exact right
  | cons step _ ih => exact .cons step (ih right)

theorem Steps.split {before after : Phase} {first second : List NativeCall} {call : NativeCall}
    (steps : Steps before (first ++ call :: second) after) :
    ∃ here there, Steps before first here ∧ Step here call there ∧ Steps there second after := by
  induction first generalizing before with
  | nil =>
    cases steps with
    | cons step rest => exact ⟨before, _, .nil before, step, rest⟩
  | cons head first ih =>
    cases steps with
    | cons step rest =>
      obtain ⟨here, there, left, middle, right⟩ := ih rest
      exact ⟨here, there, .cons step left, middle, right⟩

end Phase

/-! ## §4 Fates

The fate of an instance is a call that comes later.  As calls are added at the end, a fate that has
been met stays met. -/

section Fates

variable {fate : Handle → NativeCall → Prop}

theorem everyInstance_nil : EveryInstance fate [] := by
  intro older rom len handle newer h
  simp at h

theorem everyInstance_cons {call : NativeCall} {calls : List NativeCall}
    (met : ∀ rom len handle, call = ⟨.create rom len, .ok (some handle)⟩ →
      ∃ later ∈ calls, fate handle later)
    (rest : EveryInstance fate calls) : EveryInstance fate (call :: calls) := by
  intro older rom len handle newer h
  cases older with
  | nil =>
    -- The instance is the one that the first call creates.
    simp only [List.nil_append, List.cons.injEq] at h
    obtain ⟨rfl, rfl⟩ := h
    exact met rom len handle rfl
  | cons head older =>
    simp only [List.cons_append, List.cons.injEq] at h
    -- The creation lies further back, among the remaining calls.
    exact rest older rom len handle newer h.2

/-- A call that creates no instance changes nothing. -/
theorem everyInstance_cons_of_ne {call : NativeCall} {calls : List NativeCall}
    (other : call.request.function ≠ .create) (rest : EveryInstance fate calls) :
    EveryInstance fate (call :: calls) := by
  refine everyInstance_cons ?_ rest
  intro rom len handle creates
  subst creates
  exact absurd rfl other

theorem everyInstance_of_ne_create {calls : List NativeCall}
    (others : ∀ call ∈ calls, call.request.function ≠ .create) : EveryInstance fate calls := by
  induction calls with
  | nil => exact everyInstance_nil
  | cons call calls ih =>
    refine everyInstance_cons_of_ne (others call (List.mem_cons_self ..)) (ih ?_)
    intro later member
    exact others later (List.mem_cons_of_mem _ member)

theorem EveryInstance.tail {call : NativeCall} {calls : List NativeCall}
    (every : EveryInstance fate (call :: calls)) : EveryInstance fate calls := by
  intro older rom len handle newer h
  exact every (call :: older) rom len handle newer (by rw [h, List.cons_append])

theorem EveryInstance.append {first second : List NativeCall} (left : EveryInstance fate first)
    (right : EveryInstance fate second) : EveryInstance fate (first ++ second) := by
  induction first with
  | nil => exact right
  | cons call first ih =>
    refine everyInstance_cons ?_ (ih left.tail)
    intro rom len handle first_call
    subst first_call
    obtain ⟨later, member, h⟩ := left [] rom len handle first rfl
    exact ⟨later, List.mem_append_left _ member, h⟩

end Fates

theorem Destroyed.settled {calls : List NativeCall} (destroyed : Destroyed calls) :
    Settled calls := by
  intro older rom len handle newer h
  obtain ⟨call, member, rfl⟩ := destroyed older rom len handle newer h
  exact ⟨_, member, rfl⟩

/-- Only a request for an instance carries a handle. -/
theorem Request.function_ne_of_handle? {request : Request} {handle : Handle}
    (carried : request.handle? = some handle) :
    request.function ≠ .malloc ∧ request.function ≠ .free ∧ request.function ≠ .create := by
  cases request <;> simp_all [Request.handle?, Request.function]

/-! ## §5 The history of a phase

What a phase remembers is true of the calls that have led to it; this is the invariant that connects
the machine to the list. -/

namespace Phase

/-- What the calls so far have been when a run is in a phase. -/
def History : Phase → List NativeCall → Prop
  | .idle, calls => Settled calls
  | .holding block, calls =>
    ∃ older, Settled older ∧ calls = older ++ [⟨.malloc block.len, .ok block.addr⟩]
  | .running block handle, calls =>
    ∃ older uses, Settled older ∧
      calls = older ++ ⟨.malloc block.len, .ok block.addr⟩ ::
        ⟨.create block.addr block.len, .ok (some handle)⟩ :: uses ∧
      ∀ call ∈ uses, call.request.handle? = some handle ∧ call.request.function ≠ .destroy
  | .vacated block, calls =>
    ∃ older newer, Settled older ∧
      calls = older ++ ⟨.malloc block.len, .ok block.addr⟩ :: newer ∧
      (∀ call ∈ newer, call.request.function ≠ .malloc ∧ call.request.function ≠ .free) ∧
      Destroyed newer

end Phase

theorem Settled.concat {calls : List NativeCall} {call : NativeCall} (settled : Settled calls)
    (other : call.request.function ≠ .create) : Settled (calls ++ [call]) :=
  settled.append (everyInstance_cons_of_ne other everyInstance_nil)

/-- The uses of an instance create none. -/
private theorem uses_everyInstance {fate : Handle → NativeCall → Prop} {handle : Handle}
    {uses : List NativeCall}
    (used : ∀ call ∈ uses, call.request.handle? = some handle ∧ call.request.function ≠ .destroy) :
    EveryInstance fate uses :=
  everyInstance_of_ne_create fun call member =>
    (Request.function_ne_of_handle? (used call member).1).2.2

/-- A created instance, its uses, and the call that meets its fate. -/
private theorem everyInstance_lifetime {fate : Handle → NativeCall → Prop} {handle : Handle}
    {rom len : UInt32} {uses : List NativeCall} {last : NativeCall}
    (used : ∀ call ∈ uses, call.request.handle? = some handle ∧ call.request.function ≠ .destroy)
    (met : fate handle last) (other : last.request.function ≠ .create) :
    EveryInstance fate (⟨.create rom len, .ok (some handle)⟩ :: (uses ++ [last])) := by
  refine everyInstance_cons ?_ ?_
  -- The instance in question can only be the one created first, because its uses create none.
  · intro rom' len' handle' h
    have same : handle = handle' := by
      injection h with request answer
      injection request with hrom hlen
      subst hrom hlen
      simpa using answer
    exact ⟨last, by simp, same ▸ met⟩
  · exact (uses_everyInstance used).append (everyInstance_cons_of_ne other everyInstance_nil)

namespace Phase

/-- What the calls have been stays true from one call to the next. -/
theorem Step.history {before after : Phase} {call : NativeCall} {calls : List NativeCall}
    (step : Step before call after) (history : History before calls) :
    History after (calls ++ [call]) := by
  cases step with
  -- Where nothing has been given or created, everything is as settled as before.
  | exhausted len => exact Settled.concat history (by simp [Request.function])
  | mallocFailed len cause => exact Settled.concat history (by simp [Request.function])
  | given block => exact ⟨calls, history, rfl⟩
  -- The block goes back before any instance has been created from it.
  | returned block answer =>
    obtain ⟨older, settled, rfl⟩ := history
    exact (settled.concat (by simp [Request.function])).concat (by simp [Request.function])
  -- No instance has come of the block, so there is none to be destroyed before it goes back.
  | refused block =>
    obtain ⟨older, settled, rfl⟩ := history
    refine ⟨older, [⟨.create block.addr block.len, .ok none⟩], settled, by simp,
      by simp [Request.function], ?_⟩
    exact everyInstance_cons (by simp) everyInstance_nil
  | createFailed block cause =>
    obtain ⟨older, settled, rfl⟩ := history
    refine ⟨older, [⟨.create block.addr block.len, .error cause⟩], settled, by simp,
      by simp [Request.function], ?_⟩
    exact everyInstance_cons (by simp) everyInstance_nil
  -- Everything before the new instance is settled, and it has not been used yet.
  | created block handle =>
    obtain ⟨older, settled, rfl⟩ := history
    exact ⟨older, [], settled, by simp, by simp⟩
  | @used request handle block answer carried kept =>
    obtain ⟨older, uses, settled, rfl, used⟩ := history
    refine ⟨older, uses ++ [⟨request, answer⟩], settled, by simp, ?_⟩
    intro later member
    rcases List.mem_append.mp member with member | member
    · exact used later member
    · obtain rfl := List.mem_singleton.mp member
      exact ⟨carried, kept⟩
  | destroyed block handle =>
    -- The destruction meets the fate of the instance, and nothing else has been created since.
    obtain ⟨older, uses, settled, rfl, used⟩ := history
    refine ⟨older, ⟨.create block.addr block.len, .ok (some handle)⟩ ::
        (uses ++ [⟨.destroy handle, .ok ()⟩]), settled, by simp, ?_,
      everyInstance_lifetime used rfl (by simp [Request.function])⟩
    intro later member
    rcases List.mem_cons.mp member with rfl | member
    · simp [Request.function]
    rcases List.mem_append.mp member with member | member
    · have others := Request.function_ne_of_handle? (used later member).1
      exact ⟨others.1, others.2.1⟩
    · obtain rfl := List.mem_singleton.mp member
      simp [Request.function]
  | destroyFailed block handle cause =>
    -- The attempt settles the instance, although it has failed.
    obtain ⟨older, uses, settled, rfl, used⟩ := history
    have lifetime : Settled (⟨.create block.addr block.len, .ok (some handle)⟩ ::
        (uses ++ [⟨.destroy handle, .error cause⟩])) :=
      everyInstance_lifetime used rfl (by simp [Request.function])
    have newer : Settled (⟨.malloc block.len, .ok block.addr⟩ ::
        ⟨.create block.addr block.len, .ok (some handle)⟩ ::
        (uses ++ [⟨.destroy handle, .error cause⟩])) :=
      everyInstance_cons_of_ne (by simp [Request.function]) lifetime
    show Settled _
    simpa [Settled] using settled.append newer
  -- What has been created since the block was given is destroyed, hence settled as well.
  | freed block answer =>
    obtain ⟨older, newer, settled, rfl, -, destroyed⟩ := history
    have block_settled : Settled (⟨.malloc block.len, .ok block.addr⟩ :: newer) :=
      everyInstance_cons_of_ne (by simp [Request.function]) destroyed.settled
    exact Settled.concat (settled.append block_settled) (by simp [Request.function])

theorem Steps.history {before after : Phase} {done calls : List NativeCall}
    (steps : Steps before calls after) (history : History before done) :
    History after (done ++ calls) := by
  -- A step adds its call to those that have been made, so these vary in the induction.
  induction steps generalizing done with
  | nil => simpa using history
  | cons step _ ih =>
    have next := ih (step.history history)
    simpa using next

/-! ## §6 What a phase allows is disciplined

A step is allowed in a phase only if the phase remembers what the call refers to, and the history of
the phase then says that the call may refer to it. -/

/-- In the phase before a call for an instance that instance is running. -/
theorem Step.current {before after : Phase} {call : NativeCall} {calls : List NativeCall}
    {handle : Handle} (step : Step before call after) (history : History before calls)
    (carried : call.request.handle? = some handle) :
    ∃ older rom len newer, calls = older ++ ⟨.create rom len, .ok (some handle)⟩ :: newer ∧
      ∀ later ∈ newer, later.request.function ≠ .create ∧ later.request.function ≠ .destroy := by
  -- No other phase allows a call that carries a handle.
  have running : ∃ block, before = .running block handle := by
    cases step <;> simp_all [Request.handle?]
  obtain ⟨block, rfl⟩ := running
  obtain ⟨older, uses, -, rfl, used⟩ := history
  refine ⟨older ++ [⟨.malloc block.len, .ok block.addr⟩], block.addr, block.len, uses,
    by simp, ?_⟩
  intro later member
  exact ⟨(Request.function_ne_of_handle? (used later member).1).2.2, (used later member).2⟩

/-- In the phase before an instance is created its block has just been given. -/
theorem Step.alone {before after : Phase} {calls : List NativeCall} {rom len : UInt32}
    {answer : Except Error (Option Handle)} (step : Step before ⟨.create rom len, answer⟩ after)
    (history : History before calls) :
    Settled calls ∧ ∃ older, calls = older ++ [⟨.malloc len, .ok rom⟩] := by
  -- Only a block that has just been given may become an instance.
  have holding : ∃ block, before = .holding block ∧ rom = block.addr ∧ len = block.len := by
    cases step <;> simp_all [Request.handle?]
  obtain ⟨block, rfl, rfl, rfl⟩ := holding
  obtain ⟨older, settled, rfl⟩ := history
  exact ⟨settled.concat (by simp [Request.function]), older, rfl⟩

/-- In the phase before a block is given back it is in the controller's hands, and no instance
uses it. -/
theorem Step.owned {before after : Phase} {calls : List NativeCall} {addr : UInt32}
    {answer : Except Error Unit} (step : Step before ⟨.free addr, answer⟩ after)
    (history : History before calls) :
    addr ≠ 0 ∧ ∃ older len newer, calls = older ++ ⟨.malloc len, .ok addr⟩ :: newer ∧
      (∀ later ∈ newer, later.request.function ≠ .malloc ∧ later.request.function ≠ .free) ∧
      Destroyed newer := by
  -- A block is given back unused or after the destruction of its instance.
  cases step with
  | returned block =>
    obtain ⟨older, -, rfl⟩ := history
    exact ⟨block.addr_ne_zero, older, block.len, [], by simp, by simp, everyInstance_nil⟩
  | used block answer carried => simp [Request.handle?] at carried
  | freed block =>
    obtain ⟨older, newer, -, rfl, others, destroyed⟩ := history
    exact ⟨block.addr_ne_zero, older, block.len, newer, by simp, others, destroyed⟩

/-- Calls that can be read from the first phase on keep to the protocol. -/
theorem disciplined_of_steps {calls : List NativeCall} {after : Phase}
    (steps : Steps .idle calls after) : Disciplined calls where
  current := by
    -- The steps up to a call give its history, and the call is made in the phase that they lead to.
    intro before call rest handle split carried
    subst split
    obtain ⟨here, there, left, step, -⟩ := steps.split
    exact step.current (left.history everyInstance_nil) carried
  alone := by
    intro before rom len answer rest split
    subst split
    obtain ⟨here, there, left, step, -⟩ := steps.split
    exact step.alone (left.history everyInstance_nil)
  owned := by
    intro before addr answer rest split
    subst split
    obtain ⟨here, there, left, step, -⟩ := steps.split
    exact step.owned (left.history everyInstance_nil)

end Phase

end Handheld
