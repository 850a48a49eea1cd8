import Handheld.Proofs.Session.Execution
import Handheld.Session.Lifecycle

/-!
# Runs Side by Side

Two runs of acts that do the same, from rigs that are alike: their machines are in a relation
which no answer of the core and no access to native memory can tell, their displays are equal, and
their stopwatches may show anything.  `Act.Alike` says of two acts that they have the same journal
then and leave rigs behind that are alike again, or that the same interruption ends both.  The
values they give are in a relation of their own.

§3 goes through the operations that load and unload a rom.  None of them reads the stopwatch, so
they give the same from rigs that are alike.
-/

namespace Handheld

/-! ## §1 What is alike

The relation between the machines is a parameter.  It has to be kept by every answer and by every
access to memory, and machines that are related have to give the same answers. -/

/-- Both end with the same failure, or they give results that are related. -/
inductive Agree {ε α β : Type} (related : α → β → Prop) : Except ε α → Except ε β → Prop
  | ok {result : α} {twin : β} (results : related result twin) :
      Agree related (.ok result) (.ok twin)
  | error (cause : ε) : Agree related (.error cause) (.error cause)

theorem Agree.refl {ε α : Type} (result : Except ε α) : Agree Eq result result := by
  cases result with
  | ok => exact .ok rfl
  | error cause => exact .error cause

theorem Agree.mono {ε α β : Type} {related weaker : α → β → Prop} {first : Except ε α}
    {second : Except ε β} (agree : Agree related first second)
    (related_le : ∀ result twin, related result twin → weaker result twin) :
    Agree weaker first second := by
  cases agree with
  | ok results => exact .ok (related_le _ _ results)
  | error cause => exact .error cause

/-- Computations agree if their first parts and their second parts do. -/
theorem Agree.bind {ε α β α' β' : Type} {related : α → β → Prop} {results : α' → β' → Prop}
    {first : Except ε α} {second : Except ε β} {next : α → Except ε α'} {other : β → Except ε β'}
    (agree : Agree related first second)
    (then_agree : ∀ value twin, related value twin → Agree results (next value) (other twin)) :
    Agree results (first >>= next) (second >>= other) := by
  cases agree with
  | ok values => exact then_agree _ _ values
  | error cause => exact .error cause

variable {σ τ α β α' β' : Type}

/-- The relation between machines is one that neither a call nor an access to memory can tell. -/
structure Machine.Indistinct [NativeCore σ] (like : Machine σ → Machine σ → Prop) : Prop where
  memory : ∀ {machine twin}, like machine twin → machine.memory = twin.memory
  write : ∀ {machine twin}, like machine twin → ∀ memory,
    like { machine with memory } { twin with memory }
  answer : ∀ {machine twin}, like machine twin → ∀ request,
    Agree (fun reply other => reply.1 = other.1 ∧ like reply.2 other.2)
      (NativeCore.answer request machine) (NativeCore.answer request twin)

theorem Machine.indistinct_eq [NativeCore σ] : Indistinct (Eq (α := Machine σ)) where
  memory same := congrArg Machine.memory same
  write same memory := same ▸ rfl
  answer := by
    rintro machine _ rfl request
    cases NativeCore.answer request machine with
    | error fault => exact .error fault
    | ok reply => exact .ok ⟨rfl, rfl⟩

/-- The displays are the same and the machines are alike.  Nothing is said of the stopwatches. -/
structure Rig.Alike (like : Machine σ → Machine σ → Prop) (rig twin : Rig σ τ) : Prop where
  machine : like rig.machine twin.machine
  display : rig.display = twin.display

structure Outcome.Alike (like : Machine σ → Machine σ → Prop) (related : α → β → Prop)
    (outcome : Outcome σ τ α) (twin : Outcome σ τ β) : Prop where
  value : related outcome.value twin.value
  rig : outcome.rig.Alike like twin.rig
  journal : outcome.journal = twin.journal

namespace Act

/-- From rigs that are alike the acts do the same and lead to rigs that are alike. -/
def Alike (like : Machine σ → Machine σ → Prop) (related : α → β → Prop) (act : Act σ τ α)
    (twin : Act σ τ β) : Prop :=
  ∀ ⦃rig other⦄, rig.Alike like other →
    Agree (Outcome.Alike like related) (act.run rig) (twin.run other)

/-- The act cannot tell rigs that are alike. -/
def Blind (like : Machine σ → Machine σ → Prop) (act : Act σ τ α) : Prop := act.Alike like Eq act

/-! ## §2 The laws

One law for each act, and one for sequences: the second parts are compared for values that are
related. -/

variable {like : Machine σ → Machine σ → Prop} {related : α → β → Prop} {results : α' → β' → Prop}
  {act first : Act σ τ α} {twin second : Act σ τ β} {next : α → Act σ τ α'} {other : β → Act σ τ β'}

theorem Alike.mono {weaker : α → β → Prop} (alike : act.Alike like related twin)
    (related_le : ∀ value other, related value other → weaker value other) :
    act.Alike like weaker twin := fun _ _ rigs => (alike rigs).mono fun _ _ outcomes =>
  ⟨related_le _ _ outcomes.value, outcomes.rig, outcomes.journal⟩

/-- What is true of the values of both acts anyway may be used. -/
theorem Alike.ensures {knows : α → Prop} {knows_too : β → Prop}
    (alike : act.Alike like related twin) (ensures : act.Ensures knows)
    (twin_ensures : twin.Ensures knows_too) :
    act.Alike like (fun value other => related value other ∧ knows value ∧ knows_too other)
      twin := by
  intro rig other rigs
  have agree := alike rigs
  -- The runs agree in how they end, so there are two cases and not four.
  generalize hact : act.run rig = run, htwin : twin.run other = twin_run at agree ⊢
  cases agree with
  | error cut => exact .error cut
  | ok outcomes =>
    exact .ok ⟨⟨outcomes.value, ensures (.of_run hact), twin_ensures (.of_run htwin)⟩,
      outcomes.rig, outcomes.journal⟩

theorem Alike.bind (alike : first.Alike like related second)
    (then_alike : ∀ value twin, related value twin → (next value).Alike like results (other twin)) :
    (first >>= next).Alike like results (second >>= other) := by
  intro rig companion rigs
  rw [run_bind, run_bind]
  have agree := alike rigs
  -- A fault that ends the first acts is the same in both runs.
  generalize first.run rig = run, second.run companion = twin_run at agree ⊢
  cases agree with
  | error cut => exact .error cut
  | @ok middle twin_middle outcomes =>
    have agree := then_alike _ _ outcomes.value outcomes.rig
    dsimp only
    generalize (next middle.value).run middle.rig = run,
      (other twin_middle.value).run twin_middle.rig = twin_run at agree ⊢
    -- Both journals go on in the same way.
    rw [outcomes.journal]
    cases agree with
    | error cut => exact .error _
    | ok last => exact .ok ⟨last.value, last.rig, congrArg _ last.journal⟩

theorem alike_pure {value : α} {given : β} (same : related value given) :
    (pure value : Act σ τ α).Alike like related (pure given) :=
  fun _ _ rigs => .ok ⟨same, rigs, rfl⟩

theorem alike_ofFaulty {computation : Faulty α} {companion : Faulty β}
    (agree : Agree related computation companion) :
    (ofFaulty computation : Act σ τ α).Alike like related (ofFaulty companion) := by
  intro rig other rigs
  cases agree with
  | ok results => exact .ok ⟨results, rigs, rfl⟩
  | error fault => exact .error _

theorem alike_ofNoted {noted : Noted α} {companion : Noted β}
    (values : related noted.value companion.value) (notes : noted.notes = companion.notes) :
    (ofNoted noted : Act σ τ α).Alike like related (ofNoted companion) :=
  fun _ _ rigs => .ok ⟨values, rigs, congrArg _ notes⟩

/-- The readings of two stopwatches have nothing to do with each other. -/
theorem alike_readStopwatch :
    (readStopwatch : Act σ τ Nat).Alike like (fun _ _ => True) readStopwatch :=
  fun _ _ rigs => .ok ⟨trivial, ⟨rigs.machine, rigs.display⟩, rfl⟩

theorem Blind.bind {next : α → Act σ τ β} (blind : act.Blind like)
    (then_blind : ∀ value, (next value).Blind like) : (act >>= next).Blind like := by
  refine Alike.bind blind ?_
  rintro value _ rfl
  exact then_blind value

theorem blind_pure (value : α) : (pure value : Act σ τ α).Blind like := alike_pure rfl

theorem blind_note (diagnostic : Diagnostic) : (note diagnostic : Act σ τ Unit).Blind like :=
  fun _ _ rigs => .ok ⟨rfl, rigs, rfl⟩

theorem blind_noteError (result : Except Error α) (diagnostic : Error → Diagnostic) :
    (noteError result diagnostic : Act σ τ Unit).Blind like := by
  cases result with
  | ok => exact blind_pure ()
  | error cause => exact blind_note (diagnostic cause)

theorem blind_encoding [Surface τ] : (encoding : Act σ τ PixelEncoding).Blind like :=
  fun _ _ rigs => .ok ⟨congrArg Surface.encoding rigs.display, rigs, rfl⟩

theorem blind_present [Surface τ] (request : SurfaceRequest) :
    (present request : Act σ τ _).Blind like := by
  intro rig other rigs
  simp only [present]
  rw [← rigs.display]
  cases request.perform rig.display with
  | error fault => exact .error _
  | ok reply => exact .ok ⟨rfl, ⟨rigs.machine, rfl⟩, rfl⟩

variable [NativeCore σ] (indistinct : Machine.Indistinct like)

include indistinct

theorem blind_memory : (memory : Act σ τ Bytes).Blind like :=
  fun _ _ rigs => .ok ⟨indistinct.memory rigs.machine, rigs, rfl⟩

theorem blind_setMemory (memory : Bytes) : (setMemory memory : Act σ τ Unit).Blind like :=
  fun _ _ rigs => .ok ⟨rfl, ⟨indistinct.write rigs.machine memory, rigs.display⟩, rfl⟩

theorem blind_ask (request : Request) : (ask request : Act σ τ _).Blind like := by
  intro rig other rigs
  simp only [ask]
  have agree := indistinct.answer rigs.machine request
  -- The answers are equal, and what they leave of the machines is alike again.
  generalize NativeCore.answer request rig.machine = reply,
    NativeCore.answer request other.machine = twin_reply at agree ⊢
  cases agree with
  | error fault => exact .error _
  | @ok reply twin_reply replies =>
    obtain ⟨answer, machine⟩ := reply
    obtain ⟨_, twin⟩ := twin_reply
    obtain ⟨rfl, machines⟩ := replies
    exact .ok ⟨rfl, ⟨machines, rigs.display⟩, rfl⟩

end Act

/-! ## §3 Loading and unloading -/

section Upkeep

open Act

variable [NativeCore σ] {like : Machine σ → Machine σ → Prop}
  (indistinct : Machine.Indistinct like)

include indistinct

namespace Region

theorem writeMemory_blind (addr : UInt32) (bytes : Bytes) :
    (writeMemory addr bytes : Act σ τ _).Blind like := by
  refine (blind_memory indistinct).bind fun memory => ?_
  split
  · exact (blind_setMemory indistinct _).bind fun _ => blind_pure _
  · exact blind_pure _

theorem viewMemory_blind (addr : UInt32) (len : Nat) :
    (viewMemory addr len : Act σ τ _).Blind like :=
  (blind_memory indistinct).bind fun _ => blind_pure _

theorem fill_blind (region : Region) (bytes : Bytes) :
    (region.fill bytes : Act σ τ _).Blind like := by
  refine (writeMemory_blind indistinct _ _).bind fun written => ?_
  cases written with
  | error cause =>
    refine (blind_ask indistinct _).bind fun freed => ?_
    exact (blind_noteError _ _).bind fun _ => blind_pure _
  | ok => exact (blind_note _).bind fun _ => blind_pure _

theorem allocate_blind (bytes : Bytes) : (allocate bytes : Act σ τ _).Blind like := by
  unfold allocate
  split
  · refine (blind_ask indistinct _).bind fun answer => ?_
    cases answer with
    | error cause => exact blind_pure _
    | ok addr =>
      dsimp only
      split
      · exact fill_blind indistinct _ _
      · exact blind_pure _
  · exact blind_pure _

theorem release_blind (region : Region) : (region.release : Act σ τ _).Blind like :=
  (blind_note _).bind fun _ => blind_ask indistinct _

end Region

namespace Lifecycle

theorem tearDown_blind (handle : Handle) (rom : Region) :
    (tearDown handle rom : Act σ τ _).Blind like := by
  refine (blind_ask indistinct _).bind fun answer => ?_
  cases answer with
  | error cause => exact (blind_note _).bind fun _ => blind_pure _
  | ok => exact rom.release_blind indistinct

theorem unload_blind (lifecycle : Lifecycle) : (lifecycle.unload : Act σ τ _).Blind like := by
  cases lifecycle with
  | empty => exact blind_pure _
  | loaded current =>
    refine (blind_note _).bind fun _ => ?_
    exact (tearDown_blind indistinct current.handle current.rom).bind fun _ => blind_pure _

theorem discard_blind (rom : Region) : (discard rom : Act σ τ _).Blind like :=
  (rom.release_blind indistinct).bind fun _ => blind_noteError _ _

theorem askScreen_blind (handle : Handle) : (askScreen handle : Act σ τ _).Blind like := by
  refine (blind_ask indistinct _).bind fun width => ?_
  cases width with
  | error cause => exact blind_pure _
  | ok width =>
    refine (blind_ask indistinct _).bind fun height => ?_
    cases height <;> exact blind_pure _

variable [Surface τ]

theorem fitSurface_blind (screen : Screen) (scale : UInt32) :
    (fitSurface screen scale : Act σ τ _).Blind like := by
  refine (blind_memory indistinct).bind fun memory => ?_
  split
  · exact blind_pure _
  · split
    · exact blind_pure _
    · exact (blind_present _).bind fun _ => blind_pure _

theorem configure_blind (handle : Handle) (scale : UInt32) :
    (configure handle scale : Act σ τ _).Blind like := by
  refine (askScreen_blind indistinct handle).bind fun answer => ?_
  cases answer with
  | error cause => exact blind_pure _
  | ok screen => exact fitSurface_blind indistinct screen scale

theorem settle_blind (handle : Handle) (rom : Region) (scale : UInt32) (bytes : Nat) :
    (settle handle rom scale bytes : Act σ τ _).Blind like := by
  refine (configure_blind indistinct handle scale).bind fun answer => ?_
  cases answer with
  | error cause =>
    refine (tearDown_blind indistinct handle rom).bind fun _ => ?_
    exact (blind_noteError _ _).bind fun _ => blind_pure _
  | ok screen => exact (blind_note _).bind fun _ => blind_pure _

theorem boot_blind (rom : Region) (scale : UInt32) (bytes : Nat) :
    (boot rom scale bytes : Act σ τ _).Blind like := by
  refine (blind_ask indistinct _).bind fun answer => ?_
  rcases answer with cause | _ | handle
  · exact (discard_blind indistinct rom).bind fun _ => blind_pure _
  · exact (discard_blind indistinct rom).bind fun _ => blind_pure _
  · exact settle_blind indistinct handle rom scale bytes

theorem launch_blind (image : Bytes) (scale : UInt32) :
    (launch image scale : Act σ τ _).Blind like := by
  unfold launch
  split
  · exact blind_pure _
  · refine (Region.allocate_blind indistinct image).bind fun answer => ?_
    cases answer with
    | error cause => exact blind_pure _
    | ok rom => exact boot_blind indistinct rom scale image.size

/-- A load is the same on rigs that are alike. -/
theorem load_blind (lifecycle : Lifecycle) (image : Bytes) (scale : UInt32) :
    (lifecycle.load image scale : Act σ τ _).Blind like := by
  refine (lifecycle.unload_blind indistinct).bind fun unloaded => ?_
  rcases unloaded with ⟨cause | _, rest⟩
  · exact blind_pure _
  · refine (launch_blind indistinct image scale).bind fun launched => ?_
    cases launched <;> exact blind_pure _

end Lifecycle

end Upkeep

end Handheld
