import Handheld.Bench.Core
import Handheld.Proofs.Bench.Drawing

/-!
# What the Calls of the Bench Core Do

No call but a step counts a frame, and none changes how the core was set up.  A step of a live
instance counts one frame and draws its picture.
-/

namespace Handheld.Bench

/-! ## §1 The set-up stays

What a bench core has been set up with never changes: the size of the heap, the screen, the
status of a step and whether it points past the end.  `SameSetup` adds the number of steps, which
only a step moves on; every other call keeps all of it, by cases on the call. -/

/-- A bench core with the same set-up and the same number of steps. -/
structure SameSetup (before after : Bench) : Prop where
  heapSize : after.heapSize = before.heapSize
  screen : after.screen = before.screen
  stepStatus : after.stepStatus = before.stepStatus
  screenPastEnd : after.screenPastEnd = before.screenPastEnd
  frames : after.frames = before.frames

theorem SameSetup.refl (bench : Bench) : SameSetup bench bench := ⟨rfl, rfl, rfl, rfl, rfl⟩

theorem SameSetup.trans {first second third : Bench} (left : SameSetup first second)
    (right : SameSetup second third) : SameSetup first third where
  heapSize := right.heapSize.trans left.heapSize
  screen := right.screen.trans left.screen
  stepStatus := right.stepStatus.trans left.stepStatus
  screenPastEnd := right.screenPastEnd.trans left.screenPastEnd
  frames := right.frames.trans left.frames

theorem SameSetup.pictureEnd {before after : Bench} (same : SameSetup before after) :
    after.pictureEnd = before.pictureEnd := by
  unfold Bench.pictureEnd
  rw [same.heapSize, same.screen]

variable {bench after : Bench} {machine next : Machine Bench} {handle : Handle}

theorem sameSetup_of_malloc {size : Nat} {len addr : UInt32}
    (h : bench.malloc size len = .ok (addr, after)) : SameSetup bench after := by
  unfold malloc at h
  split at h
  -- The allocation has been told to fail.
  · obtain ⟨-, rfl⟩ := Prod.mk.inj (Except.ok.inj h)
    exact ⟨rfl, rfl, rfl, rfl, rfl⟩
  · split at h
    -- It has been told to misplace the block.
    · unfold misplace at h
      obtain ⟨place, -, h⟩ := Checked.bind_eq_ok_iff.1 h
      obtain ⟨-, rfl⟩ := Prod.mk.inj (Except.ok.inj h)
      exact ⟨rfl, rfl, rfl, rfl, rfl⟩
    -- It is an ordinary one.
    · unfold bump at h
      split at h
      · obtain ⟨place, -, h⟩ := Checked.bind_eq_ok_iff.1 h
        obtain ⟨-, rfl⟩ := Prod.mk.inj (Except.ok.inj h)
        exact ⟨rfl, rfl, rfl, rfl, rfl⟩
      · obtain ⟨-, rfl⟩ := Prod.mk.inj (Except.ok.inj h)
        exact .refl bench

theorem sameSetup_free (bench : Bench) (addr : UInt32) :
    SameSetup bench (bench.free addr).2 := by
  unfold free
  split <;> exact ⟨rfl, rfl, rfl, rfl, rfl⟩

theorem sameSetup_destroy (bench : Bench) (handle : Handle) :
    SameSetup bench (bench.destroy handle).2 := by
  unfold destroy
  split
  · exact ⟨rfl, rfl, rfl, rfl, rfl⟩
  · split <;> exact ⟨rfl, rfl, rfl, rfl, rfl⟩

/-- A rom that is accepted runs as an instance from then on. -/
theorem of_create {rom len : UInt32} {made : Option Handle}
    (h : create machine rom len = .ok (made, next)) :
    SameSetup machine.state next.state ∧
      ∀ handle, made = some handle → handle ∈ next.state.instances := by
  simp only [create] at h
  split at h
  -- The rom is refused, because it has been planned so or because of its block.
  · obtain ⟨rfl, rfl⟩ := Prod.mk.inj (Except.ok.inj h)
    exact ⟨⟨rfl, rfl, rfl, rfl, rfl⟩, by simp⟩
  · split at h
    -- All handles have been used up.
    · obtain ⟨rfl, rfl⟩ := Prod.mk.inj (Except.ok.inj h)
      exact ⟨⟨rfl, rfl, rfl, rfl, rfl⟩, by simp⟩
    -- There is a new instance.
    · obtain ⟨nextHandle, -, h⟩ := Checked.bind_eq_ok_iff.1 h
      obtain ⟨memory, -, h⟩ := Checked.bind_eq_ok_iff.1 h
      obtain ⟨rfl, rfl⟩ := Prod.mk.inj (Except.ok.inj h)
      refine ⟨⟨rfl, rfl, rfl, rfl, rfl⟩, ?_⟩
      intro handle hmade
      cases hmade
      exact List.mem_append_right _ (List.mem_singleton.2 rfl)

/-! ## §2 Live instances

All calls for an instance look it up first, and a call for one that is not there changes nothing but
the log. -/

/-- A call for an instance is answered if the instance is there; otherwise nothing happens. -/
theorem of_forInstance {α : Type} {answer : Faulty (α × Machine Bench)} {result : Except Error α}
    (h : forInstance machine handle answer = .ok (result, next)) :
    (∃ value, answer = .ok (value, next) ∧ result = .ok value) ∨
      (result = .error (noInstance handle) ∧ next = machine) := by
  unfold forInstance at h
  split at h
  · obtain ⟨⟨value, machine'⟩, hanswer, h⟩ := Checked.bind_eq_ok_iff.1 h
    obtain ⟨rfl, rfl⟩ := Prod.mk.inj (Except.ok.inj h)
    exact .inl ⟨value, hanswer, rfl⟩
  · obtain ⟨rfl, rfl⟩ := Prod.mk.inj (Except.ok.inj h)
    exact .inr ⟨rfl, rfl⟩

/-- A call that only looks leaves the machine as it is. -/
theorem of_look {α : Type} (value : Faulty α) {result : Except Error α}
    (h : forInstance machine handle (do return (← value, machine)) = .ok (result, next)) :
    next = machine ∧ ∀ given, result = .ok given → value = .ok given := by
  rcases of_forInstance h with ⟨found, hanswer, rfl⟩ | ⟨rfl, rfl⟩
  · obtain ⟨seen, hseen, hpair⟩ := Checked.bind_eq_ok_iff.1 hanswer
    obtain ⟨rfl, rfl⟩ := Prod.mk.inj (Except.ok.inj hpair)
    refine ⟨rfl, ?_⟩
    intro given hgiven
    cases hgiven
    exact hseen
  · exact ⟨rfl, by simp⟩

theorem forInstance_ok {α : Type} {value : α} {answer : Faulty (α × Machine Bench)}
    (live : handle ∈ machine.state.instances) (h : answer = .ok (value, next)) :
    forInstance machine handle answer = .ok (.ok value, next) := by
  unfold forInstance
  rw [if_pos live, h]
  rfl

/-- No call but a step counts a frame or changes the set-up. -/
theorem sameSetup_of_answer {request : Request} {answer : Except Error request.Answer}
    (upkeep : request.function ≠ .step)
    (h : NativeCore.answer request machine = .ok (answer, next)) :
    SameSetup machine.state next.state := by
  have logged : SameSetup machine.state (log machine request).state := ⟨rfl, rfl, rfl, rfl, rfl⟩
  apply logged.trans
  cases request with
  | malloc len =>
    obtain ⟨⟨addr, state⟩, hmalloc, h⟩ := Checked.bind_eq_ok_iff.1 h
    obtain ⟨-, rfl⟩ := Prod.mk.inj (Except.ok.inj h)
    exact sameSetup_of_malloc hmalloc
  | free addr =>
    obtain ⟨-, rfl⟩ := Prod.mk.inj (Except.ok.inj h)
    exact sameSetup_free _ addr
  | create rom len =>
    obtain ⟨⟨made, machine'⟩, hcreate, h⟩ := Checked.bind_eq_ok_iff.1 h
    obtain ⟨-, rfl⟩ := Prod.mk.inj (Except.ok.inj h)
    exact (of_create hcreate).1
  | destroy handle =>
    obtain ⟨-, rfl⟩ := Prod.mk.inj (Except.ok.inj h)
    exact sameSetup_destroy _ handle
  | step => exact absurd rfl upkeep
  | screenPointer handle =>
    obtain ⟨rfl, -⟩ := of_look _ h
    exact .refl _
  | screenWidth handle | screenHeight handle | setButtonState handle _ _ =>
    obtain ⟨rfl, -⟩ := of_look (.ok _) h
    exact .refl _

/-! ## §3 Steps

The two calls of a tick, for an instance that is there: a step counts a frame and draws it, and the
answer to the question for the screen is the end of the heap, or a place that no picture fits
behind. -/

/-- A machine after one frame more, with the picture of it behind the heap. -/
structure NextFrame (before after : Machine Bench) : Prop where
  heapSize : after.state.heapSize = before.state.heapSize
  screen : after.state.screen = before.state.screen
  stepStatus : after.state.stepStatus = before.state.stepStatus
  screenPastEnd : after.state.screenPastEnd = before.state.screenPastEnd
  instances : after.state.instances = before.state.instances
  frames : after.state.frames.toNat = before.state.frames.toNat + 1
  drawn : Drawn after.state (Memory.grow before.memory before.state.pictureEnd)
    (after.state.screen.height.toNat * after.state.screen.width.toNat) after.memory

/-- A step of a live instance counts one frame and draws its picture. -/
theorem step_answer (mode : StepMode) (live : handle ∈ machine.state.instances)
    (area : pixelCount machine.state.screen.width machine.state.screen.height ≤ 2 ^ 32)
    (countable : machine.state.frames.toNat + 1 < 2 ^ 64) :
    ∃ stepped, NativeCore.answer (.step handle mode) machine =
        .ok (.ok machine.state.stepStatus, stepped) ∧ NextFrame machine stepped := by
  obtain ⟨frames, hframes, frames_eq⟩ := Checked.next64_ok countable
  -- The call is logged and the frame counted before the picture is drawn.
  let bench : Bench := { machine.state with
    frames, calls := machine.state.calls ++ [.step handle mode] }
  obtain ⟨memory, hdraw, drawn⟩ : ∃ memory, bench.drawFrame machine.memory = .ok memory ∧ _ :=
    drawFrame_ok machine.memory area
  refine ⟨⟨memory, bench⟩, forInstance_ok live ?_, rfl, rfl, rfl, rfl, rfl, frames_eq, drawn⟩
  apply Checked.bind_eq_ok_iff.2
  refine ⟨frames, hframes, ?_⟩
  apply Checked.bind_eq_ok_iff.2
  exact ⟨memory, hdraw, rfl⟩

/-- The picture is behind the heap. -/
theorem screenPointer_answer (live : handle ∈ machine.state.instances)
    (inside : machine.state.screenPastEnd = false) :
    NativeCore.answer (.screenPointer handle) machine =
      .ok (.ok machine.state.heapSize, log machine (.screenPointer handle)) := by
  have there : handle ∈ (log machine (.screenPointer handle)).state.instances := live
  refine forInstance_ok there ?_
  apply Checked.bind_eq_ok_iff.2
  refine ⟨machine.state.heapSize, ?_, rfl⟩
  unfold screenAddr
  rw [if_neg]
  · rfl
  · show ¬ machine.state.screenPastEnd = true
    rw [inside]
    exact Bool.false_ne_true

/-- A screen pointer so close to the end of memory that no picture fits behind it. -/
theorem screenPointer_pastEnd (live : handle ∈ machine.state.instances)
    (pastEnd : machine.state.screenPastEnd = true) (long : 2 ≤ machine.memory.size)
    (addressable : machine.memory.size < 2 ^ 32) :
    ∃ addr : UInt32, addr.toNat + 2 = machine.memory.size ∧
      NativeCore.answer (.screenPointer handle) machine =
        .ok (.ok addr, log machine (.screenPointer handle)) := by
  -- The length of memory is a word, and at least two, so nothing is cut off here.
  have size_eq : (UInt32.ofNat machine.memory.size).toNat = machine.memory.size :=
    UInt32.toNat_ofNat_of_lt' addressable
  have subtracts : Checked.sub32 (UInt32.ofNat machine.memory.size) 2 =
      .ok (UInt32.ofNat machine.memory.size - 2) := by
    apply if_pos
    rw [size_eq]
    exact long
  refine ⟨UInt32.ofNat machine.memory.size - 2, ?_, ?_⟩
  · rw [(Checked.sub32_eq_ok_iff.1 subtracts).2, size_eq]
    exact Nat.sub_add_cancel long
  · have there : handle ∈ (log machine (.screenPointer handle)).state.instances := live
    refine forInstance_ok there ?_
    apply Checked.bind_eq_ok_iff.2
    refine ⟨UInt32.ofNat machine.memory.size - 2, ?_, rfl⟩
    unfold screenAddr
    exact (if_pos pastEnd).trans subtracts

/-- The log has no part in the picture. -/
theorem NextFrame.log {before after : Machine Bench} (next : NextFrame before after)
    (request : Request) : NextFrame before (log after request) :=
  ⟨next.heapSize, next.screen, next.stepStatus, next.screenPastEnd, next.instances, next.frames,
    next.drawn.size, next.drawn.heap, next.drawn.pixels⟩

/-- The two calls of a tick: the step, and the question where its picture is. -/
theorem frame_answers (mode : StepMode) (live : handle ∈ machine.state.instances)
    (area : pixelCount machine.state.screen.width machine.state.screen.height ≤ 2 ^ 32)
    (countable : machine.state.frames.toNat + 1 < 2 ^ 64)
    (inside : machine.state.screenPastEnd = false) :
    ∃ stepped asked,
      NativeCore.answer (.step handle mode) machine =
        .ok (.ok machine.state.stepStatus, stepped) ∧
      NativeCore.answer (.screenPointer handle) stepped =
        .ok (.ok machine.state.heapSize, asked) ∧
      NextFrame machine asked := by
  obtain ⟨stepped, steps, next⟩ := step_answer mode live area countable
  have points := screenPointer_answer (next.instances ▸ live) (next.screenPastEnd.trans inside)
  rw [next.heapSize] at points
  exact ⟨stepped, _, steps, points, next.log _⟩

/-- The picture lies inside of memory. -/
theorem NextFrame.inside {before after : Machine Bench} (next : NextFrame before after) :
    before.state.heapSize.toNat +
      4 * pixelCount before.state.screen.width before.state.screen.height ≤ after.memory.size := by
  rw [next.drawn.size, Memory.size_grow]
  exact Nat.le_max_right ..

end Handheld.Bench
