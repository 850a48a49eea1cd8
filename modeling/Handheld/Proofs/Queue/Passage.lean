import Mathlib.Data.List.Induction
import Mathlib.Data.List.TakeWhile
import Handheld.Queue.Handoff

/-!
# The Passage of Frames

Frames are added to a hand-off with any clocks, and the next one is asked for at any time.  A
frame is given up when too many wait, or when it turns out to be stale; so what becomes of a frame
hangs on all that was done before.  `Handoff.frames_pass_in_order` says for every history what has
been returned, what waits, and for each other frame why it is gone.

Frames are numbered in the order in which they are added, from zero.  They leave in this order too,
whatever becomes of them: `Passage.departed` counts them, and the frames that wait are the others.
-/

namespace Handheld.Handoff

/-! ## §1 Histories

A passage is a hand-off that remembers everything: the frames that have been added, and those that
have been returned with their numbers.  What a call does to a frame is said in terms of the frames
that wait before it. -/

/-- What the two sides do with a hand-off. -/
inductive Call
  | add (clock : Instant) (frame : Frame)
  | next

/-- A frame that has been returned. -/
structure Returned where
  number : Nat
  clock : Instant
  frame : Frame

/-- A hand-off with what has been added to it and what it has returned so far. -/
structure Passage where
  handoff : Handoff
  added : List (Instant × Frame) := []
  returned : List Returned := []

namespace Passage

def waiting (passage : Passage) : List (Instant × Frame) := passage.handoff.queue.items

/-- The number of frames that have left the hand-off, one way or another. -/
def departed (passage : Passage) : Nat := passage.added.length - passage.waiting.length

/-- The frame with the given number waits. -/
def Waits (passage : Passage) (number : Nat) : Prop :=
  passage.departed ≤ number ∧ number < passage.added.length

def call (passage : Passage) : Call → Passage
  | .add clock frame =>
    { passage with
      handoff := (passage.handoff.add clock frame).value
      added := passage.added ++ [(clock, frame)] }
  | .next =>
    let found := passage.handoff.next.value
    let after := { passage with handoff := found.2 }
    -- Of the frames that have left, the one that is found is the last.
    let given := found.1.map fun frame => ⟨after.departed - 1, frame.1, frame.2⟩
    { after with returned := passage.returned ++ given.toList }

/-- What has become of a new hand-off after some calls. -/
def run (depth : Nat) (calls : List Call) : Passage := calls.foldl call { handoff := .new depth }

/-- The call adds a frame while `depth + 1` frames wait, of which the one with the given number is
the oldest. -/
def Overtakes (passage : Passage) (depth : Nat) (call : Call) (number : Nat) : Prop :=
  (∃ clock frame, call = .add clock frame) ∧ passage.waiting.length = depth + 1 ∧
    passage.departed = number

/-- The call asks for the next frame and takes out the one with the given number, whose clock is
not newer than that of a frame that was returned before. -/
def Discards (passage : Passage) (call : Call) (number : Nat) : Prop :=
  call = .next ∧ passage.Waits number ∧ ¬ (passage.call .next).Waits number ∧
    ∃ earlier ∈ passage.returned, ∃ frame ∈ passage.added[number]?,
      frame.1.femtos ≤ earlier.clock.femtos

/-- Something was the case when one of the calls was made. -/
def Sometime (depth : Nat) (calls : List Call) (happens : Passage → Call → Prop) : Prop :=
  ∃ before call later, calls = before ++ call :: later ∧ happens (run depth before) call

theorem run_concat (depth : Nat) (calls : List Call) (last : Call) :
    run depth (calls ++ [last]) = (run depth calls).call last := by
  unfold run
  rw [List.foldl_append]
  rfl

/-- It was the case before the last call, or is when this is made. -/
theorem sometime_concat {depth : Nat} {calls : List Call} {last : Call}
    {happens : Passage → Call → Prop} :
    Sometime depth (calls ++ [last]) happens ↔
      Sometime depth calls happens ∨ happens (run depth calls) last := by
  constructor
  · rintro ⟨before, call, later, split, happened⟩
    rcases List.eq_nil_or_concat later with rfl | ⟨others, final, rfl⟩
    · obtain ⟨rfl, same⟩ := List.append_inj' split rfl
      cases same
      exact .inr happened
    · have split : calls ++ [last] = (before ++ call :: others) ++ [final] := by simpa using split
      obtain ⟨rfl, -⟩ := List.append_inj' split rfl
      exact .inl ⟨before, call, others, rfl, happened⟩
  · rintro (⟨before, call, later, rfl, happened⟩ | happens)
    · exact ⟨before, call, later ++ [last], by simp, happened⟩
    · exact ⟨calls, last, [], rfl, happens⟩

/-! ## §2 The invariant

The invariant: the frames that wait are the last ones that were added, those that were returned are
in order and unchanged, and the clock of the hand-off is that of the frame returned last. -/

/-- What holds of a hand-off at all times. -/
structure Orderly (depth : Nat) (passage : Passage) : Prop where
  limit : passage.handoff.queue.limit = depth
  few : passage.waiting.length ≤ depth + 1
  /-- The frames that wait are the last ones that have been added. -/
  latest : passage.waiting <:+ passage.added
  shown : passage.handoff.lastClock = passage.returned.getLast?.map Returned.clock
  ordered : passage.returned.Pairwise fun earlier later =>
    earlier.number < later.number ∧ earlier.clock.femtos < later.clock.femtos
  gone : ∀ given ∈ passage.returned, given.number < passage.departed
  unmodified : ∀ given ∈ passage.returned,
    passage.added[given.number]? = some (given.clock, given.frame)

variable {depth : Nat} {passage : Passage} {clock : Instant} {frame : Frame}

/-- What has left and what waits make up what has been added. -/
theorem Orderly.balance (orderly : Orderly depth passage) :
    passage.added.length = passage.departed + passage.waiting.length := by
  have := orderly.latest.length_le
  unfold departed
  omega

/-- The number of a frame that waits tells its place. -/
theorem Orderly.getElem?_added (orderly : Orderly depth passage) (place : Nat) :
    passage.added[passage.departed + place]? = passage.waiting[place]? := by
  have balance := orderly.balance
  -- What waits is the end of the list, so a place in it is found behind those that have left.
  obtain ⟨gone, split⟩ := orderly.latest
  have length : gone.length = passage.departed := by
    have := congrArg List.length split
    rw [List.length_append] at this
    omega
  rw [← split, ← length, List.getElem?_append_right (Nat.le_add_right _ _), Nat.add_sub_cancel_left]

/-- No frame has been returned with a newer clock than the last one. -/
theorem Orderly.clock_le (orderly : Orderly depth passage) {given last : Returned}
    (member : given ∈ passage.returned) (final : last ∈ passage.returned.getLast?) :
    given.clock.femtos ≤ last.clock.femtos := by
  have ordered := orderly.ordered
  -- The returned frames have increasing clocks, so none is newer than the last.
  obtain ⟨others, split⟩ := List.getLast?_eq_some_iff.1 final
  rw [split] at member ordered
  rcases List.mem_append.1 member with before | same
  · exact Nat.le_of_lt ((List.pairwise_append.1 ordered).2.2 given before last (by simp)).2
  · exact Nat.le_of_eq (congrArg (·.clock.femtos) (List.mem_singleton.1 same))

/-- A clock is newer than the one shown last if it is newer than all that have been returned. -/
theorem Orderly.isNewer_iff (orderly : Orderly depth passage) :
    IsNewer passage.handoff.lastClock clock ↔
      ∀ given ∈ passage.returned, given.clock.femtos < clock.femtos := by
  rw [orderly.shown]
  constructor
  · intro newer given member
    cases final : passage.returned.getLast? with
    | none =>
      rw [List.getLast?_eq_none_iff.1 final] at member
      cases member
    | some last =>
      have below := orderly.clock_le member final
      have last_below := newer last.clock (by rw [final]; rfl)
      omega
  · intro newer shown hshown
    obtain ⟨last, final, rfl⟩ := Option.map_eq_some_iff.1 hshown
    exact newer last (List.mem_of_getLast? final)

theorem orderly_new (depth : Nat) : Orderly depth { handoff := .new depth } where
  limit := rfl
  few := Nat.zero_le _
  latest := List.suffix_rfl
  shown := rfl
  ordered := .nil
  gone := by simp
  unmodified := by simp

/-- Frames are added behind those that wait, and others leave in front. -/
structure Shifts (before : Passage) (new left : List (Instant × Frame)) (after : Passage) :
    Prop where
  added : after.added = before.added ++ new
  waiting : before.waiting ++ new = left ++ after.waiting

/-- The frames that leave are those with the next numbers. -/
theorem Shifts.departed {after : Passage} {new left : List (Instant × Frame)}
    (shifts : Shifts passage new left after) (orderly : Orderly depth passage) :
    after.departed = passage.departed + left.length ∧ after.waiting <:+ after.added := by
  obtain ⟨hadded, hwaiting⟩ := shifts
  -- As many have left as have been added and do not wait any more.
  have balance := orderly.balance
  have lengths := congrArg List.length hwaiting
  rw [List.length_append, List.length_append] at lengths
  constructor
  · unfold Passage.departed at balance ⊢
    rw [hadded, List.length_append]
    omega
  · -- What waited before is a suffix of what had been added before.
    obtain ⟨gone, split⟩ := orderly.latest
    refine ⟨gone ++ left, ?_⟩
    rw [hadded, ← split, List.append_assoc, ← hwaiting, List.append_assoc]

/-- What has been returned stays as it was when it was added. -/
theorem Orderly.unmodified_append (orderly : Orderly depth passage) (new : List (Instant × Frame))
    {given : Returned} (member : given ∈ passage.returned) :
    (passage.added ++ new)[given.number]? = some (given.clock, given.frame) := by
  -- The frame has been added before, so its place is in front of the new ones.
  have kept := orderly.unmodified given member
  obtain ⟨inside, -⟩ := List.getElem?_eq_some_iff.1 kept
  rw [List.getElem?_append_left inside]
  exact kept

/-! ## §3 Adding a frame

An addition puts a frame at the end and may take one out at the front, and so it shifts the window
by one place or by none. -/

/-- The frames that make room for another one: the oldest, if too many wait. -/
def pushedOut (passage : Passage) : List (Instant × Frame) :=
  if passage.handoff.queue.limit < passage.waiting.length then passage.waiting.take 1 else []

theorem shifts_add (passage : Passage) (clock : Instant) (frame : Frame) :
    Shifts passage [(clock, frame)] passage.pushedOut (passage.call (.add clock frame)) := by
  refine ⟨rfl, ?_⟩
  unfold pushedOut waiting
  simp only [call, add, ClockedQueue.push, ClockedQueue.makeRoom]
  split
  · rw [← List.append_assoc, ← List.drop_one, List.take_append_drop]
  · rfl

/-- One frame makes room if `depth + 1` frames wait, and otherwise none. -/
theorem Orderly.length_pushedOut (orderly : Orderly depth passage) :
    passage.pushedOut.length = if passage.waiting.length = depth + 1 then 1 else 0 := by
  have few := orderly.few
  unfold pushedOut
  rw [orderly.limit]
  split
  · rw [List.length_take, if_pos (by omega)]
    omega
  · rw [if_neg (by omega)]
    rfl

theorem Orderly.add (orderly : Orderly depth passage) (clock : Instant) (frame : Frame) :
    Orderly depth (passage.call (.add clock frame)) := by
  have shifts := shifts_add passage clock frame
  obtain ⟨departed, latest⟩ := shifts.departed orderly
  have lengths := congrArg List.length shifts.waiting
  rw [List.length_append, List.length_append, orderly.length_pushedOut] at lengths
  -- What has been returned stays, and only the numbers of those that have left go on.
  have few := orderly.few
  refine ⟨?_, ?_, latest, orderly.shown, orderly.ordered, ?_, ?_⟩
  · exact orderly.limit
  · rw [List.length_singleton] at lengths
    split at lengths <;> omega
  · intro given member
    rw [departed]
    exact Nat.lt_add_right _ (orderly.gone given member)
  · intro given member
    exact orderly.unmodified_append _ member

/-! ## §4 Asking for the next frame

The stale frames in front are taken out, and the first fresh one with them.  The hand-off goes
through its queue by recursion, and so do the lemmas. -/

/-- The frames in front of the first one that is newer than all that have been shown. -/
def stale (passage : Passage) : List (Instant × Frame) :=
  passage.waiting.takeWhile fun frame => ¬ IsNewer passage.handoff.lastClock frame.1

/-- The first frame that is newer than all that have been shown, and what is behind it. -/
def fresh (passage : Passage) : List (Instant × Frame) :=
  passage.waiting.dropWhile fun frame => ¬ IsNewer passage.handoff.lastClock frame.1

theorem stale_append_fresh (passage : Passage) :
    passage.stale ++ passage.fresh = passage.waiting := List.takeWhile_append_dropWhile

theorem not_isNewer_of_stale {waits : Instant × Frame} (member : waits ∈ passage.stale) :
    ¬ IsNewer passage.handoff.lastClock waits.1 := by
  simpa using List.mem_takeWhile_imp member

theorem isNewer_of_fresh {first : Instant × Frame} (found : passage.fresh.head? = some first) :
    IsNewer passage.handoff.lastClock first.1 := by
  have newer := List.head?_dropWhile_not
    (fun frame => decide (¬ IsNewer passage.handoff.lastClock frame.1)) passage.waiting
  unfold fresh at found
  rw [found] at newer
  simpa using newer

theorem firstNewer_eq (last : Option Instant) (items : List (Instant × Frame)) :
    (firstNewer last items).value =
      ((items.dropWhile fun frame => ¬ IsNewer last frame.1).head?,
        (items.dropWhile fun frame => ¬ IsNewer last frame.1).tail) := by
  -- The induction is on the frames that wait, as they are looked through.
  induction items with
  | nil => rfl
  | cons item items ih =>
    unfold firstNewer
    by_cases newer : IsNewer last item.1
    · simp [newer]
    · simpa [newer] using ih

/-- The frame that is returned when the next one is asked for: it leaves behind the stale ones. -/
def found? (passage : Passage) : Option Returned :=
  passage.fresh.head?.map fun frame =>
    ⟨passage.departed + passage.stale.length, frame.1, frame.2⟩

theorem Orderly.of_found (orderly : Orderly depth passage) {given : Returned}
    (found : passage.found? = some given) :
    given.number = passage.departed + passage.stale.length ∧
      IsNewer passage.handoff.lastClock given.clock ∧
      passage.added[given.number]? = some (given.clock, given.frame) := by
  -- The number points behind the stale frames, where the first fresh one is.
  obtain ⟨first, hfirst, rfl⟩ := Option.map_eq_some_iff.1 found
  refine ⟨rfl, isNewer_of_fresh hfirst, ?_⟩
  show passage.added[passage.departed + passage.stale.length]? = some first
  rw [orderly.getElem?_added, ← passage.stale_append_fresh,
    List.getElem?_append_right (Nat.le_refl _), Nat.sub_self, ← List.head?_eq_getElem?]
  exact hfirst

/-- The stale frames in front leave, and so does the one that is returned. -/
theorem Orderly.call_next (orderly : Orderly depth passage) :
    passage.call .next =
      { passage with
        handoff := { passage.handoff with
          queue := { passage.handoff.queue with items := passage.fresh.tail }
          lastClock := (passage.found?.map Returned.clock).or passage.handoff.lastClock }
        returned := passage.returned ++ passage.found?.toList } := by
  have first := firstNewer_eq passage.handoff.lastClock passage.handoff.queue.items
  change _ = (passage.fresh.head?, passage.fresh.tail) at first
  unfold found?
  -- There is a frame to be returned, or none that waits is newer.
  cases hfresh : passage.fresh with
  | nil =>
    rw [hfresh] at first
    simp [call, Handoff.next, first]
  | cons frame rest =>
    have balance := orderly.balance
    have lengths := congrArg List.length passage.stale_append_fresh
    rw [hfresh, List.length_append, List.length_cons] at lengths
    rw [hfresh] at first
    -- The number is computed when the frame has left.
    have number : passage.added.length - rest.length - 1 =
        passage.departed + passage.stale.length := by
      omega
    rw [← number]
    simp [call, Handoff.next, first, departed, waiting]

theorem Orderly.shifts_next (orderly : Orderly depth passage) :
    Shifts passage [] (passage.stale ++ passage.fresh.take 1) (passage.call .next) := by
  rw [orderly.call_next]
  refine ⟨(List.append_nil _).symm, ?_⟩
  show passage.waiting ++ [] = _ ++ passage.fresh.tail
  rw [List.append_nil, List.append_assoc, ← List.drop_one, List.take_append_drop,
    passage.stale_append_fresh]

theorem Orderly.departed_next (orderly : Orderly depth passage) :
    (passage.call .next).departed =
      passage.departed + passage.stale.length + passage.found?.toList.length := by
  -- With a fresh frame there is one to be returned, and without one there is none.
  have one : (passage.fresh.take 1).length = passage.found?.toList.length := by
    unfold found?
    cases passage.fresh <;> rfl
  rw [(orderly.shifts_next.departed orderly).1, List.length_append, one, Nat.add_assoc]

theorem Orderly.next (orderly : Orderly depth passage) : Orderly depth (passage.call .next) := by
  have departed := orderly.departed_next
  have latest := (orderly.shifts_next.departed orderly).2
  have few := orderly.few
  have split := congrArg List.length passage.stale_append_fresh
  rw [List.length_append] at split
  rw [orderly.call_next] at departed latest ⊢
  have less : passage.fresh.tail.length ≤ depth + 1 := by
    rw [List.length_tail]
    omega
  cases hfound : passage.found? with
  | none =>
    rw [hfound] at departed latest
    simp only [Option.toList_none, List.append_nil] at departed latest ⊢
    -- No frame is returned, and those that leave have all been stale.
    refine ⟨orderly.limit, less, latest, orderly.shown, orderly.ordered, ?_, orderly.unmodified⟩
    intro given member
    have := orderly.gone given member
    omega
  | some given =>
    obtain ⟨number, newer, unmodified⟩ := orderly.of_found hfound
    rw [hfound] at departed latest
    simp only [Option.toList_some, List.length_singleton] at departed latest ⊢
    -- The frame that is returned becomes the last one to be shown.
    refine ⟨orderly.limit, less, latest, ?_, ?_, ?_, ?_⟩
    · simp
    · -- The frame has a larger number and a newer clock than all before.
      refine List.pairwise_append.2 ⟨orderly.ordered, List.pairwise_singleton _ _, ?_⟩
      intro earlier member later last
      rw [List.mem_singleton.1 last]
      have gone := orderly.gone earlier member
      exact ⟨by omega, orderly.isNewer_iff.1 newer earlier member⟩
    · refine List.forall_mem_append.2 ⟨fun earlier member => ?_, ?_⟩
      · have gone := orderly.gone earlier member
        omega
      · rw [List.forall_mem_singleton]
        omega
    · exact List.forall_mem_append.2
        ⟨orderly.unmodified, List.forall_mem_singleton.2 unmodified⟩

theorem orderly_run (depth : Nat) (calls : List Call) : Orderly depth (run depth calls) := by
  -- The induction is on the calls, the last one outermost.
  induction calls using List.reverseRecOn with
  | nil => exact orderly_new depth
  | append_singleton calls last ih =>
    rw [run_concat]
    cases last with
    | add clock frame => exact ih.add clock frame
    | next => exact ih.next

/-! ## §5 Frames that are lost

A frame is lost if it has left and has not been returned.  Each of the two calls loses a frame for
one reason only, and the induction over the calls collects the reasons. -/

/-- The frame has left, and it has not been returned. -/
def Lost (passage : Passage) (number : Nat) : Prop :=
  number < passage.departed ∧ ∀ given ∈ passage.returned, given.number ≠ number

/-- Adding a frame loses the oldest one if too many wait, and no other. -/
theorem Orderly.lost_add_iff (orderly : Orderly depth passage) {number : Nat} :
    (passage.call (.add clock frame)).Lost number ↔
      passage.Lost number ∨ passage.waiting.length = depth + 1 ∧ passage.departed = number := by
  obtain ⟨departed, -⟩ := (shifts_add passage clock frame).departed orderly
  rw [orderly.length_pushedOut] at departed
  unfold Lost
  rw [departed]
  show _ ∧ (∀ given ∈ passage.returned, given.number ≠ number) ↔ _
  constructor
  · rintro ⟨left, others⟩
    -- The frame has been lost before, or the push has found too many.
    by_cases before : number < passage.departed
    · exact .inl ⟨before, others⟩
    · split at left
      · next full => exact .inr ⟨full, by omega⟩
      · omega
  · rintro (⟨before, others⟩ | ⟨full, rfl⟩)
    · exact ⟨Nat.lt_add_right _ before, others⟩
    · rw [if_pos full]
      exact ⟨Nat.lt_succ_self _, fun given member => Nat.ne_of_lt (orderly.gone given member)⟩

/-- A clock is not newer than the one shown last if it is not newer than one that was shown. -/
theorem Orderly.not_isNewer_iff (orderly : Orderly depth passage) :
    ¬ IsNewer passage.handoff.lastClock clock ↔
      ∃ earlier ∈ passage.returned, clock.femtos ≤ earlier.clock.femtos := by
  rw [orderly.isNewer_iff]
  push Not
  rfl

/-- The frames that are discarded are the stale ones in front. -/
theorem Orderly.discards_iff (orderly : Orderly depth passage) {number : Nat} :
    passage.Discards .next number ↔
      passage.departed ≤ number ∧ number < passage.departed + passage.stale.length := by
  have balance := orderly.balance
  have departed := orderly.departed_next
  have split := congrArg List.length passage.stale_append_fresh
  rw [List.length_append] at split
  constructor
  · rintro ⟨-, ⟨there, inside⟩, gone, earlier, member, frame, hframe, old⟩
    have left : number < (passage.call .next).departed :=
      Nat.lt_of_not_le fun later => gone ⟨later, inside⟩
    refine ⟨there, Nat.lt_of_not_le fun beyond => ?_⟩
    -- Behind the stale frames only the one that is returned leaves, and it is newer.
    cases hfound : passage.found? with
    | none =>
      rw [hfound, Option.toList_none, List.length_nil] at departed
      omega
    | some given =>
      obtain ⟨number_eq, newer, unmodified⟩ := orderly.of_found hfound
      rw [hfound, Option.toList_some, List.length_singleton] at departed
      obtain rfl : number = given.number := by omega
      obtain rfl := Option.some.inj (hframe.symm.trans unmodified)
      exact absurd newer (orderly.not_isNewer_iff.2 ⟨earlier, member, old⟩)
  -- Any stale frame in front is not newer than some frame that was shown.
  · rintro ⟨there, before⟩
    obtain ⟨place, rfl⟩ := Nat.exists_eq_add_of_le there
    have inside : place < passage.stale.length := by omega
    have found : passage.added[passage.departed + place]? = some passage.stale[place] := by
      rw [orderly.getElem?_added, ← passage.stale_append_fresh, List.getElem?_append_left inside]
      exact List.getElem?_eq_getElem inside
    obtain ⟨earlier, member, old⟩ :=
      orderly.not_isNewer_iff.1 (not_isNewer_of_stale (List.getElem_mem inside))
    refine ⟨rfl, ⟨there, by omega⟩, fun later => ?_, earlier, member, _, found, old⟩
    have := later.1
    omega

/-- Asking for the next frame loses the stale ones that it takes out, and no other. -/
theorem Orderly.lost_next_iff (orderly : Orderly depth passage) {number : Nat} :
    (passage.call .next).Lost number ↔ passage.Lost number ∨ passage.Discards .next number := by
  have gone := orderly.gone
  have departed := orderly.departed_next
  -- What is returned has the number behind those of the stale frames.
  have returned : (∀ given ∈ (passage.call .next).returned, given.number ≠ number) ↔
      (∀ given ∈ passage.returned, given.number ≠ number) ∧
        (passage.found? ≠ none → passage.departed + passage.stale.length ≠ number) := by
    rw [orderly.call_next, List.forall_mem_append]
    cases hfound : passage.found? with
    | none => simp
    | some given => simp [(orderly.of_found hfound).1]
  have one : passage.found?.toList.length = if passage.found? = none then 0 else 1 := by
    cases passage.found? <;> rfl
  rw [orderly.discards_iff]
  unfold Lost
  rw [returned, departed, one]
  constructor
  · rintro ⟨left, others, last⟩
    -- A frame that is lost now leaves with this call and is not the one that is returned.
    rcases Nat.lt_or_ge number passage.departed with before | now
    · exact .inl ⟨before, others⟩
    · refine .inr ⟨now, ?_⟩
      split at left
      · exact left
      · next found =>
        have := last found
        omega
  · rintro (⟨before, others⟩ | ⟨now, left⟩)
    · exact ⟨by omega, others, fun _ => by omega⟩
    · refine ⟨by omega, fun given member => ?_, fun _ => by omega⟩
      have := gone given member
      omega

theorem Orderly.lost_iff (orderly : Orderly depth passage) (call : Call) {number : Nat} :
    (passage.call call).Lost number ↔
      passage.Lost number ∨ passage.Overtakes depth call number ∨ passage.Discards call number := by
  cases call with
  -- A call that adds a frame discards none.
  | add clock frame =>
    rw [orderly.lost_add_iff]
    simp [Overtakes, Discards]
  | next =>
    rw [orderly.lost_next_iff]
    simp [Overtakes]

/-- If there is no next frame then all that wait are stale. -/
theorem fresh_eq_nil (nothing : passage.handoff.next.value.1 = none) : passage.fresh = [] := by
  have first := firstNewer_eq passage.handoff.lastClock passage.handoff.queue.items
  change _ = (passage.fresh.head?, passage.fresh.tail) at first
  cases hfresh : passage.fresh with
  | nil => rfl
  | cons frame rest =>
    rw [hfresh] at first
    simp [Handoff.next, first] at nothing

/-- A frame is lost when it is overtaken or discarded, and never otherwise. -/
theorem lost_run_iff (depth : Nat) (calls : List Call) {number : Nat} :
    (run depth calls).Lost number ↔
      Sometime depth calls (·.Overtakes depth · number) ∨
        Sometime depth calls (·.Discards · number) := by
  -- The induction is on the calls: a frame that is lost in the end was lost before the last call,
  -- or is with it.
  induction calls using List.reverseRecOn with
  | nil => simp [run, Lost, departed, Sometime]
  | append_singleton calls last ih =>
    rw [run_concat, (orderly_run depth calls).lost_iff, ih, sometime_concat, sometime_concat]
    tauto

end Passage

/-! ## §6 All frames -/

open Passage

/-- Whatever is done with a hand-off: at most `depth + 1` frames wait, and they are the last ones
that have been added.  The frames that have been returned came out in the order in which they were
added, each with a newer clock than the one before, and each as it had been added.  A frame has not
been returned if another one was added when `depth + 1` frames waited and it was the oldest, or if
it was taken out behind a frame with the same or a newer clock, or if it waits still, and only then.
If the next frame is asked for and there is none, no frame that waits is newer than the one
returned last. -/
theorem frames_pass_in_order (depth : Nat) (calls : List Call) :
    (run depth calls).waiting.length ≤ depth + 1 ∧
      (run depth calls).waiting = (run depth calls).added.drop (run depth calls).departed ∧
      ((run depth calls).returned.Pairwise fun earlier later =>
        earlier.number < later.number ∧ earlier.clock.femtos < later.clock.femtos) ∧
      (∀ given ∈ (run depth calls).returned,
        (run depth calls).added[given.number]? = some (given.clock, given.frame)) ∧
      (∀ number < (run depth calls).added.length,
        (∀ given ∈ (run depth calls).returned, given.number ≠ number) ↔
          Sometime depth calls (·.Overtakes depth · number) ∨
            Sometime depth calls (·.Discards · number) ∨ (run depth calls).Waits number) ∧
      ((run depth calls).handoff.next.value.1 = none →
        ∀ waits ∈ (run depth calls).waiting, ∃ last ∈ (run depth calls).returned.getLast?,
          waits.1.femtos ≤ last.clock.femtos) := by
  have orderly := orderly_run depth calls
  refine ⟨orderly.few, List.suffix_iff_eq_drop.1 orderly.latest, orderly.ordered,
    orderly.unmodified, fun number added => ?_, fun nothing waits member => ?_⟩
  -- What has not been returned has left without that, and then it is lost, or it has not left.
  · rw [← or_assoc, ← lost_run_iff]
    constructor
    · intro others
      rcases Nat.lt_or_ge number (run depth calls).departed with left | there
      · exact .inl ⟨left, others⟩
      · exact .inr ⟨there, added⟩
    · rintro (⟨-, others⟩ | ⟨there, -⟩)
      · exact others
      -- What has been returned has left, so it does not wait any more.
      · intro given member same
        have := orderly.gone given member
        omega
  -- A hand-off that gives nothing has looked at all that waits, and found it old.
  · have stale : waits ∈ (run depth calls).stale := by
      rwa [← stale_append_fresh, fresh_eq_nil nothing, List.append_nil] at member
    obtain ⟨earlier, shown, old⟩ := orderly.not_isNewer_iff.1 (not_isNewer_of_stale stale)
    cases final : (run depth calls).returned.getLast? with
    | none =>
      rw [List.getLast?_eq_none_iff.1 final] at shown
      cases shown
    | some last => exact ⟨last, rfl, Nat.le_trans old (orderly.clock_le shown final)⟩

end Handheld.Handoff
