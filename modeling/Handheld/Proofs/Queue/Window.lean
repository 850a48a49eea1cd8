import Mathlib.Data.List.ReduceOption
import Handheld.Queue.Clocked

/-!
# Queues as Sliding Windows

A queue and its clones are held by several sides at once: one buffer, and a limit for each holder.
`ClockedQueue.clones_share_window` compares whatever the holders do with a plain list, which takes
a new entry at the end, gives up its head if it is longer than the limit and one more, and hands
out its head when it is asked to.

The rest of the theorem follows the single entries.  They are numbered from zero in the order in
which they are pushed.  They leave in this order too, popped or given up, so the number of those
that have left is the number of the oldest entry that is held.

- `Shared` is a queue with its clones, `History` what is done with it;
- `History.window` is the list;
- `History.taken` and `History.givenUp` say of the entries that have left where they went.
-/

namespace Handheld.ClockedQueue

/-! ## §1 Clones

All holders share one buffer, and each has its own limit; a clone begins with the limit of the one
that it is made from. -/

/-- A queue that `n` holders share.  Each has a limit of its own, and all have the same items. -/
structure Shared (α : Type) (n : Nat) where
  limits : Vector Nat n
  items : List (Instant × α) := []

namespace Shared

variable {α : Type} {n : Nat}

/-- The queue as one of its holders has it. -/
def queue (shared : Shared α n) (holder : Fin n) : ClockedQueue α :=
  { limit := shared.limits[holder], items := shared.items }

/-- The new holder is the last one. -/
def clone (shared : Shared α n) (holder : Fin n) : Shared α (n + 1) :=
  { limits := shared.limits.push (shared.queue holder).limit, items := shared.items }

def push (shared : Shared α n) (holder : Fin n) (clock : Instant) (item : α) : Shared α n :=
  { shared with items := ((shared.queue holder).push clock item).value.items }

def pop (shared : Shared α n) (holder : Fin n) : Option (Instant × α) × Shared α n :=
  let popped := (shared.queue holder).pop
  (popped.1, { shared with items := popped.2.items })

end Shared

/-! ## §2 Histories

A history is indexed by the number of holders, so that a call can come only from one that exists.
Everything else is defined by recursion on it, next to each other: what the queue holds, what a list
would hold, and where each entry went. -/

/-- What is done with a queue that was made with the limit, the latest call outermost.  It has one
holder at first, and `n` in the end. -/
inductive History (α : Type) (limit : Nat) : Nat → Type
  | new : History α limit 1
  | clone {n : Nat} (before : History α limit n) (holder : Fin n) : History α limit (n + 1)
  | push {n : Nat} (before : History α limit n) (holder : Fin n) (clock : Instant) (item : α) :
      History α limit n
  | pop {n : Nat} (before : History α limit n) (holder : Fin n) : History α limit n

namespace History

variable {α : Type} {limit n : Nat}

/-- The queue and its clones after all calls. -/
def shared {n : Nat} : History α limit n → Shared α n
  | .new => { limits := #v[limit] }
  | .clone before holder => before.shared.clone holder
  | .push before holder clock item => before.shared.push holder clock item
  | .pop before holder => (before.shared.pop holder).2

def held (history : History α limit n) : List (Instant × α) := history.shared.items

/-- All entries that have been pushed, by any holder. -/
def pushed {n : Nat} : History α limit n → List (Instant × α)
  | .new => []
  | .clone before _ => before.pushed
  | .push before _ clock item => before.pushed ++ [(clock, item)]
  | .pop before _ => before.pushed

/-- What every pop has been answered. -/
def answers {n : Nat} : History α limit n → List (Option (Instant × α))
  | .new => []
  | .clone before _ => before.answers
  | .push before _ _ _ => before.answers
  | .pop before holder => before.answers ++ [(before.shared.pop holder).1]

def popped (history : History α limit n) : List (Instant × α) := history.answers.reduceOption

/-- The list that the queue should be. -/
def window {n : Nat} : History α limit n → List (Instant × α)
  | .new => []
  | .clone before _ => before.window
  | .push before _ clock item =>
    let longer := before.window ++ [(clock, item)]
    if limit + 1 < longer.length then longer.tail else longer
  | .pop before _ => before.window.tail

/-- What pops of the list would be answered. -/
def windowAnswers {n : Nat} : History α limit n → List (Option (Instant × α))
  | .new => []
  | .clone before _ => before.windowAnswers
  | .push before _ _ _ => before.windowAnswers
  | .pop before _ => before.windowAnswers ++ [before.window.head?]

/-- The number of entries that have left, one way or another. -/
def departed (history : History α limit n) : Nat := history.pushed.length - history.held.length

/-- The numbers of the entries that have been popped. -/
def taken {n : Nat} : History α limit n → List Nat
  | .new => []
  | .clone before _ => before.taken
  | .push before _ _ _ => before.taken
  | .pop before _ => if before.held = [] then before.taken else before.taken ++ [before.departed]

/-- The numbers of the entries that were the oldest when a push found `limit + 1`. -/
def givenUp {n : Nat} : History α limit n → List Nat
  | .new => []
  | .clone before _ => before.givenUp
  | .push before _ _ _ =>
    if before.held.length = limit + 1 then before.givenUp ++ [before.departed] else before.givenUp
  | .pop before _ => before.givenUp

/-- The number of entries that have been pushed and not been popped. -/
def outstanding (history : History α limit n) : Nat :=
  history.pushed.length - history.popped.length

/-- The most entries that have been outstanding at any time.  They get more with a push only. -/
def peak {n : Nat} : History α limit n → Nat
  | .new => 0
  | .clone before _ => before.peak
  | .push before holder clock item => max before.peak (push before holder clock item).outstanding
  | .pop before _ => before.peak

/-! ## §3 One call -/

/-- A clone has the limit of its origin, so all holders have that of the first. -/
theorem limits_eq (history : History α limit n) (holder : Fin n) :
    history.shared.limits[holder] = limit := by
  -- The induction is on the history. No call changes a limit, and a clone copies one.
  induction history with
  | new =>
    obtain rfl := Subsingleton.elim holder 0
    rfl
  | clone before origin ih =>
    show (before.shared.limits.push before.shared.limits[origin])[holder.val] = limit
    rw [Vector.getElem_push]
    split
    · next older => exact ih ⟨holder, older⟩
    · exact ih origin
  | push before _ clock item ih => exact ih holder
  | pop before _ ih => exact ih holder

theorem queue_eq (history : History α limit n) (holder : Fin n) :
    history.shared.queue holder = { limit, items := history.held } := by
  unfold Shared.queue
  rw [history.limits_eq]
  rfl

section

variable (before : History α limit n) (holder : Fin n) (clock : Instant) (item : α)

theorem held_push :
    (before.push holder clock item).held =
      (if limit < before.held.length then before.held.tail else before.held)
        ++ [(clock, item)] := by
  show ((before.shared.queue holder).push clock item).value.items = _
  rw [queue_eq]
  simp only [ClockedQueue.push, makeRoom]
  split <;> rfl

theorem held_pop : (before.pop holder).held = before.held.tail := by
  show (before.shared.queue holder).pop.2.items = _
  rw [queue_eq]
  rfl

theorem answers_pop : (before.pop holder).answers = before.answers ++ [before.held.head?] := by
  show before.answers ++ [(before.shared.queue holder).pop.1] = _
  rw [queue_eq]
  rfl

theorem popped_pop : (before.pop holder).popped = before.popped ++ before.held.head?.toList := by
  unfold popped
  rw [answers_pop, ← List.concat_eq_append, List.reduceOption_concat]

end

/-! ## §4 The list

By induction on the history the queue holds what the list has, and answers what the list answers. -/

/-- The head is given up before the entry is added, and not afterwards: it is the same head. -/
theorem held_eq_window (history : History α limit n) : history.held = history.window := by
  induction history with
  | new => rfl
  | clone before holder ih => exact ih
  | push before holder clock item ih =>
    rw [held_push, window, ← ih]
    -- The queue is full exactly if the longer list has an entry too many.
    by_cases full : limit < before.held.length
    · have longer : limit + 1 < (before.held ++ [(clock, item)]).length := by
        rw [List.length_append, List.length_singleton]
        omega
      have nonempty : before.held ≠ [] := List.ne_nil_of_length_pos (by omega)
      rw [if_pos full, if_pos longer, List.tail_append_of_ne_nil nonempty]
    · have short : ¬ limit + 1 < (before.held ++ [(clock, item)]).length := by
        rw [List.length_append, List.length_singleton]
        omega
      rw [if_neg full, if_neg short]
  | pop before holder ih => rw [held_pop, window, ih]

theorem answers_eq_windowAnswers (history : History α limit n) :
    history.answers = history.windowAnswers := by
  induction history with
  | new => rfl
  | clone before holder ih => exact ih
  | push before holder clock item ih => exact ih
  | pop before holder ih => rw [answers_pop, windowAnswers, ih, held_eq_window]

/-! ## §5 Entries that leave

Entries leave in the order of their numbers, and those that are held are the ones behind them. -/

theorem length_held_le (history : History α limit n) : history.held.length ≤ limit + 1 := by
  induction history with
  | new => exact Nat.zero_le _
  | clone before holder ih => exact ih
  | push before holder clock item ih =>
    rw [held_push, List.length_append, List.length_singleton]
    split
    · rw [List.length_tail]
      omega
    · omega
  | pop before holder ih =>
    rw [held_pop, List.length_tail]
    omega

/-- What is held is what has been pushed last. -/
theorem held_suffix_pushed (history : History α limit n) : history.held <:+ history.pushed := by
  induction history with
  | new => exact List.suffix_rfl
  | clone before holder ih => exact ih
  -- A push adds to both lists, and what it takes out is the head of the held one.
  | push before holder clock item ih =>
    rw [held_push, pushed, List.suffix_append_self_iff]
    split
    · exact (List.tail_suffix _).trans ih
    · exact ih
  | pop before holder ih =>
    rw [held_pop]
    exact (List.tail_suffix _).trans ih

theorem departed_add_length_held (history : History α limit n) :
    history.departed + history.held.length = history.pushed.length :=
  Nat.sub_add_cancel history.held_suffix_pushed.length_le

theorem held_eq_drop (history : History α limit n) :
    history.held = history.pushed.drop history.departed :=
  List.suffix_iff_eq_drop.1 history.held_suffix_pushed

/-- The oldest entry that is held has the number of those that have left. -/
theorem head?_held (history : History α limit n) :
    history.held.head? = history.pushed[history.departed]? := by
  rw [held_eq_drop, List.head?_drop]

/-- A push takes an entry out only if `limit + 1` are held. -/
theorem departed_push (before : History α limit n) (holder : Fin n) (clock : Instant) (item : α) :
    (before.push holder clock item).departed =
      before.departed + if before.held.length = limit + 1 then 1 else 0 := by
  -- The bound on what is held makes the two conditions on a full queue the same.
  have few := before.length_held_le
  have balance := before.departed_add_length_held
  unfold departed at balance ⊢
  rw [held_push, pushed, List.length_append, List.length_append, List.length_singleton]
  split
  · rw [List.length_tail, if_pos (by omega)]
    omega
  · rw [if_neg (by omega)]
    omega

/-- A pop takes one out if any is held. -/
theorem departed_pop (before : History α limit n) (holder : Fin n) :
    (before.pop holder).departed = before.departed + if before.held = [] then 0 else 1 := by
  have balance := before.departed_add_length_held
  unfold departed at balance ⊢
  rw [held_pop, pushed, List.length_tail]
  split
  · next empty => rw [empty, List.length_nil, Nat.zero_sub, Nat.add_zero]
  · next nonempty =>
    have := List.length_pos_iff.2 nonempty
    omega

/-! ## §6 Entries that are popped

What has been popped is a part of what has left, in the same order. -/

/-- Popped entries are among those that have left, in the order in which they were pushed. -/
theorem popped_sublist_take (history : History α limit n) :
    history.popped.Sublist (history.pushed.take history.departed) := by
  induction history with
  | new => exact .slnil
  | clone before holder ih => exact ih
  | push before holder clock item ih =>
    have balance := before.departed_add_length_held
    have kept : (before.pushed ++ [(clock, item)]).take before.departed =
        before.pushed.take before.departed := List.take_append_of_le_length (by omega)
    -- What is added stands behind all that have left, also if the push takes one more out.
    refine List.Sublist.trans ih ?_
    rw [departed_push, pushed, ← kept]
    exact List.take_sublist_take_left (Nat.le_add_right _ _)
  | pop before holder ih =>
    -- What a pop takes is the entry behind those that have left.
    rw [popped_pop, departed_pop, pushed, List.take_add, ← held_eq_drop]
    refine ih.append ?_
    cases before.held <;> simp

theorem length_popped_le (history : History α limit n) :
    history.popped.length ≤ history.departed :=
  Nat.le_trans history.popped_sublist_take.length_le (List.length_take_le _ _)

/-- Nothing is missing if all that have left were popped. -/
theorem popped_append_held_eq_iff (history : History α limit n) :
    history.popped ++ history.held = history.pushed ↔
      history.popped.length = history.departed := by
  have balance := history.departed_add_length_held
  constructor
  · intro all
    have := congrArg List.length all
    rw [List.length_append] at this
    omega
  · intro same
    -- A sublist of the same length is the whole list.
    have inside : history.departed ≤ history.pushed.length := by omega
    have all := history.popped_sublist_take.eq_of_length <| by
      rw [same, List.length_take, Nat.min_eq_left inside]
    rw [all, held_eq_drop, List.take_append_drop]

theorem taken_lt (history : History α limit n) :
    ∀ number ∈ history.taken, number < history.departed := by
  induction history with
  | new => exact fun _ member => nomatch member
  | clone before holder ih => exact ih
  | push before holder clock item ih =>
    intro number member
    rw [departed_push]
    exact Nat.lt_add_right _ (ih number member)
  | pop before holder ih =>
    rw [departed_pop, taken]
    -- A pop of an empty queue takes nothing, any other the entry with the next number.
    split
    · exact ih
    · refine List.forall_mem_append.2 ⟨fun number member => ?_, ?_⟩
      · exact Nat.lt_succ_of_lt (ih number member)
      · exact List.forall_mem_singleton.2 (Nat.lt_succ_self _)

/-- Entries are popped in the order of their numbers. -/
theorem taken_pairwise (history : History α limit n) : history.taken.Pairwise (· < ·) := by
  induction history with
  | new => exact .nil
  | clone before holder ih => exact ih
  | push before holder clock item ih => exact ih
  | pop before holder ih =>
    rw [taken]
    split
    · exact ih
    · refine List.pairwise_append.2 ⟨ih, List.pairwise_singleton _ _, ?_⟩
      intro earlier member later last
      rw [List.mem_singleton.1 last]
      exact before.taken_lt earlier member

/-- Each entry is popped as it was pushed. -/
theorem popped_eq_taken (history : History α limit n) :
    history.popped.map some = history.taken.map (history.pushed[·]?) := by
  induction history with
  | new => rfl
  | clone before holder ih => exact ih
  | push before holder clock item ih =>
    -- What was pushed before keeps its place when an entry is added behind.
    refine Eq.trans ih (List.map_congr_left fun number member => ?_)
    have left := before.taken_lt number member
    have balance := before.departed_add_length_held
    rw [pushed, List.getElem?_append_left (by omega)]
  | pop before holder ih =>
    rw [popped_pop, List.map_append, ih, taken, pushed]
    split
    · next empty => rw [empty, List.head?_nil, Option.toList_none, List.map_nil, List.append_nil]
    · next nonempty =>
      -- What is popped is the entry with the next number.
      rw [List.map_append, List.map_singleton, ← head?_held, List.head?_eq_some_head nonempty]
      rfl

/-! ## §7 Entries that are given up

An entry that has left has been popped or given up, and not both. -/

/-- An entry has been given up if it has left and has not been popped, and only then. -/
theorem mem_givenUp_iff (history : History α limit n) (number : Nat) :
    number ∈ history.givenUp ↔ number < history.departed ∧ number ∉ history.taken := by
  induction history with
  | new => simp [givenUp, departed, pushed]
  | clone before holder ih => exact ih
  | push before holder clock item ih =>
    have taken_lt := before.taken_lt number
    rw [givenUp, departed_push, taken]
    split
    -- The queue was full: the oldest entry leaves, and its number is the one behind all before.
    · rw [List.mem_append, List.mem_singleton, ih]
      constructor
      · rintro (⟨left, others⟩ | rfl)
        · exact ⟨by omega, others⟩
        · exact ⟨Nat.lt_succ_self _, fun member => Nat.lt_irrefl _ (taken_lt member)⟩
      · rintro ⟨left, others⟩
        rcases Nat.lt_succ_iff_lt_or_eq.1 left with earlier | last
        · exact .inl ⟨earlier, others⟩
        · exact .inr last
    · exact ih
  | pop before holder ih =>
    rw [givenUp, ih, departed_pop, taken]
    split
    · rfl
    · rw [List.mem_append, List.mem_singleton, not_or]
      -- The entry that is popped has left, but it is among those that have been taken.
      constructor
      · rintro ⟨left, others⟩
        exact ⟨by omega, others, by omega⟩
      · rintro ⟨left, others, other⟩
        exact ⟨by omega, others⟩

/-- All that have left were popped if never too many were outstanding, and only then. -/
theorem peak_le_iff (history : History α limit n) :
    history.peak ≤ limit + 1 ↔ history.popped.length = history.departed := by
  induction history with
  | new => simp [peak, popped, answers, departed, pushed]
  | clone before holder ih => exact ih
  | push before holder clock item ih =>
    have few := before.length_held_le
    have balance := before.departed_add_length_held
    have popped_le := before.length_popped_le
    have outstanding : (before.push holder clock item).outstanding =
        before.departed + before.held.length + 1 - before.popped.length := by
      rw [balance]
      exact congrArg (· - _) (List.length_append.trans rfl)
    rw [peak, Nat.max_le, ih, outstanding]
    show _ ↔ before.popped.length = _
    rw [departed_push]
    -- A push that takes an entry out leaves `limit + 1` behind, and all of these and the one that
    -- is gone are outstanding.
    split <;> omega
  | pop before holder ih =>
    rw [peak, ih, popped_pop, departed_pop, List.length_append]
    cases before.held with
    | nil => simp
    | cons => simp

end History

/-! ## §8 All entries -/

/-- Whatever the holders of a queue do with it: each of them has it with the limit it was made
with and with the entries of the list, and every pop is answered with the head of the list.  At
most `limit + 1` entries are held, the ones that have been pushed last.  The entries that have been
popped came out in the order in which they were pushed, none of them twice and each as it was
pushed.  An entry has left without being popped if some push found `limit + 1` entries and it was
the oldest, and only then.  No entry is missing if never more than `limit + 1` have been
outstanding, and only then. -/
theorem clones_share_window {α : Type} {limit n : Nat} (history : History α limit n) :
    (∀ holder, history.shared.queue holder = { limit, items := history.window }) ∧
      history.answers = history.windowAnswers ∧
      history.held.length ≤ limit + 1 ∧
      history.held = history.pushed.drop history.departed ∧
      history.popped.Sublist history.pushed ∧
      history.taken.Pairwise (· < ·) ∧
      history.popped.map some = history.taken.map (history.pushed[·]?) ∧
      (∀ number, number < history.departed ∧ number ∉ history.taken ↔ number ∈ history.givenUp) ∧
      (history.popped ++ history.held = history.pushed ↔ history.peak ≤ limit + 1) := by
  refine ⟨fun holder => ?_, history.answers_eq_windowAnswers, history.length_held_le,
    history.held_eq_drop, ?_, history.taken_pairwise, history.popped_eq_taken,
    fun number => (history.mem_givenUp_iff number).symm, ?_⟩
  · rw [history.queue_eq, history.held_eq_window]
  · exact history.popped_sublist_take.trans (List.take_sublist _ _)
  · exact history.popped_append_held_eq_iff.trans history.peak_le_iff.symm

/-- The clone pops what the first holder has pushed and not lost. -/
example :
    let filled := [0, 1, 2, 3].foldl (fun before item => before.push 0 ⟨item⟩ item)
      (.new : History Nat 1 1)
    let emptied := (((filled.clone 0).pop 1).pop 1).pop 0
    emptied.answers = [some (⟨2⟩, 2), some (⟨3⟩, 3), none] ∧ emptied.givenUp = [0, 1] ∧
      emptied.taken = [2, 3] ∧ emptied.peak = 4 := by
  decide

end Handheld.ClockedQueue
