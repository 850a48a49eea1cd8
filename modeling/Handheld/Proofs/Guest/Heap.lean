import Handheld.Proofs.Guest.Areas
import Handheld.Rehearsal.Platform

/-!
# The Heap of the Sample Core

The sample core hands out blocks one behind the other.  A block has room if its end, rounded up to a
multiple of eight, is not behind the end of memory, but the sum that is compared wraps around.  So
there are three ways in which a call for a block goes (`Sample.Lawful`): it is met, or it is
refused, or its end is behind the last word and it is granted although it cannot be met.

The core answers any calls in a row in these ways (`Sample.Chain`), and `Sample.malloc_sound_iff`
says that what it hands out is good memory as long as the third way is not taken, and no longer.
-/

namespace Handheld.Sample

open Bench (handedOut)

/-! ## §1 Calls for blocks

`Chain` is a row of calls with what comes of each;  `Sound` says what one expects of the blocks, and
`Addressable` that no sum on the way wraps around, in numbers that do not wrap. -/

/-- A call for a block and its answer, with the top of the heap before and after it. -/
structure Grant where
  before : UInt32
  len : UInt32
  answer : Except Error UInt32
  after : UInt32

def Grant.call (grant : Grant) : NativeCall := ⟨.malloc grant.len, grant.answer⟩

/-- The blocks that have been handed out. -/
def blocks (grants : List Grant) : List Block := handedOut (grants.map Grant.call)

/-- Asks for one block after another. -/
def mallocAll [Sandbox] :
    List UInt32 → Machine (Linked Sample) → Faulty (List Grant × Machine (Linked Sample))
  | [], machine => return ([], machine)
  | len :: lens, machine => do
    let (answer, next) ← NativeCore.answer (.malloc len) machine
    let (grants, last) ← mallocAll lens next
    return (⟨machine.state.state.heap, len, answer, next.state.state.heap⟩ :: grants, last)

/-- Every block lies inside of the heap and apart from all others, and a call that there is no room
for has not moved the heap. -/
structure Sound (grants : List Grant) : Prop where
  answered : ∀ grant ∈ grants, ∃ addr, grant.answer = .ok addr
  placed : ∀ block ∈ blocks grants,
    8 ∣ block.addr.toNat ∧ 0x1000 ≤ block.addr.toNat ∧ block.stop ≤ memorySize
  apart : (blocks grants).Pairwise fun earlier later => earlier.len ≠ 0 → later.len ≠ 0 →
    earlier.stop ≤ later.addr.toNat ∨ later.stop ≤ earlier.addr.toNat
  unmet : ∀ grant ∈ grants, memorySize < grant.before.toNat + grant.len.toNat →
    grant.answer = .ok 0 ∧ grant.after = grant.before

/-- If blocks of these lengths are laid one behind the other wherever there is room for them, no end
of any has to be rounded beyond the last word. -/
def Addressable (top : Nat) : List UInt32 → Prop
  | [] => True
  | len :: lens => top + len.toNat + 7 < 2 ^ 32 ∧
    Addressable (if top + len.toNat ≤ memorySize then (top + len.toNat + 7) / 8 * 8 else top) lens

/-- What comes of a call for a block: the answer, and the top of the heap after it. -/
inductive Lawful : (before len : UInt32) → Except Error UInt32 → (after : UInt32) → Prop
  | met {before len after : UInt32} (room : before.toNat + len.toNat ≤ memorySize)
      (rounded : after.toNat = (before.toNat + len.toNat + 7) / 8 * 8) :
      Lawful before len (.ok before) after
  | unmet {before len : UInt32} (full : memorySize < before.toNat + len.toNat)
      (word : before.toNat + len.toNat + 7 < 2 ^ 32) : Lawful before len (.ok 0) before
  /-- The end of the block is taken for a low address. -/
  | wrapped {before len after : UInt32} (beyond : 2 ^ 32 ≤ before.toNat + len.toNat + 7)
      (rounded : after.toNat = (before.toNat + len.toNat + 7 - 2 ^ 32) / 8 * 8) :
      Lawful before len (.ok before) after

/-- Calls in a row, the first one with this top of the heap. -/
inductive Chain : (top : UInt32) → List Grant → Prop
  | nil {top : UInt32} : Chain top []
  | cons {before len after : UInt32} {answer : Except Error UInt32} {grants : List Grant}
      (lawful : Lawful before len answer after) (rest : Chain after grants) :
      Chain before (⟨before, len, answer, after⟩ :: grants)

/-! ## §2 The core -/

/-- The heap begins on a multiple of eight inside of memory. -/
structure Poised (machine : Machine (Linked Sample)) : Prop extends Intact machine where
  aligned : 8 ∣ machine.state.state.heap.toNat
  inside : machine.state.state.heap.toNat ≤ memorySize

variable {machine : Machine (Linked Sample)} {grant : Grant} {grants : List Grant}
  {before len after top : UInt32} {lens : List UInt32}

theorem poised_fresh : Poised fresh where
  toIntact := books_fresh.toIntact
  aligned := by decide
  inside := by decide

theorem Poised.moved (poised : Poised machine) {stop : Nat} (rounded : top.toNat = stop / 8 * 8)
    (room : top.toNat ≤ memorySize) : Poised { machine with state.state.heap := top } :=
  ⟨⟨poised.size, poised.body⟩, ⟨_, rounded.trans (Nat.mul_comm ..)⟩, room⟩

/-- Every call goes in one of the three ways.  A sum that wraps around is never behind the top of
the heap, so its block is always handed out. -/
theorem Poised.malloc [Sandbox] (poised : Poised machine) (len : UInt32) :
    ∃ answer next, NativeCore.answer (.malloc len) machine = .ok (answer, next) ∧ Poised next ∧
      Lawful machine.state.state.heap len answer next.state.state.heap := by
  obtain ⟨top, rounded, outcome⟩ := poised.malloc_top len
  have aligned := poised.aligned
  have inside := poised.inside
  have size : memorySize = 0x20000 := rfl
  -- Either the sum of the core is the true one, or it is short by exactly one wrap.
  by_cases word : machine.state.state.heap.toNat + len.toNat + 7 < 2 ^ 32
  · rw [Nat.mod_eq_of_lt word] at rounded
    rcases outcome with ⟨short, answered⟩ | ⟨room, answered⟩
    · exact ⟨_, _, answered, poised, .unmet (by omega) word⟩
    · exact ⟨_, _, answered, poised.moved rounded room, .met (by omega) rounded⟩
  · have small := len.toNat_lt
    rw [Nat.mod_eq_sub_mod (Nat.not_lt.1 word), Nat.mod_eq_of_lt (by omega)] at rounded
    rcases outcome with ⟨short, answered⟩ | ⟨room, answered⟩
    -- This does not occur: what is left after a wrap is small.
    · omega
    · exact ⟨_, _, answered, poised.moved rounded room, .wrapped (Nat.not_lt.1 word) rounded⟩

theorem mallocAll_cons [Sandbox] {next last : Machine (Linked Sample)}
    {answer : Except Error UInt32}
    (answered : NativeCore.answer (.malloc len) machine = .ok (answer, next))
    (rest : mallocAll lens next = .ok (grants, last)) :
    mallocAll (len :: lens) machine =
      .ok (⟨machine.state.state.heap, len, answer, next.state.state.heap⟩ :: grants, last) := by
  rw [mallocAll, answered]
  show (mallocAll lens next >>= _) = _
  rw [rest]
  rfl

theorem Poised.mallocAll [Sandbox] (poised : Poised machine) (lens : List UInt32) :
    ∃ grants last, mallocAll lens machine = .ok (grants, last) ∧
      grants.map Grant.len = lens ∧ Chain machine.state.state.heap grants := by
  -- The induction is on the lengths, for every top at which a heap can be poised.
  induction lens generalizing machine with
  | nil => exact ⟨[], machine, rfl, rfl, .nil⟩
  | cons len lens ih =>
    obtain ⟨answer, next, answered, next_poised, lawful⟩ := poised.malloc len
    obtain ⟨grants, last, rest, same, chain⟩ := ih next_poised
    refine ⟨_, last, mallocAll_cons answered rest, ?_, .cons lawful chain⟩
    rw [List.map_cons, same]

/-! ## §3 What is handed out

The equivalence has two inductions over the chain.  Forwards, every block lies behind those that
were handed out before; backwards, a sum that wraps gives itself away, because its block does not
lie in memory. -/

theorem blocks_granted (nonzero : before ≠ 0) :
    blocks (⟨before, len, .ok before, after⟩ :: grants) = ⟨before, len⟩ :: blocks grants := by
  simp [blocks, Grant.call, handedOut, nonzero]

theorem blocks_refused :
    blocks (⟨before, len, .ok 0, after⟩ :: grants) = blocks grants := by
  simp [blocks, Grant.call, handedOut]

theorem Sound.tail (sound : Sound (grant :: grants)) : Sound grants := by
  -- The blocks of the later calls are some of all blocks.
  have fewer : (blocks grants).Sublist (blocks (grant :: grants)) :=
    ((List.sublist_cons_self grant grants).map Grant.call).filterMap _
  exact ⟨fun other there => sound.answered other (List.mem_cons_of_mem _ there),
    fun block there => sound.placed block (fewer.subset there), sound.apart.sublist fewer,
    fun other there => sound.unmet other (List.mem_cons_of_mem _ there)⟩

theorem sound_nil : Sound [] := ⟨by simp, by simp [blocks, handedOut], .nil, by simp⟩

/-- A block is added that lies in front of all others. -/
theorem Sound.cons_met (sound : Sound grants) (aligned : 8 ∣ before.toNat)
    (low : 0x1000 ≤ before.toNat) (room : before.toNat + len.toNat ≤ memorySize)
    (behind : ∀ block ∈ blocks grants, before.toNat + len.toNat ≤ block.addr.toNat) :
    Sound (⟨before, len, .ok before, after⟩ :: grants) := by
  have nonzero : before ≠ 0 := by
    rintro rfl
    exact Nat.not_lt_zero _ low
  refine ⟨List.forall_mem_cons.2 ⟨⟨_, rfl⟩, sound.answered⟩, ?_, ?_,
    List.forall_mem_cons.2 ⟨fun full => absurd room (Nat.not_le.2 full), sound.unmet⟩⟩
  · rw [blocks_granted nonzero]
    exact List.forall_mem_cons.2 ⟨⟨aligned, low, room⟩, sound.placed⟩
  · rw [blocks_granted nonzero]
    exact List.pairwise_cons.2 ⟨fun block there _ _ => .inl (behind block there), sound.apart⟩

theorem Sound.cons_unmet (sound : Sound grants) :
    Sound (⟨before, len, .ok 0, before⟩ :: grants) := by
  refine ⟨List.forall_mem_cons.2 ⟨⟨_, rfl⟩, sound.answered⟩, ?_, ?_,
    List.forall_mem_cons.2 ⟨fun _ => ⟨rfl, rfl⟩, sound.unmet⟩⟩
  · rw [blocks_refused]
    exact sound.placed
  · rw [blocks_refused]
    exact sound.apart

/-- As long as no sum wraps around, every block lies behind those that were handed out before. -/
theorem Chain.sound_of_addressable (chain : Chain top grants) (aligned : 8 ∣ top.toNat)
    (low : 0x1000 ≤ top.toNat) (addressable : Addressable top.toNat (grants.map Grant.len)) :
    Sound grants ∧ ∀ block ∈ blocks grants, top.toNat ≤ block.addr.toNat := by
  -- The induction is on the chain, and it carries along that all later blocks lie behind the top.
  induction chain with
  | nil => exact ⟨sound_nil, by simp [blocks, handedOut]⟩
  | @cons before len after answer grants lawful rest ih =>
    obtain ⟨word, later⟩ := addressable
    cases lawful with
    | met room rounded =>
      rw [if_pos room, ← rounded] at later
      obtain ⟨sound, behind⟩ := ih ⟨_, rounded.trans (Nat.mul_comm ..)⟩ (by omega) later
      have behind_all : ∀ block ∈ blocks grants, before.toNat + len.toNat ≤ block.addr.toNat :=
        fun block there => Nat.le_trans (by omega) (behind block there)
      refine ⟨sound.cons_met aligned low room behind_all, ?_⟩
      rw [blocks_granted (by rintro rfl; exact Nat.not_lt_zero _ low)]
      exact List.forall_mem_cons.2 ⟨Nat.le_refl _, fun block there =>
        Nat.le_trans (Nat.le_add_right ..) (behind_all block there)⟩
    | unmet full _ =>
      rw [if_neg (Nat.not_le.2 full)] at later
      obtain ⟨sound, behind⟩ := ih aligned low later
      rw [blocks_refused]
      exact ⟨sound.cons_unmet, behind⟩
    | wrapped beyond _ => exact absurd word (Nat.not_lt.2 beyond)

/-- The first sum that wraps around hands out a block that ends behind memory. -/
theorem Chain.addressable_of_sound (chain : Chain top grants) (low : 0x1000 ≤ top.toNat)
    (sound : Sound grants) : Addressable top.toNat (grants.map Grant.len) := by
  have size : memorySize = 0x20000 := rfl
  -- The same induction in the other direction: at every call, a sound answer rules out that the sum
  -- has wrapped.
  induction chain with
  | nil => trivial
  | @cons before len after answer grants lawful rest ih =>
    cases lawful with
    | met room rounded =>
      have word : before.toNat + len.toNat + 7 < 2 ^ 32 := by omega
      refine ⟨word, ?_⟩
      rw [if_pos room, ← rounded]
      exact ih (by omega) sound.tail
    | unmet full word =>
      refine ⟨word, ?_⟩
      rw [if_neg (Nat.not_le.2 full)]
      exact ih low sound.tail
    | wrapped beyond _ =>
      -- A sum that wraps is beyond the end of memory, so the call ought to have been refused.
      have full : memorySize < before.toNat + len.toNat := by omega
      obtain ⟨null, -⟩ := sound.unmet _ List.mem_cons_self full
      obtain rfl : before = 0 := Except.ok.inj null
      exact absurd low (Nat.not_lt_zero _)

/-- Calls of any lengths in a row are answered as listed, from the beginning of the heap on.  What
is handed out is good memory exactly if no end of a block has to be rounded beyond the last word. -/
theorem malloc_sound_iff [Sandbox] (lens : List UInt32) :
    ∃ machine grants last, ((image .plain {}).link .plain).value = .ok machine ∧
      mallocAll lens machine = .ok (grants, last) ∧
      grants.map Grant.len = lens ∧ Chain 0x1000 grants ∧
      (Sound grants ↔ Addressable 0x1000 lens) := by
  obtain ⟨grants, last, run, same, chain⟩ := poised_fresh.mallocAll lens
  subst same
  have linked : ((image .plain {}).link .plain).value = .ok fresh := by rw [link_image]
  exact ⟨fresh, grants, last, linked, run, rfl, chain, chain.addressable_of_sound (by decide),
    fun addressable => (chain.sound_of_addressable (by decide) (by decide) addressable).1⟩

theorem Lawful.of_longest {answer : Except Error UInt32}
    (lawful : Lawful 0x1000 0xFFFFFFFF answer after) : answer = .ok 0x1000 ∧ after = 0x1000 := by
  cases lawful with
  | met room _ => exact absurd room (by decide)
  | unmet _ word => exact absurd word (by decide)
  | wrapped _ rounded => exact ⟨rfl, UInt32.toNat_inj.1 rounded⟩

/-- The longest block there can be is handed out at the beginning of the heap, and the next block
will be, too. -/
theorem malloc_grants_longest_block :
    ∃ machine last, ((image .plain {}).link .plain).value = .ok machine ∧
      mallocAll [0xFFFFFFFF] machine =
        .ok ([⟨0x1000, 0xFFFFFFFF, .ok 0x1000, 0x1000⟩], last) ∧
      ¬ Sound [⟨0x1000, 0xFFFFFFFF, .ok 0x1000, 0x1000⟩] := by
  obtain ⟨answer, next, answered, -, lawful⟩ := poised_fresh.malloc 0xFFFFFFFF
  obtain ⟨rfl, top⟩ := lawful.of_longest
  refine ⟨fresh, next, by rw [link_image], ?_, fun sound => ?_⟩
  · rw [mallocAll_cons answered rfl, top]
    rfl
  · obtain ⟨null, -⟩ := sound.unmet _ List.mem_cons_self (by decide)
    cases null

end Handheld.Sample
