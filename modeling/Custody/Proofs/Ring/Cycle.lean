import Custody.Proofs.Ring.Contents
import Mathlib.Data.List.Nodup
import Mathlib.Logic.Function.Iterate

/-!
# The cycle of a ring

What a layout says of the slots one by one: where a walk along the links comes to, and what it
finds there.

* `Ring.Leads.getElem?_eq`: the slot that a walk comes to after so many links;
* `Ring.Whole`: the links form one cycle, the live slots first and then the free ones;
* `Ring.Laid.whole`: a ring that is laid out is whole.
-/

namespace Custody

namespace Ring

variable {κ α : Type}

/-- The links form one cycle through all slots. From `head` come the slots that hold the
entries, the last of them is `tail`, and the free slots follow. -/
structure Whole (r : Ring κ α) : Prop where
  size_le : r.size ≤ r.capacity
  head_lt : 0 < r.capacity → r.head < r.capacity
  tail_lt : 0 < r.capacity → r.tail < r.capacity
  next_lt : ∀ i < r.capacity, r.next i < r.capacity
  once : ∀ i < r.capacity, ∃! n, n < r.capacity ∧ r.next^[n] r.head = i
  closes : r.next^[r.capacity] r.head = r.head
  held : ∀ n < r.size, (r.entryAt? (r.next^[n] r.head)).isSome
  last : 0 < r.size → r.next^[r.size - 1] r.head = r.tail
  firstFree : r.size < r.capacity → r.next^[r.size] r.head = r.freeSlot
  vacant : ∀ n, r.size ≤ n → n < r.capacity → r.entryAt? (r.next^[n] r.head) = none
  coincide : r.size ≤ 1 → r.head = r.tail
  walked : r.entries.length = r.size ∧
    ∀ n < r.size, r.entries[n]? = r.entryAt? (r.next^[n] r.head)

theorem Leads.getElem?_eq {next : Nat → Nat} {i j : Nat} {ks : List Nat}
    (walk : Leads next i ks j) {n : Nat} (inside : n < ks.length) :
    ks[n]? = some (next^[n] i) := by
  induction ks generalizing i n with
  | nil => simp at inside
  | cons k ks ih =>
    obtain ⟨rfl, walk⟩ := walk
    cases n with
    | zero => rfl
    | succ n =>
      rw [List.getElem?_cons_succ, Function.iterate_succ_apply]
      exact ih walk (by simpa using inside)

theorem Leads.iterate_length {next : Nat → Nat} {i j : Nat} {ks : List Nat}
    (walk : Leads next i ks j) : next^[ks.length] i = j := by
  induction ks generalizing i with
  | nil => exact walk
  | cons k ks ih =>
    obtain ⟨rfl, walk⟩ := walk
    rw [List.length_cons, Function.iterate_succ_apply]
    exact ih walk

namespace Laid

variable {r : Ring κ α} {live free : List Nat}

/-- The slot that a walk from `head` comes to. -/
theorem slot_eq (h : r.Laid live free) {n : Nat} (inside : n < r.capacity) :
    (live ++ free)[n]? = some (r.next^[n] r.head) := by
  have total := h.length_eq_capacity
  apply h.cycle.getElem?_eq
  rw [List.length_append]
  omega

theorem live_eq (h : r.Laid live free) {n : Nat} (inside : n < r.size) :
    live[n]? = some (r.next^[n] r.head) := by
  have total := h.length_eq_capacity
  have size := h.size
  rw [← h.slot_eq (by omega), List.getElem?_append_left (by omega)]

theorem free_eq (h : r.Laid live free) {n : Nat} (behind : r.size ≤ n) (inside : n < r.capacity) :
    free[n - r.size]? = some (r.next^[n] r.head) := by
  have size := h.size
  rw [← h.slot_eq inside, List.getElem?_append_right (by omega), size]

theorem closes (h : r.Laid live free) : r.next^[r.capacity] r.head = r.head := by
  rw [← h.length_eq_capacity, ← List.length_append]
  exact h.cycle.iterate_length

theorem once (h : r.Laid live free) {i : Nat} (hi : i < r.capacity) :
    ∃! n, n < r.capacity ∧ r.next^[n] r.head = i := by
  have total : (live ++ free).length = r.capacity := by
    rw [List.length_append]
    exact h.length_eq_capacity
  obtain ⟨n, inside, hn⟩ := List.getElem_of_mem ((h.mem i).2 hi)
  refine ⟨n, ⟨by omega, ?_⟩, ?_⟩
  · have here := h.slot_eq (n := n) (by omega)
    rw [List.getElem?_eq_getElem inside, hn] at here
    exact (Option.some.inj here).symm
  · rintro m ⟨bound, hm⟩
    have there := h.slot_eq bound
    have inside' : m < (live ++ free).length := by omega
    rw [List.getElem?_eq_getElem inside', hm] at there
    apply (List.Nodup.getElem_inj_iff h.nodup).1
    rw [hn]
    exact Option.some.inj there

theorem next_lt (h : r.Laid live free) {i : Nat} (hi : i < r.capacity) :
    r.next i < r.capacity := by
  obtain ⟨n, ⟨inside, rfl⟩, _⟩ := h.once hi
  rw [← Function.iterate_succ_apply' r.next, Nat.succ_eq_add_one]
  by_cases last : n + 1 = r.capacity
  · rw [last, h.closes]
    have here := h.slot_eq (n := 0) (by omega)
    exact h.lt_capacity (List.mem_of_getElem? here)
  · have here := h.slot_eq (n := n + 1) (by omega)
    exact h.lt_capacity (List.mem_of_getElem? here)

theorem freeSlot_eq_iterate (h : r.Laid live free) (room : r.size < r.capacity) :
    r.next^[r.size] r.head = r.freeSlot := by
  have first := h.free_eq (Nat.le_refl _) room
  rw [Nat.sub_self] at first
  cases free with
  | nil => simp at first
  | cons f free =>
    rw [freeSlot_eq h]
    exact (Option.some.inj first).symm

theorem tail_eq_iterate (h : r.Laid live free) (some : 0 < r.size) :
    r.next^[r.size - 1] r.head = r.tail := by
  have last := h.live_eq (n := r.size - 1) (by omega)
  rw [h.size, ← List.getLast?_eq_getElem?] at last
  rw [h.tail, last, h.size]
  rfl

theorem coincide (h : r.Laid live free) (few : r.size ≤ 1) : r.head = r.tail := by
  by_cases none : r.size = 0
  · have nobody : live = [] := List.eq_nil_of_length_eq_zero (h.size.symm.trans none)
    rw [h.tail, nobody]
    rfl
  · have one : r.size = 1 := by omega
    have last := h.tail_eq_iterate (by omega)
    rw [one] at last
    exact last

theorem whole (h : r.Laid live free) : r.Whole where
  size_le := size_le_capacity ⟨_, _, h⟩
  head_lt := by
    intro some
    exact h.lt_capacity (List.mem_of_getElem? (h.slot_eq (n := 0) some))
  tail_lt := by
    intro some
    by_cases none : r.size = 0
    · rw [← h.coincide (by omega)]
      exact h.lt_capacity (List.mem_of_getElem? (h.slot_eq (n := 0) some))
    · have bound := size_le_capacity ⟨_, _, h⟩
      rw [← h.tail_eq_iterate (by omega)]
      exact h.lt_capacity (List.mem_of_getElem? (h.slot_eq (by omega)))
  next_lt i hi := h.next_lt hi
  once i hi := h.once hi
  closes := h.closes
  held n inside := h.held _ (List.mem_of_getElem? (h.live_eq inside))
  last some := h.tail_eq_iterate some
  firstFree room := h.freeSlot_eq_iterate room
  vacant n behind inside := h.vacant _ (List.mem_of_getElem? (h.free_eq behind inside))
  coincide few := h.coincide few
  walked := by
    refine ⟨length_entries ⟨_, _, h⟩, ?_⟩
    intro n inside
    obtain ⟨front, back, split, length⟩ : ∃ front back,
        live = front ++ r.next^[n] r.head :: back ∧ front.length = n := by
      have bound : n < live.length := by
        rw [← h.size]
        exact inside
      have here := h.live_eq inside
      rw [List.getElem?_eq_getElem bound, Option.some.injEq] at here
      refine ⟨live.take n, live.drop (n + 1), ?_, by simp; omega⟩
      rw [← here, ← List.drop_eq_getElem_cons, List.take_append_drop]
    have laid : r.Laid (front ++ r.next^[n] r.head :: back) free := split ▸ h
    have found := getElem?_entries laid
    rwa [length] at found

end Laid

theorem Sound.whole {r : Ring κ α} (h : r.Sound) : r.Whole := by
  obtain ⟨live, free, laid⟩ := h
  exact laid.whole

end Ring

end Custody
