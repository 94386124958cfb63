import Custody.Proofs.Ring.Search

/-!
# Changes of a ring

The stamp counts the changes: an entry that comes and an entry that goes advance it by one
each, and nothing else does.

* `Ring.stamp_pushBack`, `Ring.stamp_insertAt`, `Ring.stamp_dropLinked`: one change each;
* `Ring.drain_eq`: all entries go, first to last, and each is a change of its own.
-/

namespace Custody

namespace Ring

variable {κ α σ : Type} {r : Ring κ α} {live free : List Nat}

theorem stamp_pushBack (r : Ring κ α) (key : κ) (value : α) :
    (r.pushBack key value).stamp = r.stamp + 1 := rfl

theorem stamp_insertAt (r : Ring κ α) {stop : Nat} (hs : stop < r.capacity) (key : κ)
    (value : α) : (r.insertAt stop key value).stamp = r.stamp + 1 := by
  have hs : stop < r.slots.size := hs
  simp [insertAt, hs, displace, grown, put, link]

theorem stamp_dropFront (r : Ring κ α) : r.dropFront.stamp = r.stamp + 1 := rfl

theorem stamp_dropLinked (r : Ring κ α) (before? : Option Nat) (i : Nat) :
    (r.dropLinked before? i).stamp = r.stamp + 1 := by
  cases before? <;> rfl

theorem stamp_unlink {before? : Option Nat} {i : Nat} {r' : Ring κ α} {entry : κ × α}
    (taken : r.unlink? before? i = some (entry, r')) : r'.stamp = r.stamp + 1 := by
  unfold unlink? at taken
  split at taken
  · cases taken
  · cases taken
    exact stamp_dropLinked r before? i

theorem stamp_popFront? {r' : Ring κ α} {entry : κ × α} (h : r.popFront? = some (entry, r')) :
    r'.stamp = r.stamp + 1 := by
  have unlinked : r.unlink? none r.head = some (entry, r') := h
  exact stamp_unlink unlinked

theorem stamp_removeFirst {test : κ → α → σ → Bool × σ} {s s' : σ} {r' : Ring κ α}
    {entry : κ × α} (h : r.removeFirst test s = (some (entry, r'), s')) :
    r'.stamp = r.stamp + 1 := by
  obtain ⟨_, _, _, unlinked⟩ := unlink_of_removeFirst (congrArg Prod.fst h)
  exact stamp_unlink unlinked

theorem size_dropFront (r : Ring κ α) : r.dropFront.size = r.size - 1 := rfl

/-- Enough steps take every entry. -/
theorem drainTo_eq (h : r.Sound) {n : Nat} (enough : r.size ≤ n) :
    (r.drainTo n).1 = r.entries ∧ (r.drainTo n).2.Sound ∧ (r.drainTo n).2.entries = [] ∧
    (r.drainTo n).2.capacity = r.capacity ∧
    (r.drainTo n).2.stamp = r.stamp + UInt64.ofNat r.size := by
  induction n generalizing r with
  | zero =>
    have size : r.size = 0 := by omega
    have none : r.entries = [] := List.eq_nil_of_length_eq_zero ((length_entries h).trans size)
    exact ⟨none.symm, h, none, rfl, by simp [drainTo, size]⟩
  | succ n ih =>
    obtain ⟨live, free, laid⟩ := h
    have front := front?_eq laid
    cases live with
    | nil =>
      have none : r.entries = [] := entries_eq laid
      have size : r.size = 0 := laid.size
      rw [none] at front
      rw [drainTo, front]
      exact ⟨none.symm, ⟨_, _, laid⟩, none, rfl, by simp [size]⟩
    | cons i live =>
      obtain ⟨entry, hentry⟩ := Option.isSome_iff_exists.1 (laid.held i List.mem_cons_self)
      have entries : r.entries = entry :: r.dropFront.entries := by
        rw [entries_dropFront laid, entries_eq laid, List.filterMap_cons_some hentry,
          List.tail_cons]
      have size : r.size = live.length + 1 := laid.size
      have less : r.dropFront.size ≤ n := by
        rw [size_dropFront]
        omega
      obtain ⟨taken, sound, none, capacity, stamp⟩ := ih (sound_dropFront laid) less
      rw [entries, List.head?_cons] at front
      rw [drainTo, front, entries]
      refine ⟨congrArg (entry :: ·) taken, sound, none, capacity.trans (capacity_dropFront r), ?_⟩
      rw [stamp, stamp_dropFront, size_dropFront, size, Nat.add_sub_cancel, UInt64.add_assoc,
        UInt64.add_comm 1, UInt64.ofNat_add]
      rfl

theorem drain_eq (h : r.Sound) :
    r.drain.1 = r.entries ∧ r.drain.2.Sound ∧ r.drain.2.entries = [] ∧
    r.drain.2.capacity = r.capacity ∧ r.drain.2.stamp = r.stamp + UInt64.ofNat r.size :=
  drainTo_eq h (Nat.le_refl _)

/-- With nothing to take the ring stays as it is. -/
theorem drain_of_entries_eq_nil (h : r.Sound) (nothing : r.entries = []) : r.drain.2 = r := by
  have size : r.size = 0 := by rw [← length_entries h, nothing, List.length_nil]
  simp [drain, size, drainTo]

end Ring

end Custody
