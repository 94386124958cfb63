import Custody.Proofs.Ring.Search
import Custody.Queue

/-!
# Bounded queues as lists

The operations of a bounded queue, told by the list of its elements.

* `Queue.push_eq`: an element comes last, if there is room;
* `Queue.pull?_eq`: the first element goes;
* `Queue.extract?_eq`: the first element that satisfies a test goes.
-/

namespace Custody

namespace Queue

variable {α : Type}

/-- The ring of the queue is laid out. -/
def Sound (q : Queue α) : Prop := q.ring.Sound

theorem sound_empty (capacity : Nat) : (empty capacity : Queue α).Sound :=
  Ring.sound_empty () capacity

@[simp] theorem toList_empty (capacity : Nat) : (empty capacity : Queue α).toList = [] := rfl

@[simp] theorem capacity_empty (n : Nat) : (empty n : Queue α).capacity = n :=
  Ring.capacity_empty () n

theorem length_toList {q : Queue α} (h : q.Sound) : q.toList.length = q.size := by
  simp [toList, size, Ring.length_entries h]

theorem size_le_capacity {q : Queue α} (h : q.Sound) : q.size ≤ q.capacity :=
  Ring.size_le_capacity h

theorem isFull_iff (q : Queue α) : q.isFull = true ↔ q.size = q.capacity := by
  simp [isFull, size, capacity, Ring.isFull]

theorem head?_eq {q : Queue α} (h : q.Sound) : q.head? = q.toList.head? := by
  obtain ⟨live, free, laid⟩ := h
  rw [head?, Ring.front?_eq laid, toList, List.head?_map]

theorem isEmpty_eq {q : Queue α} (h : q.Sound) : q.isEmpty = q.toList.isEmpty := by
  have size := length_toList h
  rw [Bool.eq_iff_iff, isEmpty, Ring.isEmpty, beq_iff_eq, List.isEmpty_iff_length_eq_zero, size]
  rfl

theorem isFull_eq {q : Queue α} (h : q.Sound) : q.isFull = (q.toList.length == q.capacity) := by
  rw [length_toList h]
  rfl

/-- A push succeeds just when there is room. -/
theorem push_eq {q : Queue α} (h : q.Sound) (value : α) :
    if q.toList.length < q.capacity then
      ∃ q', q.push value = .ok q' ∧ q'.Sound ∧ q'.capacity = q.capacity ∧
        q'.toList = q.toList ++ [value]
    else q.push value = .error value ∧ q.isFull = true := by
  have size := length_toList h
  have bound := size_le_capacity h
  split
  · rename_i room
    have notFull : q.isFull = false := by
      rw [Bool.eq_false_iff, Ne, isFull_iff]
      omega
    obtain ⟨live, free, laid⟩ := h
    have total := laid.length_eq_capacity
    have live_length := laid.size
    cases free with
    | nil =>
      simp only [Queue.size, Queue.capacity, List.length_nil] at *
      omega
    | cons f free =>
      refine ⟨q.append value, by simp [push, notFull], ⟨_, _, Ring.laid_pushBack laid () value⟩,
        Ring.capacity_pushBack q.ring () value, ?_⟩
      simp [toList, append, Ring.entries_pushBack laid]
  · have full : q.isFull = true := by
      rw [isFull_iff]
      omega
    exact ⟨by simp [push, full], full⟩

theorem pull?_eq {q : Queue α} (h : q.Sound) :
    match q.toList with
    | [] => q.pull? = none
    | value :: rest => ∃ q', q.pull? = some (value, q') ∧ q'.Sound ∧
        q'.capacity = q.capacity ∧ q'.toList = rest := by
  have pop := Ring.popFront?_eq h
  cases hentries : q.ring.entries with
  | nil =>
    simp only [hentries] at pop
    simp [toList, hentries, pull?, pop]
  | cons entry rest =>
    simp only [hentries] at pop
    obtain ⟨ring, hpop, sound, capacity, entries⟩ := pop
    simp only [toList, hentries, List.map_cons]
    exact ⟨⟨ring⟩, by simp [pull?, hpop], sound, capacity, by simp [entries]⟩

theorem extract?_eq {q : Queue α} (h : q.Sound) (p : α → Bool) :
    match q.toList.find? p with
    | none => q.extract? p = none
    | some value => ∃ q', q.extract? p = some (value, q') ∧ q'.Sound ∧
        q'.capacity = q.capacity ∧ q'.toList = q.toList.eraseP p := by
  have found := Ring.removeFirst_pure h fun _ value => p value
  have hfind : q.toList.find? p = (q.ring.entries.find? fun entry => p entry.2).map Prod.snd := by
    rw [toList, List.find?_map]
    rfl
  have herase : q.toList.eraseP p =
      (q.ring.entries.eraseP fun entry => p entry.2).map Prod.snd := by
    simp [toList, List.eraseP_map, Function.comp_def]
  rw [hfind, herase]
  cases hf : q.ring.entries.find? fun entry => p entry.2 with
  | none =>
    simp only [hf] at found
    simp [extract?, removeFirst, found]
  | some entry =>
    simp only [hf] at found
    obtain ⟨ring, hremove, sound, capacity, entries⟩ := found
    simp only [Option.map_some]
    exact ⟨⟨ring⟩, by simp [extract?, removeFirst, hremove], sound, capacity,
      by simp [toList, entries]⟩

end Queue

end Custody
