import Custody.Broker.Stats
import Custody.Proofs.Broker.Change
import Mathlib.Data.List.Count

/-!
# The counts of a broker

In a valid broker there is always room where the operations need it, because no
resource is counted both as ranked and as held.

* `Broker.Valid.idle_add_busy_le`, `Broker.Valid.waiting_le`: the counts against each other;
* `Broker.Valid.push_ranked`: a resource that is registered, or given up, finds room in the
  ranking;
* `Broker.Valid.handOver_ranked`: so nothing that is given up is left out of it.
-/

namespace Custody

namespace Record

variable {ρ : Type} {capacity : Nat} {record : Record ρ}

/-- Nobody waits for a free resource, and for one that is held no more than there is room
for. -/
theorem Valid.size_waiters_le (h : record.Valid capacity) :
    record.waiters.size ≤ if record.busy then capacity else 0 := by
  cases hbusy : record.busy with
  | true =>
    rw [if_pos rfl, ← h.capacity]
    exact Queue.size_le_capacity h.sound
  | false => simp [← Queue.length_toList h.sound, h.attended hbusy]

theorem Valid.busy_of_waiters (h : record.Valid capacity)
    (waited : record.waiters.toList ≠ []) : record.busy = true := by
  by_contra free
  exact waited (h.attended (by simpa using free))

/-- The waiters of records are no more than the held ones have room for. -/
theorem sum_size_waiters_le {records : List (Record ρ)}
    (h : ∀ record ∈ records, record.Valid capacity) :
    (records.map (·.waiters.size)).foldr (· + ·) 0 ≤ records.countP (·.busy) * capacity := by
  induction records with
  | nil => simp
  | cons record rest ih =>
    have others := ih fun other mem => h other (List.mem_cons_of_mem _ mem)
    have first := (h record (by simp)).size_waiters_le
    rw [List.map_cons, List.foldr_cons, List.countP_cons, Nat.add_mul]
    cases hbusy : record.busy with
    | true =>
      rw [hbusy, if_pos rfl] at first
      simp only [if_true, Nat.one_mul]
      omega
    | false =>
      simp only [hbusy, Bool.false_eq_true, if_false, Nat.le_zero] at first
      simp only [Bool.false_eq_true, if_false, Nat.zero_mul]
      omega

end Record

namespace Broker

variable {ι ρ : Type} [DecidableEq ι] {b : Broker ι ρ} {id : ι}

namespace Valid

theorem length_idleIds (h : b.Valid) : b.idleIds.length = b.idle.size := by
  rw [idleIds, RankedQueue.toList, List.length_map, RankedQueue.length_entries h.sound]

/-- What is ranked is registered and free. -/
theorem idle_le_free (h : b.Valid) : b.idle.size ≤ b.records.values.countP fun r => !r.busy := by
  rw [← h.length_idleIds, Registry.countP_values]
  apply List.Subperm.length_le
  apply List.subperm_of_subset h.ranked_nodup
  intro id mem
  obtain ⟨record, hget, free⟩ := exists_record (h.ranked_free id mem)
  rw [Registry.mem_filter_keys, hget]
  simp [free]

omit [DecidableEq ι] in
theorem size_eq_busy_add_free (b : Broker ι ρ) :
    b.records.size = b.records.values.countP (·.busy) +
      b.records.values.countP fun r => !r.busy := by
  have split :=
    List.length_eq_countP_add_countP (fun r : Record ρ => r.busy) (l := b.records.values)
  simp only [Bool.not_eq_true, Bool.decide_eq_false] at split
  rw [← split, Registry.values, List.length_map, Registry.size]

theorem idle_add_busy_le (h : b.Valid) : b.stats.idle + b.stats.busy ≤ b.stats.registered := by
  have free := h.idle_le_free
  have total := size_eq_busy_add_free b
  simp only [stats]
  omega

theorem waiting_le (h : b.Valid) :
    b.stats.waiting ≤ b.stats.busy * b.settings.waiterCapacity.toNat := by
  apply Record.sum_size_waiters_le
  intro record mem
  obtain ⟨entry, hentry, rfl⟩ := List.mem_map.1 mem
  exact h.record entry.1 entry.2 (Registry.get?_of_mem hentry)

/-- There is room in the ranking while a resource is held, and while one more can be
registered. -/
theorem idle_lt_capacity (h : b.Valid)
    (room : b.isBusy? id = some true ∨ b.records.size < b.settings.maxResources.toNat) :
    b.idle.size < b.idle.capacity := by
  have free := h.idle_le_free
  have total := size_eq_busy_add_free b
  have bound := h.size_le
  rw [h.capacity]
  rcases room with held | room
  · obtain ⟨record, hget, busy⟩ := exists_record held
    have positive : 0 < b.records.values.countP (·.busy) := by
      rw [Registry.countP_values, List.length_pos_iff_exists_mem]
      refine ⟨id, (Registry.mem_filter_keys _ _ _).2 ?_⟩
      simp [hget, busy]
    omega
  · omega

/-- A resource that is registered, or given up, is ranked. -/
theorem push_ranked (h : b.Valid) (id : ι) (priority : Priority)
    (room : b.isBusy? id = some true ∨ b.records.size < b.settings.maxResources.toNat) :
    ∃ idle, b.idle.push priority id = .ok idle ∧ idle.Sound ∧ idle.capacity = b.idle.capacity ∧
      idle.order = b.idle.order ∧
      idle.entries = RankedQueue.ranked b.idle.order (priority, id) b.idle.entries := by
  have pushed := RankedQueue.push_eq h.sound priority id
  rwa [if_pos (by rw [RankedQueue.length_entries h.sound]; exact h.idle_lt_capacity room)] at pushed

theorem handOver_ranked (h : b.Valid) (listens : RequestId → Bool) (id : ι)
    (priority : Priority) : (b.handOver listens id priority).unranked = false := by
  rcases hbusy : b.isBusy? id with _ | _ | _
  · have hget := (isBusy?_eq_none_iff b id).1 hbusy
    simp [handOver, hget]
  · obtain ⟨record, hget, free⟩ := exists_record hbusy
    simp [handOver, hget, free]
  · obtain ⟨record, hget, busy⟩ := exists_record hbusy
    obtain ⟨idle, hpush, _⟩ := h.push_ranked id priority (.inl hbusy)
    rcases hfirst : firstListening listens record.waiters.size record.waiters with
      ⟨vanished, _ | signal, waiters⟩ <;> simp [handOver, hget, busy, hfirst, hpush]

end Valid

end Broker

end Custody
