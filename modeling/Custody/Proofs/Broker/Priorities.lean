import Custody.Proofs.Broker.Entries

/-!
# Priorities on record

The priority of an id is written when it is registered and when it is given up, and by
nothing else.

* `Broker.KeepsPriority`: the priority of an id is what it was;
* `Broker.handOver_keeps`, `Broker.handOver_lastPriority`: what giving up writes.
-/

namespace Custody

namespace Broker

variable {ι ρ : Type} [DecidableEq ι] {b b' b'' : Broker ι ρ} {id x : ι}

/-- The id was registered before, if it is, and its priority is the same. -/
def KeepsPriority (b : Broker ι ρ) (x : ι) (b' : Broker ι ρ) : Prop :=
  ∀ record', b'.records.get? x = some record' →
    ∃ record, b.records.get? x = some record ∧ record'.lastPriority = record.lastPriority

theorem KeepsPriority.of_same (records : b'.records = b.records) (x : ι) :
    b.KeepsPriority x b' := by
  intro record' known
  rw [records] at known
  exact ⟨record', known, rfl⟩

theorem KeepsPriority.of_put (record : Record ρ) {record' : Record ρ}
    (records : b'.records = b.records.put id record')
    (kept : x = id → b.records.get? id = some record ∧
      record'.lastPriority = record.lastPriority) : b.KeepsPriority x b' := by
  intro found known
  rw [records, Registry.get?_put] at known
  split at known
  · rename_i heq
    obtain ⟨before, same⟩ := kept heq
    exact ⟨record, heq ▸ before, by rw [← Option.some.inj known, same]⟩
  · exact ⟨found, known, rfl⟩

theorem KeepsPriority.trans (first : b.KeepsPriority x b') (second : b'.KeepsPriority x b'') :
    b.KeepsPriority x b'' := by
  intro record'' known
  obtain ⟨record', known', same'⟩ := second record'' known
  obtain ⟨record, known'', same⟩ := first record' known'
  exact ⟨record, known'', same'.trans same⟩

theorem register_keeps {resource : ρ} {priority : Priority} (other : x ≠ id)
    (hok : b.register id resource priority = .ok b') : b.KeepsPriority x b' := by
  unfold register at hok
  split at hok
  · cases hok
  split at hok
  · cases hok
  split at hok
  · cases hok
  · cases hok
    exact .of_put ⟨resource, false, .empty 0, 0⟩ rfl fun heq => absurd heq other

theorem unregister_keeps (id x : ι) : b.KeepsPriority x (b.unregister id).2 := by
  unfold unregister
  simp only
  split
  · exact .of_same rfl x
  · intro record' known
    simp only [Registry.get?_erase] at known
    split at known
    · cases known
    · exact ⟨record', known, rfl⟩

theorem request_keeps (id x : ι) (caller : RequestId) (cancelled : Bool) :
    b.KeepsPriority x (b.request id caller cancelled).2 := by
  unfold request
  split
  · exact .of_same rfl x
  · rename_i record known
    split
    · split
      · exact .of_same rfl x
      · split
        · exact .of_same rfl x
        · exact .of_put record rfl fun _ => ⟨known, rfl⟩
    · exact .of_put record rfl fun _ => ⟨known, rfl⟩

theorem takeAny_keeps (x : ι) : b.KeepsPriority x b.takeAny?.2 := by
  unfold takeAny?
  split
  · exact .of_same rfl x
  · split
    · exact .of_same rfl x
    · rename_i record known
      exact .of_put record rfl fun _ => ⟨known, rfl⟩

theorem leave_keeps {ticket : UInt64} {signal : Signal}
    (left : b.leave? id ticket = some (signal, b')) (x : ι) : b.KeepsPriority x b' := by
  unfold leave? at left
  split at left
  · cases left
  · rename_i record known
    split at left
    · cases left
    · cases left
      exact .of_put record rfl fun _ => ⟨known, rfl⟩

/-- Giving up a resource writes the priority of its id at most. -/
theorem handOver_keeps (listens : RequestId → Bool) (priority : Priority)
    (kept : x = id → priority = b.lastPriority id) :
    b.KeepsPriority x (b.handOver listens id priority).broker := by
  unfold handOver
  split
  · exact .of_same rfl x
  · rename_i record known
    have same : x = id → b.records.get? id = some record ∧ priority = record.lastPriority := by
      intro heq
      exact ⟨known, by simpa [lastPriority, known] using kept heq⟩
    split
    · split
      · exact .of_put record rfl same
      · exact .of_put record rfl same
    · exact .of_same rfl x

/-- What is held and given up has the priority that it is given up at. -/
theorem handOver_lastPriority (h : b.Valid) (held : b.isBusy? id = some true)
    (listens : RequestId → Bool) (priority : Priority) {record : Record ρ}
    (known : (b.handOver listens id priority).broker.records.get? id = some record) :
    record.lastPriority = priority := by
  have written : ∀ {entry : Entry ρ} {ranking retired ticket},
      Edit b (b.handOver listens id priority).broker id (some entry) ranking retired ticket →
      entry.lastPriority = priority → record.lastPriority = priority := by
    intro entry ranking retired ticket edit last
    have found := edit.entry id
    rw [if_pos rfl, onRecord?_of_get? known, Option.some.injEq] at found
    rw [← last, ← found]
    rfl
  obtain ⟨old, hget, busy⟩ := exists_record held
  have hentry := onRecord?_of_get? hget
  cases first : old.entry.waiters.dropWhile fun signal => !listens signal.request with
  | nil => exact written (handOver_idle_edit h hentry busy first priority).2 rfl
  | cons signal rest => exact written (handOver_waiter_edit h hentry busy first priority).2 rfl

end Broker

end Custody
