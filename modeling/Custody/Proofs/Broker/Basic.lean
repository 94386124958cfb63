import Custody.Broker.Basic
import Custody.Proofs.Queue
import Custody.Proofs.RankedQueue
import Custody.Proofs.Registry

/-!
# The state of a broker

What a broker looks like from outside: whether an id is registered and held
(`Broker.isBusy?`), who waits for it (`Broker.line`), which ids are ranked
(`Broker.idleIds`) and which are retired.

* `Broker.Valid`: the state invariant of a broker;
* `Broker.Valid.withRecord`, `Broker.Valid.withIdle`, `Broker.Valid.withoutRecord`:
  the changes that operations are made of keep it.
-/

namespace Custody

/-- A record whose queue is in order. Nobody waits for a resource that is free. -/
structure Record.Valid {ρ : Type} (capacity : Nat) (record : Record ρ) : Prop where
  sound : record.waiters.Sound
  capacity : record.waiters.capacity = capacity
  attended : record.busy = false → record.waiters.toList = []

namespace Broker

variable {ι ρ : Type} [DecidableEq ι]

/-- The signals of those who wait for an id, the first to be served first. -/
def line (b : Broker ι ρ) (id : ι) : List Signal :=
  match b.records.get? id with
  | some record => record.waiters.toList
  | none => []

/-- A broker whose queues are in order. What is ranked is registered and free, and
what is retired is not registered. -/
structure Valid (b : Broker ι ρ) : Prop where
  record : ∀ id record, b.records.get? id = some record →
    record.Valid b.settings.waiterCapacity.toNat
  size_le : b.records.size ≤ b.settings.maxResources.toNat
  sound : b.idle.Sound
  capacity : b.idle.capacity = b.settings.maxResources.toNat
  ranked_nodup : b.idleIds.Nodup
  ranked_free : ∀ id ∈ b.idleIds, b.isBusy? id = some false
  retired_nodup : b.retired.Nodup
  retired_gone : ∀ id ∈ b.retired, b.isBusy? id = none

theorem isBusy?_eq_none_iff (b : Broker ι ρ) (id : ι) :
    b.isBusy? id = none ↔ b.records.get? id = none := by
  simp [isBusy?]

theorem contains_iff (b : Broker ι ρ) (id : ι) : b.contains id = true ↔ b.isBusy? id ≠ none := by
  simp [contains, Registry.contains, isBusy?, Option.isSome_iff_ne_none]

theorem isBusy?_of_get? {b : Broker ι ρ} {id : ι} {record : Record ρ}
    (h : b.records.get? id = some record) : b.isBusy? id = some record.busy := by
  simp [isBusy?, h]

theorem line_of_get? {b : Broker ι ρ} {id : ι} {record : Record ρ}
    (h : b.records.get? id = some record) : b.line id = record.waiters.toList := by
  simp [line, h]

theorem line_of_unknown {b : Broker ι ρ} {id : ι} (h : b.records.get? id = none) :
    b.line id = [] := by
  simp [line, h]

theorem valid_empty (settings : Settings) : (empty settings : Broker ι ρ).Valid where
  record id record h := by simp [empty] at h
  size_le := Nat.zero_le _
  sound := RankedQueue.sound_empty _ _
  capacity := RankedQueue.capacity_empty _ _
  ranked_nodup := by simp [empty, idleIds]
  ranked_free id h := by simp [empty, idleIds] at h
  retired_nodup := List.nodup_nil
  retired_gone id h := by simp [empty] at h

namespace Valid

variable {b : Broker ι ρ} {id : ι}

/-- Nobody waits for an id that is not held. -/
theorem line_eq_nil (h : b.Valid) (hbusy : b.isBusy? id ≠ some true) : b.line id = [] := by
  cases hget : b.records.get? id with
  | none => exact line_of_unknown hget
  | some record =>
    rw [isBusy?_of_get? hget] at hbusy
    rw [line_of_get? hget]
    exact (h.record id record hget).attended (by simpa using hbusy)

theorem length_line_le (h : b.Valid) (id : ι) :
    (b.line id).length ≤ b.settings.waiterCapacity.toNat := by
  cases hget : b.records.get? id with
  | none => simp [line_of_unknown hget]
  | some record =>
    have valid := h.record id record hget
    rw [line_of_get? hget, ← valid.capacity, Queue.length_toList valid.sound]
    exact Queue.size_le_capacity valid.sound

end Valid

/-! ### The ranking -/

theorem unrank_eq {b : Broker ι ρ} (h : b.Valid) (id : ι) :
    (b.unrank id).Sound ∧ (b.unrank id).capacity = b.settings.maxResources.toNat ∧
    (b.unrank id).toList = b.idleIds.erase id := by
  have found := RankedQueue.erase?_eq h.sound id
  have herase : b.idleIds.erase id =
      (b.idle.entries.eraseP fun entry => entry.2 == id).map Prod.snd := by
    rw [List.erase_eq_eraseP', idleIds, RankedQueue.toList, List.eraseP_map]
    rfl
  cases hfind : b.idle.entries.find? fun entry => entry.2 == id with
  | none =>
    simp only [hfind] at found
    have hunrank : b.unrank id = b.idle := by simp [unrank, found]
    rw [hunrank, herase, List.eraseP_of_forall_not (by simpa using hfind)]
    exact ⟨h.sound, h.capacity, rfl⟩
  | some entry =>
    simp only [hfind] at found
    obtain ⟨q, hq, sound, capacity, _, entries⟩ := found
    have hunrank : b.unrank id = q := by simp [unrank, hq]
    rw [hunrank, herase]
    exact ⟨sound, capacity.trans h.capacity, by rw [RankedQueue.toList, entries]⟩

/-! ### Changes of records -/

theorem isBusy?_of_put {b b' : Broker ι ρ} {id : ι} {record : Record ρ}
    (h : b'.records = b.records.put id record) (k : ι) :
    b'.isBusy? k = if k = id then some record.busy else b.isBusy? k := by
  by_cases hk : k = id <;> simp [isBusy?, h, hk]

theorem line_of_put {b b' : Broker ι ρ} {id : ι} {record : Record ρ}
    (h : b'.records = b.records.put id record) (k : ι) :
    b'.line k = if k = id then record.waiters.toList else b.line k := by
  by_cases hk : k = id <;> simp [line, h, hk]

theorem isBusy?_of_erase {b b' : Broker ι ρ} {id : ι} (h : b'.records = b.records.erase id)
    (k : ι) : b'.isBusy? k = if k = id then none else b.isBusy? k := by
  by_cases hk : k = id <;> simp [isBusy?, h, hk]

theorem line_of_erase {b b' : Broker ι ρ} {id : ι} (h : b'.records = b.records.erase id)
    (k : ι) : b'.line k = if k = id then [] else b.line k := by
  by_cases hk : k = id <;> simp [line, h, hk]

namespace Valid

variable {b : Broker ι ρ} {id : ι}

theorem not_ranked (h : b.Valid) (hbusy : b.isBusy? id ≠ some false) : id ∉ b.idleIds :=
  fun hmem => hbusy (h.ranked_free id hmem)

theorem not_retired (h : b.Valid) (hbusy : b.isBusy? id ≠ none) : id ∉ b.retired :=
  fun hmem => hbusy (h.retired_gone id hmem)

theorem withTicket (h : b.Valid) (ticket : UInt64) :
    ({ b with nextTicket := ticket } : Broker ι ρ).Valid where
  record := h.record
  size_le := h.size_le
  sound := h.sound
  capacity := h.capacity
  ranked_nodup := h.ranked_nodup
  ranked_free := h.ranked_free
  retired_nodup := h.retired_nodup
  retired_gone := h.retired_gone

theorem withIdle (h : b.Valid) {idle : RankedQueue ι} (sound : idle.Sound)
    (capacity : idle.capacity = b.settings.maxResources.toNat) (nodup : idle.toList.Nodup)
    (free : ∀ id ∈ idle.toList, b.isBusy? id = some false) :
    ({ b with idle := idle } : Broker ι ρ).Valid where
  record := h.record
  size_le := h.size_le
  sound := sound
  capacity := capacity
  ranked_nodup := nodup
  ranked_free := free
  retired_nodup := h.retired_nodup
  retired_gone := h.retired_gone

theorem withRetired (h : b.Valid) {retired : List ι} (nodup : retired.Nodup)
    (gone : ∀ id ∈ retired, b.isBusy? id = none) :
    ({ b with retired := retired } : Broker ι ρ).Valid where
  record := h.record
  size_le := h.size_le
  sound := h.sound
  capacity := h.capacity
  ranked_nodup := h.ranked_nodup
  ranked_free := h.ranked_free
  retired_nodup := nodup
  retired_gone := gone

/-- A record is replaced. One that is held now must not be ranked. -/
theorem withRecord (h : b.Valid) {old record : Record ρ} (hget : b.records.get? id = some old)
    (valid : record.Valid b.settings.waiterCapacity.toNat)
    (unranked : record.busy = true → id ∉ b.idleIds) :
    ({ b with records := b.records.put id record } : Broker ι ρ).Valid where
  record k other hk := by
    rw [Registry.get?_put] at hk
    split at hk
    · rw [Option.some.injEq] at hk
      exact hk ▸ valid
    · exact h.record k other hk
  size_le := by
    rw [Registry.size_put_of_some record hget]
    exact h.size_le
  sound := h.sound
  capacity := h.capacity
  ranked_nodup := h.ranked_nodup
  ranked_free k hk := by
    rw [isBusy?_of_put rfl]
    split
    · rename_i heq
      cases hbusy : record.busy with
      | false => rfl
      | true => exact absurd (heq ▸ hk) (unranked hbusy)
    · exact h.ranked_free k hk
  retired_nodup := h.retired_nodup
  retired_gone k hk := by
    have gone := h.retired_gone k hk
    rw [isBusy?_of_put rfl, if_neg]
    · exact gone
    · rintro rfl
      simp [isBusy?_of_get? hget] at gone

/-- A record is added. -/
theorem withNewRecord (h : b.Valid) {record : Record ρ} (hget : b.records.get? id = none)
    (room : b.records.size < b.settings.maxResources.toNat) (fresh : id ∉ b.retired)
    (valid : record.Valid b.settings.waiterCapacity.toNat) :
    ({ b with records := b.records.put id record } : Broker ι ρ).Valid where
  record k other hk := by
    rw [Registry.get?_put] at hk
    split at hk
    · rw [Option.some.injEq] at hk
      exact hk ▸ valid
    · exact h.record k other hk
  size_le := by
    rw [Registry.size_put_of_none record hget]
    exact room
  sound := h.sound
  capacity := h.capacity
  ranked_nodup := h.ranked_nodup
  ranked_free k hk := by
    have free := h.ranked_free k hk
    rw [isBusy?_of_put rfl, if_neg]
    · exact free
    · rintro rfl
      simp [isBusy?, hget] at free
  retired_nodup := h.retired_nodup
  retired_gone k hk := by
    rw [isBusy?_of_put rfl, if_neg]
    · exact h.retired_gone k hk
    · rintro rfl
      exact fresh hk

/-- A record is taken out, of an id that is not ranked. -/
theorem withoutRecord (h : b.Valid) (unranked : id ∉ b.idleIds) :
    ({ b with records := b.records.erase id } : Broker ι ρ).Valid where
  record k other hk := by
    rw [Registry.get?_erase] at hk
    split at hk
    · cases hk
    · exact h.record k other hk
  size_le := Nat.le_trans (Registry.size_erase_le _ _) h.size_le
  sound := h.sound
  capacity := h.capacity
  ranked_nodup := h.ranked_nodup
  ranked_free k hk := by
    rw [isBusy?_of_erase rfl, if_neg]
    · exact h.ranked_free k hk
    · rintro rfl
      exact unranked hk
  retired_nodup := h.retired_nodup
  retired_gone k hk := by
    rw [isBusy?_of_erase rfl]
    split
    · rfl
    · exact h.retired_gone k hk

theorem unrank (h : b.Valid) (id : ι) : ({ b with idle := b.unrank id } : Broker ι ρ).Valid := by
  obtain ⟨sound, capacity, list⟩ := unrank_eq h id
  refine h.withIdle sound capacity ?_ ?_
  · rw [list]
    exact h.ranked_nodup.erase id
  · intro k hk
    rw [list] at hk
    exact h.ranked_free k (List.mem_of_mem_erase hk)

theorem not_mem_unrank (h : b.Valid) (id : ι) : id ∉ (b.unrank id).toList := by
  rw [(unrank_eq h id).2.2]
  exact h.ranked_nodup.not_mem_erase

end Valid

end Broker

end Custody
