import Custody.Ring.Basic
import Mathlib.Data.List.Basic

/-!
# Layout of a ring

The slots of a ring form one cycle: from `head` come the slots that hold the
entries, and behind the last of them the free ones.

* `Ring.Laid`: the slots in the order of the cycle, live ones and free ones;
* `Ring.laid_empty`: a new ring is laid out, all slots free;
* `Ring.entries_eq`: the stored entries are those of the live slots, in order.
-/

namespace Custody

namespace Ring

variable {κ α : Type}

/-- Following `next` from slot `i` visits the slots of the list in turn, and then
comes to slot `j`. -/
def Leads (next : Nat → Nat) : Nat → List Nat → Nat → Prop
  | i, [], j => i = j
  | i, k :: ks, j => k = i ∧ Leads next (next k) ks j

theorem leads_append {next : Nat → Nat} {i j : Nat} {front back : List Nat} :
    Leads next i (front ++ back) j ↔
      ∃ m, Leads next i front m ∧ Leads next m back j := by
  induction front generalizing i with
  | nil => simp [Leads]
  | cons k ks ih =>
    simp only [List.cons_append, Leads, ih]
    constructor
    · rintro ⟨hk, m, hf, hb⟩
      exact ⟨m, ⟨hk, hf⟩, hb⟩
    · rintro ⟨m, ⟨hk, hf⟩, hb⟩
      exact ⟨hk, m, hf, hb⟩

theorem leads_congr {next next' : Nat → Nat} {i j : Nat} {ks : List Nat}
    (same : ∀ k ∈ ks, next' k = next k) : Leads next' i ks j ↔ Leads next i ks j := by
  induction ks generalizing i with
  | nil => rfl
  | cons k ks ih =>
    simp only [Leads]
    rw [ih fun m hm => same m (List.mem_cons_of_mem _ hm), same k List.mem_cons_self]

/-- The slots of a ring in the order of its cycle, which starts at `head`: the live
ones hold values and end at `tail`, the free ones hold none. -/
structure Laid (r : Ring κ α) (live free : List Nat) : Prop where
  cycle : Leads r.next r.head (live ++ free) r.head
  nodup : (live ++ free).Nodup
  mem : ∀ i, i ∈ live ++ free ↔ i < r.capacity
  size : r.size = live.length
  tail : r.tail = live.getLast?.getD r.head
  held : ∀ i ∈ live, (r.entryAt? i).isSome
  vacant : ∀ i ∈ free, r.entryAt? i = none

/-- Some order of the slots lays the ring out. -/
def Sound (r : Ring κ α) : Prop := ∃ live free, r.Laid live free

theorem next_link (r : Ring κ α) {i : Nat} (target : Nat) (hi : i < r.capacity) (j : Nat) :
    (r.link i target).next j = if j = i then target else r.next j := by
  simp only [next, link, Array.getElem?_modify]
  by_cases h : j = i
  · subst h
    have hj : j < r.slots.size := hi
    simp [hj]
  · simp [h, Ne.symm h]

theorem next_put (r : Ring κ α) (i : Nat) (key : κ) (value : Option α) (j : Nat) :
    (r.put i key value).next j = r.next j := by
  simp only [next, put, Array.getElem?_modify]
  by_cases h : i = j <;> cases hs : r.slots[j]? <;> simp [h]

theorem next_vacate (r : Ring κ α) (i j : Nat) : (r.vacate i).next j = r.next j := by
  simp only [next, vacate, Array.getElem?_modify]
  by_cases h : i = j <;> cases hs : r.slots[j]? <;> simp [h]

theorem entryAt?_link (r : Ring κ α) (i target j : Nat) :
    (r.link i target).entryAt? j = r.entryAt? j := by
  simp only [entryAt?, link, Array.getElem?_modify]
  by_cases h : i = j <;> cases hs : r.slots[j]? <;> simp [h]

theorem entryAt?_put (r : Ring κ α) {i : Nat} (key : κ) (value : Option α)
    (hi : i < r.capacity) (j : Nat) :
    (r.put i key value).entryAt? j =
      if j = i then value.map (key, ·) else r.entryAt? j := by
  simp only [entryAt?, put, Array.getElem?_modify]
  by_cases h : j = i
  · subst h
    have hj : j < r.slots.size := hi
    simp [hj]
  · simp [h, Ne.symm h]

theorem entryAt?_vacate (r : Ring κ α) (i j : Nat) :
    (r.vacate i).entryAt? j = if j = i then none else r.entryAt? j := by
  simp only [entryAt?, vacate, Array.getElem?_modify]
  by_cases h : j = i
  · subst h
    cases hs : r.slots[j]? <;> simp
  · simp [h, Ne.symm h]

namespace Laid

variable {r : Ring κ α} {live free : List Nat}

theorem lt_capacity (h : r.Laid live free) {i : Nat} (hi : i ∈ live ++ free) :
    i < r.capacity := (h.mem i).1 hi

theorem length_eq_capacity (h : r.Laid live free) : live.length + free.length = r.capacity := by
  have same : (live ++ free).Perm (List.range r.capacity) :=
    (List.perm_ext_iff_of_nodup h.nodup List.nodup_range).2 fun i => by
      rw [h.mem i, List.mem_range]
  simpa using same.length_eq

/-- A live slot is not free. -/
theorem apart (h : r.Laid live free) {i j : Nat} (hi : i ∈ live) (hj : j ∈ free) : i ≠ j :=
  (List.nodup_append.1 h.nodup).2.2 i hi j hj

/-- The slots in another order are still all slots, each once. -/
theorem of_perm (h : r.Laid live free) {ks : List Nat} (perm : ks.Perm (live ++ free)) :
    ks.Nodup ∧ ∀ i, i ∈ ks ↔ i < r.capacity :=
  ⟨perm.nodup_iff.2 h.nodup, fun i => by rw [perm.mem_iff, h.mem]⟩

theorem head_eq (h : r.Laid live free) {i : Nat} (hi : (live ++ free).head? = some i) :
    r.head = i := by
  obtain ⟨rest, hrest⟩ := List.head?_eq_some_iff.1 hi
  have cycle := h.cycle
  rw [hrest] at cycle
  exact cycle.1.symm

end Laid

/-- The entries of the slots that a walk from slot `i` visits. -/
theorem entriesFrom_eq (r : Ring κ α) {ks : List Nat} {i j : Nat}
    (walk : Leads r.next i ks j) (bound : ∀ k ∈ ks, k < r.capacity) :
    r.entriesFrom ks.length i = ks.filterMap r.entryAt? := by
  induction ks generalizing i with
  | nil => rfl
  | cons k ks ih =>
    obtain ⟨rfl, walk⟩ := walk
    have hk : k < r.slots.size := bound k List.mem_cons_self
    have hnext : r.next k = r.slots[k].next := by simp [next, hk]
    have rest := ih walk fun m hm => bound m (List.mem_cons_of_mem _ hm)
    rw [hnext] at rest
    cases hv : r.slots[k].value with
    | none => simp [entriesFrom, entryAt?, hk, hv, rest]
    | some value => simp [entriesFrom, entryAt?, hk, hv, rest]

theorem entries_eq {r : Ring κ α} {live free : List Nat} (h : r.Laid live free) :
    r.entries = live.filterMap r.entryAt? := by
  obtain ⟨m, walk, _⟩ := leads_append.1 h.cycle
  unfold entries
  rw [h.size]
  exact r.entriesFrom_eq walk fun k hk => h.lt_capacity (List.mem_append_left _ hk)

theorem length_filterMap_of_held {f : Nat → Option (κ × α)} {ks : List Nat}
    (held : ∀ k ∈ ks, (f k).isSome) : (ks.filterMap f).length = ks.length := by
  rw [List.length_filterMap_eq_countP]
  exact List.countP_eq_length.2 held

theorem length_entries {r : Ring κ α} (h : r.Sound) : r.entries.length = r.size := by
  obtain ⟨live, free, h⟩ := h
  rw [entries_eq h, length_filterMap_of_held h.held, h.size]

theorem size_le_capacity {r : Ring κ α} (h : r.Sound) : r.size ≤ r.capacity := by
  obtain ⟨live, free, h⟩ := h
  have total := h.length_eq_capacity
  have size := h.size
  omega

/-- A walk along the links of a new ring, from one slot on. -/
theorem leads_empty (blank : κ) (capacity n i : Nat) (hn : i + n = capacity) (hc : 0 < n) :
    Leads (empty (α := α) blank capacity).next i (List.range' i n) 0 := by
  induction n generalizing i with
  | zero => omega
  | succ n ih =>
    have hi : i < capacity := by omega
    have hnext : (empty (α := α) blank capacity).next i = (i + 1) % capacity := by
      simp [next, empty, hi]
    refine ⟨rfl, ?_⟩
    rw [hnext]
    cases n with
    | zero =>
      have wrap : i + 1 = capacity := by omega
      simp [Leads, wrap]
    | succ n =>
      rw [Nat.mod_eq_of_lt (by omega)]
      exact ih (i + 1) (by omega) (by omega)

theorem laid_empty (blank : κ) (capacity : Nat) :
    (empty (α := α) blank capacity).Laid [] (List.range' 0 capacity) where
  cycle := by
    cases capacity with
    | zero => rfl
    | succ n => exact leads_empty blank (n + 1) (n + 1) 0 (by omega) (by omega)
  nodup := by simpa using List.nodup_range'
  mem i := by simp [Ring.capacity, empty]
  size := rfl
  tail := rfl
  held i hi := by simp at hi
  vacant i hi := by
    have hi : i < capacity := by simpa using hi
    simp [entryAt?, empty, hi]

theorem sound_empty (blank : κ) (capacity : Nat) : (empty (α := α) blank capacity).Sound :=
  ⟨[], _, laid_empty blank capacity⟩

theorem capacity_empty (blank : κ) (capacity : Nat) :
    (empty (α := α) blank capacity).capacity = capacity := by simp [Ring.capacity, empty]

end Ring

end Custody
