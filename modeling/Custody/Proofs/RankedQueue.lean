import Custody.Proofs.Ring.Search
import Custody.RankedQueue

/-!
# Ranked queues as lists

The operations of a ranked queue, told by the list of its entries.

* `RankedQueue.ranked`, `RankedQueue.sorted_ranked`, `RankedQueue.filter_ranked`: an entry at
  its rank, which leaves the entries sorted and does not depend on others that go;
* `RankedQueue.push_eq`: an entry comes to its rank, if there is room;
* `RankedQueue.pull?_eq`: the first entry goes;
* `RankedQueue.erase?_eq`, `RankedQueue.erase?_first`: the first entry of an element goes, as it
  does when it is pulled, if it is the first of all.
-/

namespace Custody

namespace RankedQueue

variable {α : Type}

/-- The ring of the queue is laid out. -/
def Sound (q : RankedQueue α) : Prop := q.ring.Sound

/-- The entries with one more at its rank: before the first one that it is served
before, and behind all of them if there is none. -/
def ranked (order : ServingOrder) (entry : Priority × α) (entries : List (Priority × α)) :
    List (Priority × α) :=
  entries.takeWhile (fun incumbent => !order.before entry.1 incumbent.1) ++
    entry :: entries.dropWhile fun incumbent => !order.before entry.1 incumbent.1

theorem ranked_perm (order : ServingOrder) (entry : Priority × α)
    (entries : List (Priority × α)) : (ranked order entry entries).Perm (entry :: entries) := by
  have split := entries.takeWhile_append_dropWhile
    (p := fun incumbent => !order.before entry.1 incumbent.1)
  apply List.perm_middle.trans
  rw [split]

theorem ranked_cons (order : ServingOrder) (entry first : Priority × α)
    (rest : List (Priority × α)) :
    ranked order entry (first :: rest) =
      if order.before entry.1 first.1 then entry :: first :: rest
      else first :: ranked order entry rest := by
  cases hbefore : order.before entry.1 first.1 <;> simp [ranked, hbefore]

/-- No entry is to be served before one that stands before it. -/
def Sorted (order : ServingOrder) (entries : List (Priority × α)) : Prop :=
  entries.Pairwise fun earlier later => order.before later.1 earlier.1 = false

/-- What is served before the first entry is served before all of them. -/
theorem Sorted.before_all {order : ServingOrder} {entry first : Priority × α}
    {rest : List (Priority × α)} (sorted : Sorted order (first :: rest))
    (before : order.before entry.1 first.1 = true) :
    ∀ other ∈ first :: rest, order.before entry.1 other.1 = true := by
  intro other mem
  rcases List.mem_cons.1 mem with rfl | mem
  · exact before
  · by_contra late
    have behind := List.rel_of_pairwise_cons sorted mem
    have never := order.not_before_trans (by simpa using late) behind
    simp [before] at never

theorem ranked_of_before {order : ServingOrder} {entry : Priority × α}
    {entries : List (Priority × α)}
    (before : ∀ other ∈ entries, order.before entry.1 other.1 = true) :
    ranked order entry entries = entry :: entries := by
  cases entries with
  | nil => rfl
  | cons first rest => rw [ranked_cons, if_pos (before first (by simp))]

theorem sorted_ranked {order : ServingOrder} {entries : List (Priority × α)}
    (sorted : Sorted order entries) (entry : Priority × α) :
    Sorted order (ranked order entry entries) := by
  induction entries with
  | nil => exact List.pairwise_singleton _ _
  | cons first rest ih =>
    rw [ranked_cons]
    split
    · rename_i before
      refine List.pairwise_cons.2 ⟨?_, sorted⟩
      intro other mem
      exact order.before_asymm (sorted.before_all before other mem)
    · rename_i late
      obtain ⟨behind, sorted⟩ := List.pairwise_cons.1 sorted
      refine List.pairwise_cons.2 ⟨?_, ih sorted⟩
      intro other mem
      rcases List.mem_cons.1 ((ranked_perm order entry rest).mem_iff.1 mem) with rfl | mem
      · simpa using late
      · exact behind other mem

/-- The rank of an entry does not depend on others. -/
theorem filter_ranked {order : ServingOrder} {entries : List (Priority × α)}
    (sorted : Sorted order entries) {entry : Priority × α} {p : Priority × α → Bool}
    (stays : p entry = true) :
    (ranked order entry entries).filter p = ranked order entry (entries.filter p) := by
  induction entries with
  | nil => simp [ranked, stays]
  | cons first rest ih =>
    rw [ranked_cons]
    split
    · rename_i before
      rw [List.filter_cons_of_pos stays]
      apply (ranked_of_before ?_).symm
      intro other mem
      exact sorted.before_all before other (List.mem_of_mem_filter mem)
    · rename_i late
      have ih := ih (List.pairwise_cons.1 sorted).2
      by_cases hfirst : p first = true
      · rw [List.filter_cons_of_pos hfirst, List.filter_cons_of_pos hfirst, ranked_cons,
          if_neg late, ih]
      · rw [List.filter_cons_of_neg hfirst, List.filter_cons_of_neg hfirst, ih]

theorem sound_empty (capacity : Nat) (order : ServingOrder) :
    (empty capacity order : RankedQueue α).Sound := Ring.sound_empty 0 capacity

@[simp] theorem toList_empty (capacity : Nat) (order : ServingOrder) :
    (empty capacity order : RankedQueue α).toList = [] := rfl

@[simp] theorem capacity_empty (n : Nat) (order : ServingOrder) :
    (empty n order : RankedQueue α).capacity = n := Ring.capacity_empty 0 n

theorem length_entries {q : RankedQueue α} (h : q.Sound) : q.entries.length = q.size :=
  Ring.length_entries h

theorem size_le_capacity {q : RankedQueue α} (h : q.Sound) : q.size ≤ q.capacity :=
  Ring.size_le_capacity h

theorem isFull_iff (q : RankedQueue α) : q.isFull = true ↔ q.size = q.capacity := by
  simp [isFull, size, capacity, Ring.isFull]

theorem front?_eq {q : RankedQueue α} (h : q.Sound) : q.front? = q.entries.head? := by
  obtain ⟨live, free, laid⟩ := h
  exact Ring.front?_eq laid

theorem isEmpty_eq {q : RankedQueue α} (h : q.Sound) : q.isEmpty = q.entries.isEmpty := by
  have size := length_entries h
  rw [Bool.eq_iff_iff, isEmpty, Ring.isEmpty, beq_iff_eq, List.isEmpty_iff_length_eq_zero, size]
  rfl

theorem isFull_eq {q : RankedQueue α} (h : q.Sound) :
    q.isFull = (q.entries.length == q.capacity) := by
  rw [length_entries h]
  rfl

/-- The slots of an ordered insertion, which stops at the first entry that the new one is
served before. -/
theorem insert_eq {q : RankedQueue α} (h : q.Sound) (room : q.size < q.capacity)
    (priority : Priority) (value : α) :
    (q.insert priority value).Sound ∧ (q.insert priority value).capacity = q.capacity ∧
    (q.insert priority value).order = q.order ∧
    (q.insert priority value).entries = ranked q.order (priority, value) q.entries := by
  obtain ⟨live, free, laid⟩ := h
  have total := laid.length_eq_capacity
  have live_length := laid.size
  have position := Ring.position?_eq laid (q.order.before priority)
  cases free with
  | nil =>
    simp only [RankedQueue.size, RankedQueue.capacity, List.length_nil] at *
    omega
  | cons f free =>
    unfold ranked
    rw [List.takeWhile_eq_take_findIdx_not, List.dropWhile_eq_drop_findIdx_not]
    simp only [Bool.not_not]
    cases hplace : q.ring.entries.findIdx? fun entry => q.order.before priority entry.1 with
    | none =>
      simp only [hplace] at position
      have behind := List.findIdx?_eq_none_iff_findIdx_eq.1 hplace
      have hinsert : q.insert priority value = ⟨q.ring.pushBack priority value, q.order⟩ := by
        simp [RankedQueue.insert, position]
      rw [hinsert]
      refine ⟨⟨_, _, Ring.laid_pushBack laid priority value⟩, Ring.capacity_pushBack _ _ _, rfl, ?_⟩
      simp [entries, Ring.entries_pushBack laid, behind]
    | some n =>
      simp only [hplace] at position
      obtain ⟨front, stop, back, rfl, hlen, hstop⟩ := position
      have rank := (List.findIdx?_eq_some_iff_findIdx_eq.1 hplace).2
      have hinsert : q.insert priority value =
          ⟨q.ring.insertAt stop priority value, q.order⟩ := by
        simp [RankedQueue.insert, hstop]
      rw [hinsert]
      refine ⟨⟨_, _, Ring.laid_insertAt laid priority value⟩, Ring.capacity_insertAt _ _ _ _,
        rfl, ?_⟩
      simp [entries, Ring.entries_insertAt laid, rank, hlen]

/-- A push succeeds just when there is room. -/
theorem push_eq {q : RankedQueue α} (h : q.Sound) (priority : Priority) (value : α) :
    if q.entries.length < q.capacity then
      ∃ q', q.push priority value = .ok q' ∧ q'.Sound ∧ q'.capacity = q.capacity ∧
        q'.order = q.order ∧ q'.entries = ranked q.order (priority, value) q.entries
    else q.push priority value = .error value := by
  have size := length_entries h
  have bound := size_le_capacity h
  split
  · rename_i room
    have notFull : q.isFull = false := by
      rw [Bool.eq_false_iff, Ne, isFull_iff]
      omega
    obtain ⟨sound, capacity, order, entries⟩ := insert_eq h (by omega) priority value
    exact ⟨q.insert priority value, by simp [push, notFull], sound, capacity, order, entries⟩
  · have full : q.isFull = true := by
      rw [isFull_iff]
      omega
    simp [push, full]

theorem pullEntry?_eq {q : RankedQueue α} (h : q.Sound) :
    match q.entries with
    | [] => q.pullEntry? = none
    | entry :: rest => ∃ q', q.pullEntry? = some (entry, q') ∧ q'.Sound ∧
        q'.capacity = q.capacity ∧ q'.order = q.order ∧ q'.entries = rest := by
  have pop := Ring.popFront?_eq h
  cases hentries : q.ring.entries with
  | nil =>
    simp only [hentries] at pop
    simp [entries, hentries, pullEntry?, pop]
  | cons entry rest =>
    simp only [hentries] at pop
    obtain ⟨ring, hpop, sound, capacity, hrest⟩ := pop
    simp only [entries, hentries]
    exact ⟨⟨ring, q.order⟩, by simp [hpop, pullEntry?], sound, capacity, rfl, hrest⟩

theorem pull?_eq {q : RankedQueue α} (h : q.Sound) :
    match q.entries with
    | [] => q.pull? = none
    | entry :: rest => ∃ q', q.pull? = some (entry.2, q') ∧ q'.Sound ∧
        q'.capacity = q.capacity ∧ q'.order = q.order ∧ q'.entries = rest := by
  have pull := pullEntry?_eq h
  cases hentries : q.entries with
  | nil =>
    simp only [hentries] at pull
    simp [pull?, pull]
  | cons entry rest =>
    simp only [hentries] at pull
    obtain ⟨q', pull, others⟩ := pull
    exact ⟨q', by simp [pull?, pull], others⟩

theorem erase?_eq [BEq α] {q : RankedQueue α} (h : q.Sound) (value : α) :
    match q.entries.find? fun entry => entry.2 == value with
    | none => q.erase? value = none
    | some entry => ∃ q', q.erase? value = some (entry, q') ∧ q'.Sound ∧
        q'.capacity = q.capacity ∧ q'.order = q.order ∧
        q'.entries = q.entries.eraseP fun entry => entry.2 == value := by
  have found := Ring.removeFirst_pure h fun _ element => element == value
  cases hf : q.ring.entries.find? fun entry => entry.2 == value with
  | none =>
    simp only [hf] at found
    simp [entries, hf, erase?, extract?, removeFirst, found]
  | some entry =>
    simp only [hf] at found
    obtain ⟨ring, hremove, sound, capacity, hentries⟩ := found
    simp only [entries, hf]
    exact ⟨⟨ring, q.order⟩, by simp [erase?, extract?, removeFirst, hremove], sound, capacity, rfl,
      hentries⟩

/-- Taking the element that is first out is the same as taking the first entry. -/
theorem erase?_first [BEq α] [ReflBEq α] {q : RankedQueue α} (h : q.Sound)
    {entry : Priority × α} {rest : List (Priority × α)} (first : q.entries = entry :: rest) :
    q.erase? entry.2 = q.pullEntry? := by
  let test : Priority → α → Unit → Bool × Unit := fun _ element _ => (element == entry.2, ())
  have passes : test entry.1 entry.2 () = (true, ()) := by simp [test]
  have taken := Ring.removeFirst_front h first passes
  simp only [erase?, extract?, removeFirst, pullEntry?, test] at taken ⊢
  rw [taken]

end RankedQueue

end Custody
