import Custody.Proofs.RankedQueue

/-!
# Entries in serving order

What is kept at its rank is a stable sort of what has come: sorted by priority, and by arrival
where priorities are equal.

* `RankedQueue.inOrder`: the stable sort of what has come;
* `RankedQueue.eq_of_sorted`: a sorted list is told by what it has of each priority;
* `RankedQueue.inOrder_concat`: one more entry comes to its rank;
* `RankedQueue.inOrder_filter`, `RankedQueue.inOrder_map`: some of the entries, and entries that
  are told in other words, are in the order that they would have on their own;
* `RankedQueue.ranked_sublist`: the rank of an entry does not depend on others that are missing;
* `RankedQueue.ranked_eq_filter`: an entry stands behind all that it is not served before.
-/

namespace Custody

namespace RankedQueue

variable {α : Type} {order : ServingOrder} {entries : List (Priority × α)}

/-- The first entry need not wait for the other. -/
def noLater (order : ServingOrder) (entry other : Priority × α) : Bool :=
  !order.before other.1 entry.1

theorem noLater_iff {entry other : Priority × α} :
    noLater order entry other = true ↔ order.before other.1 entry.1 = false := by
  simp [noLater]

theorem noLater_trans (a b c : Priority × α) (hab : noLater order a b = true)
    (hbc : noLater order b c = true) : noLater order a c = true := by
  rw [noLater_iff] at *
  exact order.not_before_trans hbc hab

theorem noLater_total (a b : Priority × α) :
    (noLater order a b || noLater order b a) = true := by
  cases before : order.before b.1 a.1 with
  | false => simp [noLater, before]
  | true => simp [noLater, order.before_asymm before]

/-- The entries that have come, first to be served first. -/
def inOrder (order : ServingOrder) (arrivals : List (Priority × α)) : List (Priority × α) :=
  arrivals.mergeSort (noLater order)

theorem inOrder_perm (order : ServingOrder) (arrivals : List (Priority × α)) :
    (inOrder order arrivals).Perm arrivals :=
  List.mergeSort_perm arrivals (noLater order)

theorem sorted_iff : Sorted order entries ↔
    entries.Pairwise fun earlier later => noLater order earlier later = true := by
  simp only [Sorted, noLater_iff]

theorem sorted_inOrder (order : ServingOrder) (arrivals : List (Priority × α)) :
    Sorted order (inOrder order arrivals) :=
  sorted_iff.2 (List.pairwise_mergeSort noLater_trans noLater_total arrivals)

/-- The entries of one priority. -/
def ofPriority (p : Priority) (entries : List (Priority × α)) : List (Priority × α) :=
  entries.filter fun entry => entry.1 == p

theorem mem_ofPriority {p : Priority} {entry : Priority × α} :
    entry ∈ ofPriority p entries ↔ entry ∈ entries ∧ entry.1 = p := by
  simp [ofPriority]

theorem ofPriority_append (p : Priority) (entries others : List (Priority × α)) :
    ofPriority p (entries ++ others) = ofPriority p entries ++ ofPriority p others :=
  List.filter_append entries others

theorem ofPriority_cons (p : Priority) (entry : Priority × α) (entries : List (Priority × α)) :
    ofPriority p (entry :: entries) =
      if entry.1 = p then entry :: ofPriority p entries else ofPriority p entries := by
  simp [ofPriority, List.filter_cons]

/-- Entries of one priority are in order as they come. -/
theorem sorted_ofPriority (order : ServingOrder) (p : Priority)
    (entries : List (Priority × α)) : Sorted order (ofPriority p entries) := by
  apply List.Pairwise.imp_of_mem
  · intro earlier later here there _
    rw [(mem_ofPriority.1 here).2, (mem_ofPriority.1 there).2]
    exact order.before_irrefl p
  · exact List.pairwise_of_forall fun _ _ => trivial

/-- The entries of one priority stay in order of arrival. -/
theorem ofPriority_inOrder (order : ServingOrder) (arrivals : List (Priority × α))
    (p : Priority) : ofPriority p (inOrder order arrivals) = ofPriority p arrivals := by
  -- A sorted sublist survives the sort, and the lengths leave room for nothing else.
  have sorted := sorted_iff.1 (sorted_ofPriority order p arrivals)
  have sublist : (ofPriority p arrivals).Sublist (inOrder order arrivals) :=
    List.sublist_mergeSort noLater_trans noLater_total sorted List.filter_sublist
  have kept := sublist.filter fun entry => entry.1 == p
  rw [List.filter_eq_self.2 fun entry mem => by simp [(mem_ofPriority.1 mem).2]] at kept
  have count := ((inOrder_perm order arrivals).filter fun entry => entry.1 == p).length_eq
  exact (kept.eq_of_length count.symm).symm

theorem Sorted.not_before_first {first other : Priority × α}
    (sorted : Sorted order (first :: entries)) (mem : other ∈ first :: entries) :
    order.before other.1 first.1 = false := by
  rcases List.mem_cons.1 mem with rfl | mem
  · exact order.before_irrefl other.1
  · exact List.rel_of_pairwise_cons sorted mem

/-- The first entry is also in any list that has the same of each priority. -/
theorem mem_of_ofPriority_eq {first : Priority × α} {others : List (Priority × α)}
    (same : ∀ p, ofPriority p (first :: entries) = ofPriority p others) : first ∈ others := by
  have mem : first ∈ ofPriority first.1 (first :: entries) :=
    mem_ofPriority.2 ⟨List.mem_cons_self, rfl⟩
  rw [same] at mem
  exact (mem_ofPriority.1 mem).1

/-- A sorted list is told by what it has of each priority. -/
theorem eq_of_sorted {others : List (Priority × α)} (sorted : Sorted order entries)
    (sorted' : Sorted order others)
    (same : ∀ p, ofPriority p entries = ofPriority p others) : entries = others := by
  induction entries generalizing others with
  | nil =>
    cases others with
    | nil => rfl
    | cons other others => cases mem_of_ofPriority_eq fun p => (same p).symm
  | cons entry entries ih =>
    cases others with
    | nil => cases mem_of_ofPriority_eq same
    | cons other others =>
      -- Neither of the two first entries is served before the other.
      have priority : entry.1 = other.1 := by
        apply order.eq_of_not_before
        · exact sorted'.not_before_first (mem_of_ofPriority_eq same)
        · exact sorted.not_before_first (mem_of_ofPriority_eq fun p => (same p).symm)
      have first := same entry.1
      rw [ofPriority_cons, ofPriority_cons, if_pos rfl, if_pos priority.symm] at first
      obtain ⟨rfl, _⟩ := List.cons.inj first
      refine congrArg (entry :: ·) (ih sorted.of_cons sorted'.of_cons ?_)
      intro p
      have rest := same p
      rw [ofPriority_cons, ofPriority_cons] at rest
      split at rest
      · exact (List.cons.inj rest).2
      · exact rest

/-- An entry stands behind all that it is not served before, and before all others. -/
theorem ranked_eq_filter (sorted : Sorted order entries) (entry : Priority × α) :
    ranked order entry entries =
      (entries.filter fun other => !order.before entry.1 other.1) ++
        entry :: entries.filter fun other => order.before entry.1 other.1 := by
  induction entries with
  | nil => rfl
  | cons first rest ih =>
    rw [ranked_cons]
    split
    · rename_i before
      have all := sorted.before_all before
      rw [List.filter_eq_self.2 all, List.filter_eq_nil_iff.2]
      · rfl
      · intro other mem
        simp [all other mem]
    · rename_i late
      rw [Bool.not_eq_true] at late
      simp [late, ih sorted.of_cons]

/-- An entry comes behind all others of its priority. -/
theorem ofPriority_ranked (sorted : Sorted order entries) (entry : Priority × α)
    (p : Priority) :
    ofPriority p (ranked order entry entries) = ofPriority p (entries ++ [entry]) := by
  rw [ofPriority_append]
  by_cases here : entry.1 = p
  · have level : ∀ other ∈ ofPriority p entries, order.before entry.1 other.1 = false := by
      intro other mem
      rw [here, (mem_ofPriority.1 mem).2]
      exact order.before_irrefl p
    have alone : ofPriority p [entry] = [entry] := by simp [ofPriority, here]
    rw [alone, ofPriority, filter_ranked sorted (by simp [here]), ← ofPriority,
      ranked_eq_filter (sorted_ofPriority order p entries), List.filter_eq_self.2,
      List.filter_eq_nil_iff.2]
    · intro other mem
      simp [level other mem]
    · intro other mem
      simp [level other mem]
  · have whole := entries.takeWhile_append_dropWhile
      (p := fun incumbent => !order.before entry.1 incumbent.1)
    have alone : ofPriority p [entry] = [] := by simp [ofPriority, here]
    rw [ranked, ofPriority_append, ofPriority_cons, if_neg here, ← ofPriority_append, whole, alone,
      List.append_nil]

/-- One more entry comes to its rank. -/
theorem inOrder_concat (order : ServingOrder) (arrivals : List (Priority × α))
    (entry : Priority × α) :
    inOrder order (arrivals ++ [entry]) = ranked order entry (inOrder order arrivals) := by
  have sorted := sorted_inOrder order arrivals
  apply eq_of_sorted (sorted_inOrder order _) (sorted_ranked sorted entry)
  intro p
  rw [ofPriority_inOrder, ofPriority_ranked sorted, ofPriority_append, ofPriority_append,
    ofPriority_inOrder]

/-- The stable sort brings one entry after the other to its rank. -/
theorem inOrder_append (order : ServingOrder) (before arrivals : List (Priority × α)) :
    inOrder order (before ++ arrivals) =
      arrivals.foldl (fun entries entry => ranked order entry entries) (inOrder order before) := by
  induction arrivals generalizing before with
  | nil => rw [List.append_nil, List.foldl_nil]
  | cons entry arrivals ih =>
    rw [List.append_cons, ih, inOrder_concat, List.foldl_cons]

/-- Some of the entries are in the order that they would have on their own. -/
theorem inOrder_filter (order : ServingOrder) (arrivals : List (Priority × α))
    (p : Priority × α → Bool) :
    (inOrder order arrivals).filter p = inOrder order (arrivals.filter p) := by
  apply eq_of_sorted ((sorted_inOrder order arrivals).filter p) (sorted_inOrder order _)
  intro priority
  have apart : ∀ entries : List (Priority × α),
      ofPriority priority (entries.filter p) = (ofPriority priority entries).filter p := by
    intro entries
    simp only [ofPriority, List.filter_filter, Bool.and_comm]
  rw [ofPriority_inOrder, apart, apart, ofPriority_inOrder]

/-- Entries that are told in other words stay in order. -/
theorem inOrder_map {β : Type} (order : ServingOrder) (arrivals : List (Priority × α))
    {f : Priority × α → Priority × β} (same : ∀ entry, (f entry).1 = entry.1) :
    (inOrder order arrivals).map f = inOrder order (arrivals.map f) := by
  apply List.map_mergeSort
  intro entry _ other _
  rw [noLater, noLater, same, same]

end RankedQueue

end Custody
