import Custody.Proofs.Ring.Layout

/-!
# Contents of a ring

What each change of a ring does to the order of its slots, and so to its entries.

* `Ring.laid_pushBack`, `Ring.laid_insertAt`: the first free slot joins the live
  ones, at the end or right behind the slot of the displaced entry;
* `Ring.laid_dropFront`, `Ring.laid_dropBehind`: a live slot joins the free ones;
* `Ring.laid_dropLinked`, `Ring.entries_dropLinked`: the same of any live slot.
-/

namespace Custody

namespace Ring

variable {κ α : Type}

@[simp] theorem next_grown (r : Ring κ α) (j : Nat) : r.grown.next j = r.next j := rfl

@[simp] theorem next_shrunk (r : Ring κ α) (j : Nat) : r.shrunk.next j = r.next j := rfl

@[simp] theorem next_withTail (r : Ring κ α) (t j : Nat) :
    ({ r with tail := t } : Ring κ α).next j = r.next j := rfl

@[simp] theorem next_withHead (r : Ring κ α) (i j : Nat) :
    ({ r with head := i } : Ring κ α).next j = r.next j := rfl

@[simp] theorem entryAt?_grown (r : Ring κ α) (j : Nat) : r.grown.entryAt? j = r.entryAt? j := rfl

@[simp] theorem entryAt?_shrunk (r : Ring κ α) (j : Nat) :
    r.shrunk.entryAt? j = r.entryAt? j := rfl

@[simp] theorem entryAt?_withTail (r : Ring κ α) (t j : Nat) :
    ({ r with tail := t } : Ring κ α).entryAt? j = r.entryAt? j := rfl

@[simp] theorem entryAt?_withHead (r : Ring κ α) (i j : Nat) :
    ({ r with head := i } : Ring κ α).entryAt? j = r.entryAt? j := rfl

/-- A slot links to the one visited behind it. -/
theorem Leads.next_eq {next : Nat → Nat} {i j k : Nat} (front back : List Nat)
    (walk : Leads next i (front ++ k :: back) j) : next k = back.head?.getD j := by
  obtain ⟨m, _, rfl, walk⟩ := leads_append.1 walk
  cases back with
  | nil => exact walk
  | cons b back => exact walk.1.symm

variable {r : Ring κ α} {live front back free : List Nat} {f i before stop : Nat}

/-! ### An entry behind all others -/

theorem freeSlot_eq (h : r.Laid live (f :: free)) : r.freeSlot = f := by
  unfold freeSlot
  rcases live.eq_nil_or_concat' with rfl | ⟨front, last, rfl⟩
  · have head : r.head = f := h.head_eq rfl
    simp [h.size, h.tail, head]
  · have cycle := h.cycle
    rw [List.append_assoc] at cycle
    have hnext : r.next last = f := Leads.next_eq front (f :: free) cycle
    simp [h.size, h.tail, hnext]

theorem capacity_pushBack (r : Ring κ α) (key : κ) (value : α) :
    (r.pushBack key value).capacity = r.capacity := by
  simp [pushBack, grown, put, capacity]

theorem next_pushBack (r : Ring κ α) (key : κ) (value : α) :
    (r.pushBack key value).next = r.next := by
  funext j
  simp only [pushBack, next_grown, next_put, next_withTail]

theorem entryAt?_pushBack (h : r.Laid live (f :: free)) (key : κ) (value : α) (j : Nat) :
    (r.pushBack key value).entryAt? j =
      if j = f then some (key, value) else r.entryAt? j := by
  have hf : f < r.capacity := h.lt_capacity (by simp)
  simp only [pushBack, entryAt?_grown, freeSlot_eq h]
  exact entryAt?_put _ key (some value) hf j

theorem laid_pushBack (h : r.Laid live (f :: free)) (key : κ) (value : α) :
    (r.pushBack key value).Laid (live ++ [f]) free where
  cycle := by
    rw [next_pushBack]
    simpa [pushBack, grown, put] using h.cycle
  nodup := by simpa using h.nodup
  mem j := by
    rw [capacity_pushBack, ← h.mem j]
    simp
  size := by simp [pushBack, grown, put, h.size]
  tail := by
    rcases live.eq_nil_or_concat' with rfl | ⟨front, last, rfl⟩
    · have head : r.head = f := h.head_eq rfl
      simp [pushBack, grown, put, h.size, h.tail, head]
    · simp [pushBack, grown, put, h.size, freeSlot_eq h]
  held j hj := by
    rw [entryAt?_pushBack h]
    by_cases heq : j = f
    · simp [heq]
    · simpa [heq] using h.held j (by simpa [heq] using hj)
  vacant j hj := by
    have hfree := (List.nodup_cons.1 (List.nodup_append.1 h.nodup).2.1).1
    rw [entryAt?_pushBack h, if_neg (ne_of_mem_of_not_mem hj hfree)]
    exact h.vacant j (List.mem_cons_of_mem _ hj)

theorem entries_pushBack (h : r.Laid live (f :: free)) (key : κ) (value : α) :
    (r.pushBack key value).entries = r.entries ++ [(key, value)] := by
  rw [entries_eq (laid_pushBack h key value), entries_eq h, List.filterMap_append]
  congr 1
  · apply List.filterMap_congr
    intro k hk
    rw [entryAt?_pushBack h, if_neg (h.apart hk List.mem_cons_self)]
  · simp [entryAt?_pushBack h]

/-! ### An entry in the place of another -/

theorem capacity_insertAt (r : Ring κ α) (stop : Nat) (key : κ) (value : α) :
    (r.insertAt stop key value).capacity = r.capacity := by
  unfold insertAt
  split
  · rfl
  · simp [displace, grown, capacity, put, link]

theorem tail_eq_getLast (h : r.Laid live free) (hne : live ≠ []) :
    r.tail = live.getLast hne := by
  rw [h.tail, List.getLast?_eq_some_getLast hne, Option.getD_some]

/-- The last live slot is the one that no other comes behind. -/
theorem tail_eq (h : r.Laid (front ++ stop :: back) free) : r.tail = back.getLast?.getD stop := by
  cases hb : back.getLast? <;> simp [h.tail, List.getLast?_append, List.getLast?_cons, hb]

theorem eq_tail_iff (h : r.Laid (front ++ stop :: back) free) : stop = r.tail ↔ back = [] := by
  have nodup := (List.nodup_append.1 (List.nodup_append.1 h.nodup).1).2.1
  rw [tail_eq h]
  rcases back.eq_nil_or_concat' with rfl | ⟨inner, last, rfl⟩
  · simp
  · have hne : stop ≠ last := fun heq => (List.nodup_cons.1 nodup).1 (by simp [heq])
    simp [hne]

theorem next_tail (h : r.Laid live free) (hne : live ≠ []) :
    r.next r.tail = free.head?.getD r.head := by
  have cycle := h.cycle
  rw [tail_eq_getLast h hne]
  rw [← List.dropLast_append_getLast hne, List.append_assoc] at cycle
  exact Leads.next_eq _ _ cycle

theorem insertAt_eq (h : r.Laid (front ++ stop :: back) free) (key : κ) (value : α) :
    ∃ displaced, r.insertAt stop key value = r.displace stop key value displaced ∧
      displaced.value.map (displaced.key, ·) = r.entryAt? stop := by
  have hs : stop < r.slots.size := h.lt_capacity (by simp)
  exact ⟨r.slots[stop], by simp [insertAt, hs], by simp [entryAt?, hs]⟩

theorem next_insertAt (h : r.Laid (front ++ stop :: back) (f :: free)) (key : κ) (value : α)
    (j : Nat) :
    (r.insertAt stop key value).next j =
      if j = stop then f
      else if j = f then (if stop = r.tail then r.next f else r.next stop)
      else if j = r.tail then r.next f
      else r.next j := by
  obtain ⟨displaced, heq, _⟩ := insertAt_eq h key value
  have hne : front ++ stop :: back ≠ [] := by simp
  have hs : stop < r.capacity := h.lt_capacity (by simp)
  have hf : f < r.capacity := h.lt_capacity (by simp)
  have ht : r.tail < r.capacity := by
    rw [tail_eq_getLast h hne]
    exact h.lt_capacity (List.mem_append_left _ (List.getLast_mem hne))
  have hfree : r.next r.tail = f := by simp [next_tail h hne]
  simp only [heq, displace, next_grown, next_put, next_withTail, hfree]
  rw [next_link _ _ (by simpa only [capacity_link] using hs),
    next_link _ _ (by simpa only [capacity_link] using hf), next_link _ _ ht, next_link _ _ ht]

theorem entryAt?_insertAt (h : r.Laid (front ++ stop :: back) (f :: free)) (key : κ) (value : α)
    (j : Nat) :
    (r.insertAt stop key value).entryAt? j =
      if j = f then r.entryAt? stop
      else if j = stop then some (key, value)
      else r.entryAt? j := by
  obtain ⟨displaced, heq, hentry⟩ := insertAt_eq h key value
  have hs : stop < r.capacity := h.lt_capacity (by simp)
  have hf : f < r.capacity := h.lt_capacity (by simp)
  have hfree : r.next r.tail = f := by simp [next_tail h]
  simp only [heq, displace, entryAt?_grown, hfree]
  rw [entryAt?_put _ _ _ (by simpa [capacity, put, link] using hf),
    entryAt?_put _ _ _ (by simpa [capacity, link] using hs)]
  simp only [entryAt?_withTail, entryAt?_link, hentry, Option.map_some]

/-- The walk along links that were changed so that `f`, which came behind `last`, comes
behind `stop`. -/
theorem Leads.splice {next next' : Nat → Nat} {i j : Nat}
    (walk : Leads next i (front ++ stop :: back ++ f :: free) j)
    (nodup : (front ++ stop :: back ++ f :: free).Nodup)
    (links : ∀ k, next' k =
      if k = stop then f
      else if k = f then (if back = [] then next f else next stop)
      else if back.getLast? = some k then next f
      else next k) :
    Leads next' i (front ++ stop :: f :: back ++ free) j := by
  obtain ⟨_, nodup', apart⟩ := List.nodup_append.1 nodup
  rw [List.append_assoc, List.cons_append] at walk nodup ⊢
  obtain ⟨_, hnodup, apart'⟩ := List.nodup_append.1 nodup
  obtain ⟨_, hfront, rfl, hrest⟩ := leads_append.1 walk
  obtain ⟨_, hback, rfl, hfree⟩ := leads_append.1 hrest
  have other : ∀ ks : List Nat, (∀ k ∈ ks, k ≠ stop ∧ k ≠ f ∧ back.getLast? ≠ some k) →
      ∀ k ∈ ks, next' k = next k := by
    intro ks hks k hk
    obtain ⟨h₁, h₂, h₃⟩ := hks k hk
    rw [links, if_neg h₁, if_neg h₂, if_neg h₃]
  have hstop : next' stop = f := by rw [links, if_pos rfl]
  have hne : f ≠ stop := fun heq => (List.nodup_cons.1 hnodup).1 (by simp [heq])
  have hf : next' f = if back = [] then next f else next stop := by
    rw [links, if_neg hne, if_pos rfl]
  have hfront' : Leads next' i front stop := by
    refine (leads_congr (other front fun k hk => ⟨?_, ?_, fun hlast => ?_⟩)).2 hfront
    · exact apart' k hk stop (by simp)
    · exact apart' k hk f (by simp)
    · exact apart' k hk k (by simp [List.mem_of_getLast? hlast]) rfl
  have hfree' : Leads next' (next f) free j := by
    refine (leads_congr (other free fun k hk => ⟨?_, ?_, fun hlast => ?_⟩)).2 hfree
    · exact (apart stop (by simp) k (by simp [hk])).symm
    · exact ne_of_mem_of_not_mem hk (List.nodup_cons.1 nodup').1
    · exact apart k (by simp [List.mem_of_getLast? hlast]) k (by simp [hk]) rfl
  refine leads_append.2 ⟨stop, hfront', rfl, ?_⟩
  rw [List.cons_append, hstop]
  refine ⟨rfl, leads_append.2 ⟨next f, ?_, hfree'⟩⟩
  rw [hf]
  rcases back.eq_nil_or_concat' with rfl | ⟨inner, last, rfl⟩
  · rfl
  · obtain ⟨_, hinner, rfl, _⟩ := leads_append.1 hback
    rw [if_neg (by simp)]
    have inside := (List.nodup_append.1 (List.nodup_cons.1 hnodup).2).1
    refine leads_append.2 ⟨last, ?_, rfl, ?_⟩
    · refine (leads_congr (other inner fun k hk => ⟨?_, ?_, fun hlast => ?_⟩)).2 hinner
      · exact fun heq => (List.nodup_cons.1 hnodup).1 (by simp [← heq, hk])
      · exact apart k (by simp [hk]) f (by simp)
      · simp only [List.getLast?_append, List.getLast?_singleton, Option.some_or,
          Option.some.injEq] at hlast
        exact (List.nodup_append.1 inside).2.2 k hk last (by simp) hlast.symm
    · have hlast : last ≠ stop := fun heq => (List.nodup_cons.1 hnodup).1 (by simp [← heq])
      rw [links, if_neg hlast, if_neg (apart last (by simp) f (by simp)), if_pos (by simp)]
      rfl

theorem laid_insertAt (h : r.Laid (front ++ stop :: back) (f :: free)) (key : κ) (value : α) :
    (r.insertAt stop key value).Laid (front ++ stop :: f :: back) free := by
  obtain ⟨displaced, heq, _⟩ := insertAt_eq h key value
  have hfree : r.next r.tail = f := by simp [next_tail h]
  have htail := tail_eq h
  have hstop := eq_tail_iff h
  have hhead : (r.insertAt stop key value).head = r.head := by
    simp [heq, displace, grown, put, link]
  have perm : (front ++ stop :: f :: back ++ free).Perm (front ++ stop :: back ++ f :: free) := by
    simp only [List.append_assoc, List.cons_append]
    exact (List.Perm.cons stop List.perm_middle.symm).append_left front
  constructor
  · rw [hhead]
    apply Leads.splice h.cycle h.nodup
    intro k
    rw [next_insertAt h]
    by_cases hk : k = stop
    · rw [if_pos hk, if_pos hk]
    · have hlast : k = r.tail ↔ back.getLast? = some k := by
        rw [htail]
        cases back.getLast? <;> simp [hk, eq_comm]
      simp only [hstop, hlast]
  · exact (h.of_perm perm).1
  · intro j
    rw [capacity_insertAt]
    exact (h.of_perm perm).2 j
  · have size := h.size
    simp only [heq, displace, grown, put, link, List.length_append, List.length_cons] at size ⊢
    omega
  · have hnew : (r.insertAt stop key value).tail = if stop = r.tail then f else r.tail := by
      simp [heq, displace, grown, put, link, hfree]
    rw [hnew]
    rcases back.eq_nil_or_concat' with rfl | ⟨inner, last, rfl⟩
    · simp [hstop.2 rfl]
    · rw [if_neg fun hs => absurd (hstop.1 hs) (by simp), htail]
      simp [List.getLast?_append, List.getLast?_cons]
  · intro j hj
    rw [entryAt?_insertAt h]
    split
    · exact h.held stop (by simp)
    · split
      · rfl
      · rename_i hf hs
        exact h.held j (by simpa [hf, hs] using hj)
  · intro j hj
    have hne := ne_of_mem_of_not_mem hj (List.nodup_cons.1 (List.nodup_append.1 h.nodup).2.1).1
    have hmem := List.mem_cons_of_mem f hj
    have hs : j ≠ stop := (h.apart (by simp) hmem).symm
    rw [entryAt?_insertAt h, if_neg hne, if_neg hs]
    exact h.vacant j hmem

theorem entries_insertAt (h : r.Laid (front ++ stop :: back) (f :: free)) (key : κ) (value : α) :
    (r.insertAt stop key value).entries =
      r.entries.take front.length ++ (key, value) :: r.entries.drop front.length := by
  obtain ⟨_, behind, apart⟩ := List.nodup_append.1 (List.nodup_append.1 h.nodup).1
  have hlen : (front.filterMap r.entryAt?).length = front.length :=
    length_filterMap_of_held fun k hk => h.held k (by simp [hk])
  have same : ∀ ks : List Nat, (∀ k ∈ ks, k ≠ f ∧ k ≠ stop) →
      ks.filterMap (r.insertAt stop key value).entryAt? = ks.filterMap r.entryAt? := by
    intro ks hks
    apply List.filterMap_congr
    intro k hk
    rw [entryAt?_insertAt h, if_neg (hks k hk).1, if_neg (hks k hk).2]
  have hstop : stop ≠ f := h.apart (by simp) List.mem_cons_self
  have hfront : ∀ k ∈ front, k ≠ f ∧ k ≠ stop := fun k hk =>
    ⟨h.apart (by simp [hk]) List.mem_cons_self, apart k hk stop List.mem_cons_self⟩
  have hback : ∀ k ∈ back, k ≠ f ∧ k ≠ stop := fun k hk =>
    ⟨h.apart (by simp [hk]) List.mem_cons_self,
      ne_of_mem_of_not_mem hk (List.nodup_cons.1 behind).1⟩
  rw [entries_eq (laid_insertAt h key value), entries_eq h, List.filterMap_append,
    List.filterMap_append, List.take_left' hlen, List.drop_left' hlen, same front hfront]
  simp only [List.filterMap_cons, same back hback]
  simp [entryAt?_insertAt h, hstop]

/-! ### Without the first entry -/

theorem front?_eq (h : r.Laid live free) : r.front? = r.entries.head? := by
  cases live with
  | nil => simp [front?, h.size, entries_eq h]
  | cons i live =>
    have head : r.head = i := h.head_eq rfl
    have held := h.held i List.mem_cons_self
    obtain ⟨entry, hentry⟩ := Option.isSome_iff_exists.1 held
    simp [front?, h.size, entries_eq h, head, hentry]

theorem capacity_dropFront (r : Ring κ α) : r.dropFront.capacity = r.capacity := by
  simp [dropFront, shrunk, vacate, capacity]

theorem next_dropFront (r : Ring κ α) : r.dropFront.next = r.next := by
  funext j
  simp only [dropFront, next_shrunk, next_withHead, next_vacate]

theorem entryAt?_dropFront (h : r.Laid (i :: live) free) (j : Nat) :
    r.dropFront.entryAt? j = if j = i then none else r.entryAt? j := by
  have head : r.head = i := h.head_eq rfl
  simp only [dropFront, entryAt?_shrunk, entryAt?_withHead, entryAt?_vacate, head]

theorem laid_dropFront_last (h : r.Laid [i] free) : r.dropFront.Laid [] (i :: free) where
  cycle := by
    rw [next_dropFront]
    simpa [dropFront, shrunk, vacate, h.size] using h.cycle
  nodup := h.nodup
  mem j := by
    rw [capacity_dropFront]
    exact h.mem j
  size := by simp [dropFront, shrunk, vacate, h.size]
  tail := by
    have head : r.head = i := h.head_eq rfl
    simp [dropFront, shrunk, vacate, h.size, h.tail, head]
  held j hj := by simp at hj
  vacant j hj := by
    rw [entryAt?_dropFront h]
    split
    · rfl
    · rename_i hne
      exact h.vacant j ((List.mem_cons.1 hj).resolve_left hne)

theorem laid_dropFront (h : r.Laid (i :: f :: live) free) :
    r.dropFront.Laid (f :: live) (free ++ [i]) := by
  have head : r.head = i := h.head_eq rfl
  have hnext : r.next i = f := Leads.next_eq [] (f :: live ++ free) h.cycle
  have hhead : r.dropFront.head = f := by
    simp [dropFront, shrunk, vacate, h.size, head, hnext]
  have perm : (f :: live ++ (free ++ [i])).Perm (i :: f :: live ++ free) := by
    rw [← List.append_assoc]
    exact List.perm_append_comm
  constructor
  · obtain ⟨_, rest⟩ := h.cycle
    rw [hnext, head] at rest
    rw [next_dropFront, hhead, ← List.append_assoc]
    exact leads_append.2 ⟨i, rest, rfl, hnext⟩
  · exact (h.of_perm perm).1
  · intro j
    rw [capacity_dropFront]
    exact (h.of_perm perm).2 j
  · simp [dropFront, shrunk, vacate, h.size]
  · simp [dropFront, shrunk, vacate, h.tail, List.getLast?_cons]
  · intro j hj
    have hne : j ≠ i := by
      rintro rfl
      exact (List.nodup_cons.1 h.nodup).1 (List.mem_append_left _ hj)
    rw [entryAt?_dropFront h, if_neg hne]
    exact h.held j (List.mem_cons_of_mem _ hj)
  · intro j hj
    rw [entryAt?_dropFront h]
    split
    · rfl
    · rename_i hne
      exact h.vacant j ((List.mem_append.1 hj).resolve_right (by simpa using hne))

theorem sound_dropFront (h : r.Laid (i :: live) free) : r.dropFront.Sound := by
  cases live with
  | nil => exact ⟨_, _, laid_dropFront_last h⟩
  | cons f live => exact ⟨_, _, laid_dropFront h⟩

theorem entries_dropFront (h : r.Laid (i :: live) free) : r.dropFront.entries = r.entries.tail := by
  have held := h.held i List.mem_cons_self
  obtain ⟨entry, hentry⟩ := Option.isSome_iff_exists.1 held
  have same : live.filterMap r.dropFront.entryAt? = live.filterMap r.entryAt? := by
    apply List.filterMap_congr
    intro k hk
    have hne : k ≠ i := by
      rintro rfl
      exact (List.nodup_cons.1 h.nodup).1 (List.mem_append_left _ hk)
    rw [entryAt?_dropFront h, if_neg hne]
  cases live with
  | nil => simp [entries_eq (laid_dropFront_last h), entries_eq h, hentry]
  | cons f live =>
    rw [entries_eq (laid_dropFront h), entries_eq h, same]
    simp [List.filterMap_cons, hentry]

/-! ### Without an entry behind another -/

theorem capacity_dropBehind (r : Ring κ α) (before i : Nat) :
    (r.dropBehind before i).capacity = r.capacity := by
  simp [dropBehind, shrunk, link, vacate, capacity]

theorem entryAt?_dropBehind (r : Ring κ α) (before i j : Nat) :
    (r.dropBehind before i).entryAt? j = if j = i then none else r.entryAt? j := by
  simp only [dropBehind, entryAt?_shrunk, entryAt?_link, entryAt?_withTail, entryAt?_vacate]

theorem next_dropBehind (h : r.Laid (front ++ before :: i :: back) free) (j : Nat) :
    (r.dropBehind before i).next j =
      if back = [] then r.next j
      else if j = r.tail then i
      else if j = i then r.next r.tail
      else if j = before then r.next i
      else r.next j := by
  have hb : before < r.capacity := h.lt_capacity (by simp)
  have hi : i < r.capacity := h.lt_capacity (by simp)
  have htail := tail_eq_getLast h (by simp)
  have ht : r.tail < r.capacity := by
    rw [htail]
    exact h.lt_capacity (List.mem_append_left _ (List.getLast_mem _))
  have hbefore : r.next before = i := by
    have cycle := h.cycle
    rw [List.append_assoc] at cycle
    exact Leads.next_eq _ _ cycle
  have cut (t j : Nat) :
      ({ (r.vacate i).link before (r.next i) with tail := t } : Ring κ α).next j =
        if j = before then r.next i else r.next j := by
    rw [next_withTail, next_link _ _ (by simpa only [capacity_vacate] using hb), next_vacate]
  have hlt : (if i = r.tail then before else r.tail) < r.capacity := by split <;> assumption
  simp only [dropBehind, next_shrunk]
  rw [next_link _ _ (by simpa [capacity, link, vacate] using hlt),
    next_link _ _ (by simpa [capacity, link, vacate] using hi), cut, cut]
  have hlast : i = r.tail ↔ back = [] := by
    rw [List.append_cons] at h
    exact eq_tail_iff h
  by_cases hback : back = []
  · -- The slot that goes was the last: it stays where it is, and `before` is last.
    rw [if_pos hback, if_pos (hlast.2 hback), if_pos rfl]
    by_cases hj : j = before
    · rw [if_pos hj, hj, hbefore]
    · rw [if_neg hj, if_neg hj]
      split
      · rename_i heq
        rw [heq]
      · rfl
  · have hne : r.tail ≠ before := fun heq => by
      have last := eq_tail_iff h
      exact absurd (last.1 heq.symm) (by simp)
    rw [if_neg hback, if_neg (mt hlast.1 hback), if_neg hne]

/-- The walk along links that were changed so that `i`, which came behind `before`,
comes behind `back`. -/
theorem Leads.unsplice {next next' : Nat → Nat} {j m last : Nat}
    (walk : Leads next m (front ++ before :: i :: back ++ free) j)
    (nodup : (front ++ before :: i :: back ++ free).Nodup)
    (hlast : back.getLast? = some last)
    (links : ∀ k, next' k =
      if k = last then i
      else if k = i then next last
      else if k = before then next i
      else next k) :
    Leads next' m (front ++ before :: back ++ i :: free) j := by
  obtain ⟨inner, rfl⟩ : ∃ inner, back = inner ++ [last] :=
    ⟨_, (List.dropLast_append_getLast? last hlast).symm⟩
  obtain ⟨_, _, apartFree⟩ := List.nodup_append.1 nodup
  simp only [List.append_assoc, List.cons_append, List.nil_append] at walk nodup ⊢
  obtain ⟨_, behind, apartFront⟩ := List.nodup_append.1 nodup
  obtain ⟨hbefore, behind⟩ := List.nodup_cons.1 behind
  obtain ⟨hi, behind⟩ := List.nodup_cons.1 behind
  obtain ⟨_, _, apartInner⟩ := List.nodup_append.1 behind
  obtain ⟨_, hfront, rfl, hhead, hrest⟩ := leads_append.1 walk
  obtain ⟨_, hinner, rfl, hfree⟩ := leads_append.1 hrest
  have other : ∀ ks : List Nat, (∀ k ∈ ks, k ≠ last ∧ k ≠ i ∧ k ≠ before) →
      ∀ k ∈ ks, next' k = next k := by
    intro ks hks k hk
    obtain ⟨h₁, h₂, h₃⟩ := hks k hk
    rw [links, if_neg h₁, if_neg h₂, if_neg h₃]
  have before_last : before ≠ last := fun heq => hbefore (by simp [heq])
  have before_i : before ≠ i := fun heq => hbefore (by simp [heq])
  have i_last : i ≠ last := fun heq => hi (by simp [heq])
  have next_before : next' before = next i := by
    rw [links, if_neg before_last, if_neg before_i, if_pos rfl]
  have next_last : next' last = i := by rw [links, if_pos rfl]
  have next_i : next' i = next last := by rw [links, if_neg i_last, if_pos rfl]
  have hfront' := (leads_congr (i := m) (j := before) (other front fun k hk =>
    ⟨apartFront k hk last (by simp), apartFront k hk i (by simp),
      apartFront k hk before (by simp)⟩)).2 hfront
  have hinner' := (leads_congr (i := next i) (j := last) (other inner fun k hk =>
    ⟨apartInner k hk last (by simp), ne_of_mem_of_not_mem hk fun hmem => hi (by simp [hmem]),
      ne_of_mem_of_not_mem hk fun hmem => hbefore (by simp [hmem])⟩)).2 hinner
  have hfree' := (leads_congr (i := next last) (j := j) (other free fun k hk =>
    ⟨(apartFree last (by simp) k hk).symm, (apartFree i (by simp) k hk).symm,
      (apartFree before (by simp) k hk).symm⟩)).2 hfree
  refine leads_append.2 ⟨before, hfront', rfl, ?_⟩
  rw [next_before]
  refine leads_append.2 ⟨last, hinner', rfl, ?_⟩
  rw [next_last]
  refine ⟨rfl, ?_⟩
  rw [next_i]
  exact hfree'

theorem laid_dropBehind (h : r.Laid (front ++ before :: i :: back) free) :
    (r.dropBehind before i).Laid (front ++ before :: back) (i :: free) := by
  have hhead : (r.dropBehind before i).head = r.head := rfl
  have htail' : (r.dropBehind before i).tail = if i = r.tail then before else r.tail := rfl
  have perm : (front ++ before :: back ++ i :: free).Perm
      (front ++ before :: i :: back ++ free) := by
    simp only [List.append_assoc, List.cons_append]
    exact (List.Perm.cons before List.perm_middle).append_left front
  constructor
  · rw [hhead]
    cases hlast : back.getLast? with
    | none =>
      obtain rfl : back = [] := List.getLast?_eq_none_iff.1 hlast
      have same : (r.dropBehind before i).next = r.next := by
        funext k
        rw [next_dropBehind h, if_pos rfl]
      rw [same]
      simpa using h.cycle
    | some last =>
      have hne : back ≠ [] := by
        rintro rfl
        simp at hlast
      have ht : r.tail = last := by simp [h.tail, List.getLast?_cons, hlast]
      apply Leads.unsplice h.cycle h.nodup hlast
      intro k
      rw [next_dropBehind h, if_neg hne, ht]
  · exact (h.of_perm perm).1
  · intro j
    rw [capacity_dropBehind]
    exact (h.of_perm perm).2 j
  · have size := h.size
    simp only [dropBehind, shrunk, link, vacate, List.length_append, List.length_cons] at size ⊢
    omega
  · have hlast : i = r.tail ↔ back = [] := by
      rw [List.append_cons] at h
      exact eq_tail_iff h
    rw [htail']
    rcases back.eq_nil_or_concat' with rfl | ⟨inner, last, rfl⟩
    · simp [hlast.2 rfl]
    · rw [if_neg fun hs => absurd (hlast.1 hs) (by simp), tail_eq h]
      simp [List.getLast?_append, List.getLast?_cons]
  · intro j hj
    have hne : j ≠ i := by
      rintro rfl
      exact (List.nodup_append.1 (h.of_perm perm).1).2.2 j hj j List.mem_cons_self rfl
    rw [entryAt?_dropBehind, if_neg hne]
    apply h.held j
    simp only [List.mem_append, List.mem_cons] at hj ⊢
    rcases hj with hj | rfl | hj
    · exact .inl hj
    · exact .inr (.inl rfl)
    · exact .inr (.inr (.inr hj))
  · intro j hj
    rw [entryAt?_dropBehind]
    split
    · rfl
    · rename_i hne
      exact h.vacant j ((List.mem_cons.1 hj).resolve_left hne)

theorem entries_dropBehind (h : r.Laid (front ++ before :: i :: back) free) :
    (r.dropBehind before i).entries = r.entries.eraseIdx (front.length + 1) := by
  have hlen : (front.filterMap r.entryAt?).length = front.length :=
    length_filterMap_of_held fun k hk => h.held k (by simp [hk])
  obtain ⟨first, hfirst⟩ := Option.isSome_iff_exists.1 (h.held before (by simp))
  obtain ⟨second, hsecond⟩ := Option.isSome_iff_exists.1 (h.held i (by simp))
  have same : (front ++ before :: back).filterMap (r.dropBehind before i).entryAt? =
      (front ++ before :: back).filterMap r.entryAt? := by
    apply List.filterMap_congr
    intro k hk
    have hne : k ≠ i := (laid_dropBehind h).apart hk List.mem_cons_self
    rw [entryAt?_dropBehind, if_neg hne]
  rw [entries_eq (laid_dropBehind h), entries_eq h, same]
  simp [hfirst, hsecond, List.eraseIdx_append_of_length_le, hlen]

/-! ### Without any one entry -/

/-- The entry in the order of the live slots. -/
theorem getElem?_entries (h : r.Laid (front ++ i :: back) free) :
    r.entries[front.length]? = r.entryAt? i := by
  obtain ⟨entry, hentry⟩ := Option.isSome_iff_exists.1 (h.held i (by simp))
  have hlen : (front.filterMap r.entryAt?).length = front.length :=
    length_filterMap_of_held fun k hk => h.held k (by simp [hk])
  rw [entries_eq h, List.filterMap_append, List.filterMap_cons_some hentry,
    List.getElem?_append_right (by omega), hlen, Nat.sub_self, List.getElem?_cons_zero, hentry]

theorem linked?_eq (h : r.Laid (front ++ i :: back) free) :
    r.linked? front.getLast? i = r.entryAt? i := by
  rcases front.eq_nil_or_concat' with rfl | ⟨initial, before, rfl⟩
  · rw [← getElem?_entries h, List.length_nil, ← List.head?_eq_getElem?]
    exact front?_eq h
  · simp [linked?]

theorem laid_dropLinked (h : r.Laid (front ++ i :: back) free) :
    ∃ free', (r.dropLinked front.getLast? i).Laid (front ++ back) free' := by
  rcases front.eq_nil_or_concat' with rfl | ⟨initial, before, rfl⟩
  · cases back with
    | nil => exact ⟨_, laid_dropFront_last h⟩
    | cons f back => exact ⟨_, laid_dropFront h⟩
  · rw [List.append_assoc] at h ⊢
    simp only [List.getLast?_append, List.getLast?_singleton, Option.some_or, dropLinked]
    exact ⟨_, laid_dropBehind h⟩

theorem capacity_dropLinked (r : Ring κ α) (before? : Option Nat) (i : Nat) :
    (r.dropLinked before? i).capacity = r.capacity := by
  cases before? with
  | none => exact capacity_dropFront r
  | some before => exact capacity_dropBehind r before i

theorem entries_dropLinked (h : r.Laid (front ++ i :: back) free) :
    (r.dropLinked front.getLast? i).entries = r.entries.eraseIdx front.length := by
  rcases front.eq_nil_or_concat' with rfl | ⟨initial, before, rfl⟩
  · rw [List.length_nil, List.eraseIdx_zero]
    exact entries_dropFront h
  · rw [List.append_assoc] at h
    simp only [List.getLast?_append, List.getLast?_singleton, Option.some_or, dropLinked]
    rw [List.length_append]
    exact entries_dropBehind h

end Ring

end Custody
