import Custody.Proofs.Ring.Changes
import Custody.Ring.Cursor

/-!
# Cursors in a ring

Where a cursor stands among the live slots of a ring that honours it, and what its steps do.

* `Ring.unlink_of_removeAt`: a cursor takes out what it is on, or changes nothing;
* `Ring.Stands`: the slots behind the cursor, the one it is on, and those ahead of it;
* `Ring.Stands.advance`, `Ring.Stands.advance_end`: it yields what is ahead, in order;
* `Ring.Stands.removeAt`: it takes out the entry that it is on, and stands in the gap.
-/

namespace Custody

namespace Ring

variable {κ α : Type}

/-- The cursor is in step with the ring. It has passed the slots of `passed` and is on the
slot of `on?`, unless the entry there was taken out. -/
structure Stands (r : Ring κ α) (c : Cursor) (passed : List Nat) (on? : Option Nat)
    (ahead free : List Nat) : Prop where
  laid : r.Laid (passed ++ on?.toList ++ ahead) free
  previous : c.previous = passed.getLast?
  current : c.current = on?
  upcoming : c.upcoming = ahead.head?
  stamp : c.stamp = r.stamp

theorem honours_iff (r : Ring κ α) (c : Cursor) : r.honours c = true ↔ c.stamp = r.stamp := by
  simp [honours]

variable {r : Ring κ α} {c : Cursor} {passed ahead live free : List Nat} {on? : Option Nat}
  {i : Nat}

/-- A cursor takes something out only where it is, and else it changes nothing. -/
theorem unlink_of_removeAt {r' : Ring κ α} {c' : Cursor} {item? : Option (κ × α)}
    (removes : r.removeAt? c = .ok (item?, r', c')) :
    item? = none ∧ r' = r ∨
    ∃ entry i, item? = some entry ∧ c.current = some i ∧
      r.unlink? c.previous i = some (entry, r') := by
  unfold removeAt? at removes
  split at removes
  · split at removes
    · cases removes
      exact .inl ⟨rfl, rfl⟩
    · rename_i i current
      split at removes
      · cases removes
      · split at removes
        · cases removes
          exact .inl ⟨rfl, rfl⟩
        · rename_i entry linked
          cases removes
          exact .inr ⟨entry, i, rfl, current, by rw [unlink?, linked]⟩
  · cases removes
    exact .inl ⟨rfl, rfl⟩

theorem stands_cursor (h : r.Laid live free) : r.Stands r.cursor [] none live free where
  laid := by simpa using h
  previous := rfl
  current := rfl
  upcoming := by
    cases live with
    | nil => simp [Ring.cursor, h.size]
    | cons i live =>
      have head : r.head = i := h.head_eq rfl
      simp [Ring.cursor, h.size, head]
  stamp := rfl

namespace Stands

theorem sound (h : r.Stands c passed on? ahead free) : r.Sound := ⟨_, _, h.laid⟩

/-- The cursor names only slots that the ring has. -/
theorem lt_capacity (h : r.Stands c passed on? ahead free) {slot : Nat}
    (named : c.previous = some slot ∨ c.current = some slot ∨ c.upcoming = some slot) :
    slot < r.capacity := by
  apply h.laid.lt_capacity
  rw [h.previous, h.current, h.upcoming] at named
  rcases named with before | rfl | next
  · simp [List.mem_of_getLast? before]
  · simp
  · simp [List.mem_of_head? next]

theorem size_eq (h : r.Stands c passed on? ahead free) :
    r.size = passed.length + on?.isSome.toNat + ahead.length := by
  have size := h.laid.size
  rw [List.length_append, List.length_append] at size
  cases on? <;> exact size

/-- The cursor yields the next entry ahead and is on it. -/
theorem advance (h : r.Stands c passed on? (i :: ahead) free) :
    ∃ entry c', r.advance c = (some entry, c') ∧ r.entryAt? i = some entry ∧
      r.entries[(passed ++ on?.toList).length]? = some entry ∧
      r.Stands c' (passed ++ on?.toList) (some i) ahead free := by
  have honoured := (r.honours_iff c).2 h.stamp
  have hi : i < r.slots.size := h.laid.lt_capacity (by simp)
  obtain ⟨entry, hentry⟩ := Option.isSome_iff_exists.1 (h.laid.held i (by simp))
  have hlast : i = r.tail ↔ ahead = [] := eq_tail_iff h.laid
  have hnext : r.slots[i].next = (ahead ++ free).head?.getD r.head := by
    have cycle := h.laid.cycle
    rw [List.append_assoc] at cycle
    have hnext := Leads.next_eq _ _ cycle
    simpa [next, hi] using hnext
  refine ⟨entry, ⟨c.current.or c.previous, some i,
    if i = r.tail then none else some r.slots[i].next, c.stamp⟩, ?_, hentry, ?_, ?_⟩
  · have held : r.slots[i].value.map (r.slots[i].key, ·) = some entry := by
      simpa [entryAt?, hi] using hentry
    simp [Ring.advance, honoured, h.upcoming, hi, held]
  · rw [getElem?_entries h.laid, hentry]
  · constructor
    · have laid := h.laid
      simpa using laid
    · cases on? with
      | none => simp [h.current, h.previous]
      | some current => simp [h.current]
    · rfl
    · cases ahead with
      | nil => simp [hlast]
      | cons j ahead => simp [hlast, hnext]
    · exact h.stamp

/-- With nothing ahead the cursor stays where it is. -/
theorem advance_end (h : r.Stands c passed on? [] free) : r.advance c = (none, c) := by
  have honoured := (r.honours_iff c).2 h.stamp
  have ended : c.upcoming = none := h.upcoming
  simp [Ring.advance, honoured, ended]

/-- The entry that the cursor is on goes, as any search that ends there would take it. -/
theorem removeAt (h : r.Stands c passed (some i) ahead free) :
    ∃ entry c' free', r.removeAt? c = .ok (some entry, r.dropLinked passed.getLast? i, c') ∧
      r.entryAt? i = some entry ∧ r.entries[passed.length]? = some entry ∧
      (r.dropLinked passed.getLast? i).entries = r.entries.eraseIdx passed.length ∧
      (r.dropLinked passed.getLast? i).Stands c' passed none ahead free' := by
  have laid : r.Laid (passed ++ i :: ahead) free := by simpa using h.laid
  have honoured := (r.honours_iff c).2 h.stamp
  have hi : i < r.slots.size := laid.lt_capacity (by simp)
  obtain ⟨entry, hentry⟩ := Option.isSome_iff_exists.1 (laid.held i (by simp))
  obtain ⟨free', gone⟩ := laid_dropLinked laid
  have present : r.missingSlot? c.previous i = none := by
    rw [h.previous]
    cases hlast : passed.getLast? with
    | none => rfl
    | some before =>
      have mem : before ∈ passed := List.mem_of_getLast? hlast
      have hb : before < r.capacity := laid.lt_capacity (by simp [mem])
      simp [missingSlot?, hi, hb]
  have linked : r.linked? c.previous i = some entry := by
    rw [h.previous, linked?_eq laid, hentry]
  refine ⟨entry, { c with current := none, stamp := (r.dropLinked passed.getLast? i).stamp },
    free', ?_, hentry, ?_, entries_dropLinked laid, ?_⟩
  · have current : c.current = some i := h.current
    simp only [removeAt?, honoured, current, present, linked, if_true]
    rw [h.previous]
  · rw [getElem?_entries laid, hentry]
  · constructor
    · simpa using gone
    · exact h.previous
    · rfl
    · exact h.upcoming
    · rfl

/-- With nothing under the cursor nothing goes. -/
theorem removeAt_gap (h : r.Stands c passed none ahead free) :
    r.removeAt? c = .ok (none, r, c) := by
  have honoured := (r.honours_iff c).2 h.stamp
  have gap : c.current = none := h.current
  simp [removeAt?, honoured, gap]

end Stands

end Ring

end Custody
