import Custody.Proofs.Ring.Cursor
import Mathlib.Data.List.InsertIdx

/-!
# Kinds of containers

What the bounded containers have in common: entries kept in a ring, calls that change them
one at a time, and cursors of the ring.

* `Kind`: a kind of container, with its calls;
* `Kind.Lawful`: its entries are those of the ring, its cursors too, and a call is counted by
  the stamp entry by entry;
* `Kind.Stands`: where a cursor stands among the entries of a container that it is in step
  with, and what it then does.
-/

namespace Custody

/-- A kind of container. -/
structure Kind where
  Container : Type
  Key : Type
  Value : Type
  /-- What a container stores, as its cursors yield it. -/
  Entry : Type
  /-- What a new container is made by. -/
  Plan : Type
  Call : Type
  Reply : Type
  ring : Container → Ring Key Value
  /-- The container around another ring. -/
  withRing : Container → Ring Key Value → Container
  view : Key × Value → Entry
  make : Plan → Container
  plan : Container → Plan
  entries : Container → List Entry
  answer : Container → Call → Reply × Container
  /-- What the caller of a call must see to. -/
  may : Container → Call → Prop
  /-- What a call brought in. -/
  entered : Call → Reply → List Entry
  /-- What a call took out of the entries that were there before it. -/
  left : List Entry → Call → Reply → List Entry
  cursor : Container → Cursor
  advance : Container → Cursor → Option Entry × Cursor
  removeAt? : Container → Cursor → Except NoSuchSlot (Option Entry × Container × Cursor)

namespace Kind

variable {k : Kind}

/-- The stamp of the container's contents. -/
def stamp (k : Kind) (container : k.Container) : UInt64 := (k.ring container).stamp

/-- What holds after a call. -/
structure Answered (k : Kind) (container : k.Container) (call : k.Call) (reply : k.Reply)
    (after : k.Container) : Prop where
  sound : (k.ring after).Sound
  plan : k.plan after = k.plan container
  stamp : k.stamp after = k.stamp container +
    UInt64.ofNat ((k.entered call reply).length +
      (k.left (k.entries container) call reply).length)
  same : k.entered call reply = [] → k.left (k.entries container) call reply = [] →
    after = container
  balance : (k.left (k.entries container) call reply ++ k.entries after).Perm
    (k.entered call reply ++ k.entries container)

/-- The kind is one of containers in a ring. -/
structure Lawful (k : Kind) : Prop where
  ring_withRing (container : k.Container) (ring : Ring k.Key k.Value) :
    k.ring (k.withRing container ring) = ring
  withRing_ring (container : k.Container) : k.withRing container (k.ring container) = container
  plan_withRing (container : k.Container) (ring : Ring k.Key k.Value) :
    ring.capacity = (k.ring container).capacity →
      k.plan (k.withRing container ring) = k.plan container
  entries_eq (container : k.Container) :
    k.entries container = (k.ring container).entries.map k.view
  cursor_eq (container : k.Container) : k.cursor container = (k.ring container).cursor
  advance_eq (container : k.Container) (c : Cursor) :
    k.advance container c =
      (((k.ring container).advance c).1.map k.view, ((k.ring container).advance c).2)
  removeAt_eq (container : k.Container) (c : Cursor) :
    k.removeAt? container c = ((k.ring container).removeAt? c).map
      fun (entry, ring, c) => (entry.map k.view, k.withRing container ring, c)
  plan_make (plan : k.Plan) : k.plan (k.make plan) = plan
  sound_make (plan : k.Plan) : (k.ring (k.make plan)).Sound
  stamp_make (plan : k.Plan) : k.stamp (k.make plan) = 0
  entries_make (plan : k.Plan) : k.entries (k.make plan) = []
  answered (container : k.Container) (call : k.Call) :
    (k.ring container).Sound → k.may container call →
      k.Answered container call (k.answer container call).1 (k.answer container call).2

namespace Answered

variable {container after : k.Container} {call : k.Call} {reply : k.Reply} {entry : k.Entry}

/-- Nothing came and nothing left. -/
theorem of_nothing (sound : (k.ring container).Sound) (entered : k.entered call reply = [])
    (left : k.left (k.entries container) call reply = []) :
    k.Answered container call reply container where
  sound := sound
  plan := rfl
  stamp := by simp [entered, left]
  same _ _ := rfl
  balance := by simp [entered, left]

/-- One entry came. -/
theorem of_entered (sound : (k.ring after).Sound) (plan : k.plan after = k.plan container)
    (stamp : k.stamp after = k.stamp container + 1) (entered : k.entered call reply = [entry])
    (left : k.left (k.entries container) call reply = [])
    (entries : (k.entries after).Perm (entry :: k.entries container)) :
    k.Answered container call reply after where
  sound := sound
  plan := plan
  stamp := by
    rw [entered, left]
    exact stamp
  same none := absurd (entered.symm.trans none) (by simp)
  balance := by
    rw [entered, left]
    exact entries

/-- One entry left. -/
theorem of_left (sound : (k.ring after).Sound) (plan : k.plan after = k.plan container)
    (stamp : k.stamp after = k.stamp container + 1) (entered : k.entered call reply = [])
    (left : k.left (k.entries container) call reply = [entry])
    (entries : (k.entries container).Perm (entry :: k.entries after)) :
    k.Answered container call reply after where
  sound := sound
  plan := plan
  stamp := by
    rw [entered, left]
    exact stamp
  same _ none := absurd (left.symm.trans none) (by simp)
  balance := by
    rw [entered, left]
    exact entries.symm

/-- All that was there left. -/
theorem of_cleared (sound : (k.ring after).Sound) (plan : k.plan after = k.plan container)
    (stamp : k.stamp after = k.stamp container + UInt64.ofNat (k.entries container).length)
    (entered : k.entered call reply = [])
    (left : k.left (k.entries container) call reply = k.entries container)
    (nothing : k.entries after = []) (same : k.entries container = [] → after = container) :
    k.Answered container call reply after where
  sound := sound
  plan := plan
  stamp := by
    rw [entered, left, List.length_nil, Nat.zero_add]
    exact stamp
  same _ none := same (left.symm.trans none)
  balance := by
    rw [entered, left, nothing, List.append_nil]
    exact .rfl

end Answered

/-- The container does nothing with the cursor. -/
def Refuses (k : Kind) (container : k.Container) (c : Cursor) : Prop :=
  k.advance container c = (none, c) ∧ k.removeAt? container c = .ok (none, container, c)

/-- The cursor is in step with the container. It has passed the first `place` entries, is on
the next one if `on`, and has `ahead` entries ahead of it. -/
def Stands (k : Kind) (container : k.Container) (c : Cursor) (place : Nat) (on : Bool)
    (ahead : Nat) : Prop :=
  ∃ passed on? rest free, (k.ring container).Stands c passed on? rest free ∧
    passed.length = place ∧ on?.isSome = on ∧ rest.length = ahead

variable {container : k.Container} {c : Cursor} {place ahead : Nat} {on : Bool}

theorem Lawful.length_entries (law : k.Lawful) (h : (k.ring container).Sound) :
    (k.entries container).length = (k.ring container).size := by
  rw [law.entries_eq, List.length_map, Ring.length_entries h]

theorem Lawful.stands_cursor (law : k.Lawful) (h : (k.ring container).Sound) :
    k.Stands container (k.cursor container) 0 false (k.entries container).length := by
  obtain ⟨live, free, laid⟩ := h
  rw [law.length_entries ⟨_, _, laid⟩, law.cursor_eq]
  exact ⟨[], none, live, free, Ring.stands_cursor laid, rfl, rfl, laid.size.symm⟩

theorem Lawful.advance_stale (law : k.Lawful) (stale : c.stamp ≠ k.stamp container) :
    k.advance container c = (none, c) := by
  rw [law.advance_eq, Ring.advance_stale _ _ stale]
  rfl

theorem Lawful.removeAt_stale (law : k.Lawful) (stale : c.stamp ≠ k.stamp container) :
    k.removeAt? container c = .ok (none, container, c) := by
  rw [law.removeAt_eq, Ring.removeAt_stale _ _ stale]
  simp [Except.map, law.withRing_ring]

theorem Lawful.refuses_stale (law : k.Lawful) (stale : c.stamp ≠ k.stamp container) :
    k.Refuses container c :=
  ⟨law.advance_stale stale, law.removeAt_stale stale⟩

namespace Stands

theorem stamp (h : k.Stands container c place on ahead) : c.stamp = k.stamp container := by
  obtain ⟨_, _, _, _, stands, _⟩ := h
  exact stands.stamp

theorem sound (h : k.Stands container c place on ahead) : (k.ring container).Sound := by
  obtain ⟨_, _, _, _, stands, _⟩ := h
  exact stands.sound

theorem hasCurrent (h : k.Stands container c place on ahead) : c.hasCurrent = on := by
  obtain ⟨_, on?, _, _, stands, _, rfl, _⟩ := h
  rw [Cursor.hasCurrent, stands.current]

theorem isExhausted (h : k.Stands container c place on ahead) :
    c.isExhausted = decide (ahead = 0) := by
  obtain ⟨_, _, rest, _, stands, _, _, rfl⟩ := h
  rw [Cursor.isExhausted, stands.upcoming]
  cases rest <;> simp

theorem length_entries (law : k.Lawful) (h : k.Stands container c place on ahead) :
    (k.entries container).length = place + on.toNat + ahead := by
  rw [law.length_entries h.sound]
  obtain ⟨_, _, _, _, stands, rfl, rfl, rfl⟩ := h
  exact stands.size_eq

/-- The cursor yields the next entry and is on it. -/
theorem advance (law : k.Lawful) (h : k.Stands container c place on (ahead + 1)) :
    ∃ entry c', k.advance container c = (some entry, c') ∧
      (k.entries container)[place + on.toNat]? = some entry ∧
      k.Stands container c' (place + on.toNat) true ahead := by
  obtain ⟨passed, on?, rest, free, stands, rfl, rfl, length⟩ := h
  cases rest with
  | nil => simp at length
  | cons i rest =>
    obtain ⟨entry, c', yields, _, found, stands'⟩ := stands.advance
    have count : (passed ++ on?.toList).length = passed.length + on?.isSome.toNat := by
      cases on? <;> simp
    refine ⟨k.view entry, c', ?_, ?_, passed ++ on?.toList, some i, rest, free, stands', count,
      rfl, ?_⟩
    · rw [law.advance_eq, yields]
      rfl
    · rw [law.entries_eq, List.getElem?_map, ← count, found]
      rfl
    · simpa using length

/-- With nothing ahead the cursor yields nothing and stays where it is. -/
theorem advance_end (law : k.Lawful) (h : k.Stands container c place on 0) :
    k.advance container c = (none, c) := by
  obtain ⟨_, _, rest, _, stands, _, _, length⟩ := h
  obtain rfl : rest = [] := List.eq_nil_of_length_eq_zero length
  rw [law.advance_eq, stands.advance_end]
  rfl

/-- The entry that the cursor is on goes, and the cursor stands in the gap. -/
theorem removeAt (law : k.Lawful) (h : k.Stands container c place true ahead) :
    ∃ entry after c', k.removeAt? container c = .ok (some entry, after, c') ∧
      (k.entries container)[place]? = some entry ∧
      k.entries after = (k.entries container).eraseIdx place ∧
      k.plan after = k.plan container ∧ k.stamp after = k.stamp container + 1 ∧
      k.Stands after c' place false ahead := by
  obtain ⟨passed, on?, rest, free, stands, rfl, onEntry, rfl⟩ := h
  obtain ⟨i, rfl⟩ := Option.isSome_iff_exists.1 onEntry
  obtain ⟨entry, c', free', removes, _, found, entries, stands'⟩ := stands.removeAt
  refine ⟨k.view entry, k.withRing container ((k.ring container).dropLinked passed.getLast? i),
    c', ?_, ?_, ?_, law.plan_withRing _ _ ?_, ?_, passed, none, rest, free', ?_, rfl, rfl, rfl⟩
  · rw [law.removeAt_eq, removes]
    rfl
  · rw [law.entries_eq, List.getElem?_map, found]
    rfl
  · rw [law.entries_eq, law.ring_withRing, entries, law.entries_eq, List.eraseIdx_map]
  · exact Ring.capacity_dropLinked _ _ _
  · rw [Kind.stamp, law.ring_withRing, Ring.stamp_dropLinked]
    rfl
  · rw [law.ring_withRing]
    exact stands'

/-- With nothing under the cursor nothing goes. -/
theorem removeAt_gap (law : k.Lawful) (h : k.Stands container c place false ahead) :
    k.removeAt? container c = .ok (none, container, c) := by
  obtain ⟨_, on?, _, _, stands, _, gap, _⟩ := h
  obtain rfl : on? = none := by simpa using gap
  rw [law.removeAt_eq, stands.removeAt_gap]
  simp [Except.map, law.withRing_ring]

/-- What a container makes of a cursor that is advanced and that it does not mistake: it refuses
it, or has nothing more to yield, or yields the next entry. -/
theorem advance_cases (law : k.Lawful) {seen : k.Container} (h : k.Stands seen c place on ahead)
    (inStep : c.stamp = k.stamp container → container = seen) :
    k.advance container c = (none, c) ∨
    ∃ entry c' rest, container = seen ∧ k.advance container c = (some entry, c') ∧
      (k.entries seen)[place + on.toNat]? = some entry ∧
      k.Stands seen c' (place + on.toNat) true rest := by
  by_cases fresh : c.stamp = k.stamp container
  · obtain rfl := inStep fresh
    cases ahead with
    | zero => exact .inl (h.advance_end law)
    | succ rest =>
      obtain ⟨entry, c', yields, found, stands⟩ := h.advance law
      exact .inr ⟨entry, c', rest, rfl, yields, found, stands⟩
  · exact .inl (law.advance_stale fresh)

/-- What it makes of it when it is to take out: nothing goes, or the entry that the cursor is
on. -/
theorem removeAt_cases (law : k.Lawful) {seen : k.Container} (h : k.Stands seen c place on ahead)
    (inStep : c.stamp = k.stamp container → container = seen) :
    k.removeAt? container c = .ok (none, container, c) ∨
    ∃ entry after c', container = seen ∧ on = true ∧
      k.removeAt? container c = .ok (some entry, after, c') ∧
      (k.entries seen)[place]? = some entry ∧
      k.entries after = (k.entries container).eraseIdx place ∧
      k.stamp after = k.stamp container + 1 ∧ k.Stands after c' place false ahead := by
  by_cases fresh : c.stamp = k.stamp container
  · obtain rfl := inStep fresh
    cases on with
    | false => exact .inl (h.removeAt_gap law)
    | true =>
      obtain ⟨entry, after, c', removes, found, entries, _, stamp, stands⟩ := h.removeAt law
      exact .inr ⟨entry, after, c', rfl, rfl, removes, found, entries, stamp, stands⟩
  · exact .inl (law.removeAt_stale fresh)

end Stands

end Kind

end Custody
