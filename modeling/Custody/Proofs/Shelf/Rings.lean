import Custody.Proofs.Ring.Cycle
import Custody.Proofs.Shelf.Steps

/-!
# Rings on a shelf

The operations of a ring by themselves: entries are added behind all others or in the place of
another, taken from the front or from where a test holds, or taken out through a cursor.

* `Ring.kind`: rings as a kind of container;
* `Ring.lawful`: what each call does to the layout, the stamp and the entries;
* `Ring.whole_throughout`: after any operations the slots form one cycle.
-/

namespace Custody

namespace Ring

variable {κ α σ : Type}

/-- What changes a ring, cursors apart. A test may keep a state. -/
inductive Call (κ α σ : Type)
  | pushBack (key : κ) (value : α)
  | insertAt (stop : Nat) (key : κ) (value : α)
  | popFront
  | removeFirst (test : κ → α → σ → Bool × σ) (s : σ)
  | clear

/-- What it is answered. -/
inductive Reply (κ α σ : Type)
  | accepted
  | handedBack (value : α)
  | taken (item? : Option (κ × α))
  | found (item? : Option (κ × α)) (s : σ)
  | cleared

/-- One call. A full ring takes nothing more. -/
def answer (r : Ring κ α) : Call κ α σ → Reply κ α σ × Ring κ α
  | .pushBack key value =>
    if r.isFull then (.handedBack value, r) else (.accepted, r.pushBack key value)
  | .insertAt stop key value =>
    if r.isFull then (.handedBack value, r) else (.accepted, r.insertAt stop key value)
  | .popFront =>
    match r.popFront? with
    | none => (.taken none, r)
    | some (entry, r) => (.taken (some entry), r)
  | .removeFirst test s =>
    match r.removeFirst test s with
    | (none, s) => (.found none s, r)
    | (some (entry, r), s) => (.found (some entry) s, r)
  | .clear => (.cleared, r.drain.2)

/-- An entry is put in the place of another only where there is one. -/
def Call.May (r : Ring κ α) : Call κ α σ → Prop
  | .pushBack _ _ => True
  | .insertAt stop _ _ => (r.entryAt? stop).isSome = true
  | .popFront => True
  | .removeFirst _ _ => True
  | .clear => True

instance (r : Ring κ α) : ∀ call : Call κ α σ, Decidable (call.May r)
  | .pushBack _ _ => .isTrue trivial
  | .insertAt stop _ _ => inferInstanceAs (Decidable ((r.entryAt? stop).isSome = true))
  | .popFront => .isTrue trivial
  | .removeFirst _ _ => .isTrue trivial
  | .clear => .isTrue trivial

def Call.entered : Call κ α σ → Reply κ α σ → List (κ × α)
  | .pushBack key value, .accepted => [(key, value)]
  | .insertAt _ key value, .accepted => [(key, value)]
  | _, _ => []

def Call.left (before : List (κ × α)) : Call κ α σ → Reply κ α σ → List (κ × α)
  | .popFront, .taken item? => item?.toList
  | .removeFirst _ _, .found item? _ => item?.toList
  | .clear, .cleared => before
  | _, _ => []

/-- Rings whose slots have the key `blank` before they are used. -/
@[reducible] def kind (α σ : Type) (blank : κ) : Kind where
  Container := Ring κ α
  Key := κ
  Value := α
  Entry := κ × α
  Plan := Nat
  Call := Call κ α σ
  Reply := Reply κ α σ
  ring r := r
  withRing _ r := r
  view := id
  make := empty blank
  plan := capacity
  entries := entries
  answer := answer
  may r call := call.May r
  entered := Call.entered
  left := Call.left
  cursor := Ring.cursor
  advance := Ring.advance
  removeAt? := Ring.removeAt?

theorem isFull_iff (r : Ring κ α) : r.isFull = true ↔ r.size = r.capacity := by
  simp [isFull]

/-- While there is room there is a free slot. -/
theorem Laid.free_cons {r : Ring κ α} {live free : List Nat} (h : r.Laid live free)
    (room : r.isFull = false) : ∃ f rest, free = f :: rest := by
  have total := h.length_eq_capacity
  have size := h.size
  cases free with
  | nil =>
    rw [(r.isFull_iff).2 (by simpa [size] using total)] at room
    cases room
  | cons f rest => exact ⟨f, rest, rfl⟩

/-- A slot that holds an entry is one of the live ones. -/
theorem Laid.live_split {r : Ring κ α} {live free : List Nat} (h : r.Laid live free) {i : Nat}
    (held : (r.entryAt? i).isSome) : ∃ front back, live = front ++ i :: back := by
  have inside : i < r.capacity := by
    by_contra outside
    have missing : r.slots[i]? = none := Array.getElem?_eq_none (Nat.le_of_not_lt outside)
    simp [entryAt?, missing] at held
  rcases List.mem_append.1 ((h.mem i).2 inside) with mem | mem
  · exact List.append_of_mem mem
  · rw [h.vacant i mem] at held
    cases held

variable {blank : κ}

theorem answered_pushBack {r : Ring κ α} (h : r.Sound) (key : κ) (value : α) :
    (kind α σ blank).Answered r (.pushBack key value) (r.answer (.pushBack key value)).1
      (r.answer (σ := σ) (.pushBack key value)).2 := by
  obtain ⟨live, free, laid⟩ := h
  cases full : r.isFull with
  | true =>
    simp only [answer, full, if_true]
    exact .of_nothing ⟨_, _, laid⟩ rfl rfl
  | false =>
    obtain ⟨f, rest, rfl⟩ := laid.free_cons full
    simp only [answer, full, Bool.false_eq_true, if_false]
    refine .of_entered ⟨_, _, laid_pushBack laid key value⟩ (capacity_pushBack r key value)
      (stamp_pushBack r key value) rfl rfl ?_
    simp only [entries_pushBack laid]
    exact List.perm_append_singleton _ _

theorem answered_insertAt {r : Ring κ α} (h : r.Sound) {stop : Nat}
    (held : (r.entryAt? stop).isSome) (key : κ) (value : α) :
    (kind α σ blank).Answered r (.insertAt stop key value) (r.answer (.insertAt stop key value)).1
      (r.answer (σ := σ) (.insertAt stop key value)).2 := by
  obtain ⟨live, free, laid⟩ := h
  cases full : r.isFull with
  | true =>
    simp only [answer, full, if_true]
    exact .of_nothing ⟨_, _, laid⟩ rfl rfl
  | false =>
    obtain ⟨f, rest, rfl⟩ := laid.free_cons full
    obtain ⟨front, back, rfl⟩ := laid.live_split held
    have inside : stop < r.capacity := laid.lt_capacity (by simp)
    simp only [answer, full, Bool.false_eq_true, if_false]
    refine .of_entered ⟨_, _, laid_insertAt laid key value⟩ (capacity_insertAt r stop key value)
      (stamp_insertAt r inside key value) rfl rfl ?_
    simp only [entries_insertAt laid]
    refine List.perm_middle.trans ?_
    rw [List.take_append_drop]

theorem answered_popFront {r : Ring κ α} (h : r.Sound) :
    (kind α σ blank).Answered r .popFront (r.answer .popFront).1
      (r.answer (σ := σ) .popFront).2 := by
  have pop := popFront?_eq h
  cases entries : r.entries with
  | nil =>
    simp only [entries] at pop
    simp only [answer, pop]
    exact .of_nothing h rfl rfl
  | cons entry rest =>
    simp only [entries] at pop
    obtain ⟨r', pop, sound, capacity, behind⟩ := pop
    simp only [answer, pop]
    refine .of_left sound capacity (stamp_popFront? pop) rfl rfl ?_
    simp only [entries, behind]
    exact .rfl

theorem answered_removeFirst {r : Ring κ α} (h : r.Sound) (test : κ → α → σ → Bool × σ) (s : σ) :
    (kind α σ blank).Answered r (.removeFirst test s) (r.answer (.removeFirst test s)).1
      (r.answer (.removeFirst test s)).2 := by
  rcases removeFirst_cases h id (fun entry => test entry.1 entry.2) s with ⟨s', _, found⟩ |
    ⟨entry, r', s', _, found, sound, capacity, perm⟩
  · simp only [id] at found
    simp only [answer, found]
    exact .of_nothing h rfl rfl
  · simp only [id] at found
    simp only [answer, found]
    exact .of_left sound capacity (stamp_removeFirst found) rfl rfl perm

theorem answered_clear {r : Ring κ α} (h : r.Sound) :
    (kind α σ blank).Answered r .clear (r.answer .clear).1 (r.answer (σ := σ) .clear).2 := by
  obtain ⟨_, sound, none, capacity, stamp⟩ := drain_eq h
  rw [← length_entries h] at stamp
  exact .of_cleared sound capacity stamp rfl rfl none (drain_of_entries_eq_nil h)

theorem lawful : (kind α σ blank).Lawful where
  ring_withRing _ _ := rfl
  withRing_ring _ := rfl
  plan_withRing _ _ same := same
  entries_eq r := (List.map_id r.entries).symm
  cursor_eq _ := rfl
  advance_eq r c := by simp [kind]
  removeAt_eq r c := by
    simp only [kind, Option.map_id]
    cases Ring.removeAt? r c <;> rfl
  plan_make n := capacity_empty blank n
  sound_make n := sound_empty blank n
  stamp_make _ := rfl
  entries_make _ := rfl
  answered r call h may := by
    cases call with
    | pushBack key value => exact answered_pushBack h key value
    | insertAt stop key value => exact answered_insertAt h may key value
    | popFront => exact answered_popFront h
    | removeFirst test s => exact answered_removeFirst h test s
    | clear => exact answered_clear h

/-! ### Nothing is looked for in vain -/

/-- The first slot holds an entry unless there is none. -/
theorem popFront?_eq_none_iff {r : Ring κ α} (h : r.Sound) :
    r.popFront? = none ↔ r.size = 0 := by
  have pop := popFront?_eq h
  rw [← length_entries h]
  cases entries : r.entries with
  | nil =>
    simp only [entries] at pop
    simp [pop]
  | cons entry rest =>
    simp only [entries] at pop
    obtain ⟨r', pop, _⟩ := pop
    simp [pop]

/-- What was located is taken out. -/
theorem removeFirst_eq_none_iff {r : Ring κ α} (h : r.Sound) (test : κ → α → σ → Bool × σ)
    (s : σ) : (r.removeFirst test s).1 = none ↔ (r.locate test s).1 = none := by
  have removed := removeFirst_eq h test s
  obtain ⟨live, free, laid⟩ := h
  have located := locate_eq laid test s
  rcases search : Ring.search test r.entries s with ⟨_ | n, s'⟩
  · simp only [search] at removed located
    simp [removed, located]
  · simp only [search] at removed located
    obtain ⟨entry, r', removed, _⟩ := removed
    obtain ⟨front, i, back, _, _, located⟩ := located
    simp [removed, located]

/-- The ring has the slots that the cursor names, and finds in them what it is asked for. -/
structure Serves (r : Ring κ α) (c : Cursor) : Prop where
  inside : ∀ slot, c.previous = some slot ∨ c.current = some slot ∨ c.upcoming = some slot →
    slot < r.capacity
  yields : ∀ slot, c.upcoming = some slot → (r.advance c).1.isSome = true
  removes : ∀ slot, c.current = some slot →
    ∃ entry rest c', r.removeAt? c = .ok (some entry, rest, c')

theorem Stands.serves {r : Ring κ α} {c : Cursor} {passed ahead free : List Nat}
    {on? : Option Nat} (h : r.Stands c passed on? ahead free) : r.Serves c where
  inside _ named := h.lt_capacity named
  yields := by
    intro slot next
    rw [h.upcoming] at next
    obtain ⟨rest, rfl⟩ := List.head?_eq_some_iff.1 next
    obtain ⟨entry, c', yields, _⟩ := h.advance
    simp [yields]
  removes := by
    intro slot current
    rw [h.current] at current
    subst current
    obtain ⟨entry, c', free', removes, _⟩ := h.removeAt
    exact ⟨entry, _, c', removes⟩

end Ring

end Custody
