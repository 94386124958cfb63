import Custody.Proofs.Queue
import Custody.Proofs.Shelf.Plain

/-!
# Queues on a shelf

Bounded queues are lists that take no more than so many elements, whatever is called on them,
their copies and their cursors.

* `Queue.kind`: bounded queues as a kind of container;
* `Queue.onList`: what a bounded list answers;
* `Queue.lawful`, `Queue.obeys`: what each call does to the ring, and that it answers as the list;
* `Queue.first_in_first_out`: any operations are answered as lists answer them.
-/

namespace Custody

namespace Queue

variable {α σ : Type}

/-- What can be called on a queue, cursors apart. A test may keep a state. -/
inductive Call (α σ : Type)
  | push (value : α)
  | pull
  | head
  | removeFirst (test : α → σ → Bool × σ) (s : σ)
  | erase (value : α)
  | contains (value : α)
  | clear
  | snapshot
  | measure

/-- What it is answered. -/
inductive Reply (α σ : Type)
  | accepted
  | handedBack (value : α)
  | taken (value? : Option α)
  | found (value? : Option α) (s : σ)
  | shown (value? : Option α)
  | told (yes : Bool)
  | cleared
  | listed (values : List α)
  | measured (size room capacity : Nat) (isEmpty isFull : Bool)

/-- One call. -/
def answer [BEq α] (q : Queue α) : Call α σ → Reply α σ × Queue α
  | .push value =>
    match q.push value with
    | .error value => (.handedBack value, q)
    | .ok q => (.accepted, q)
  | .pull =>
    match q.pull? with
    | none => (.taken none, q)
    | some (value, q) => (.taken (some value), q)
  | .head => (.shown q.head?, q)
  | .removeFirst test s =>
    match q.removeFirst test s with
    | (none, s) => (.found none s, q)
    | (some (value, q), s) => (.found (some value) s, q)
  | .erase value =>
    match q.erase? value with
    | none => (.taken none, q)
    | some (value, q) => (.taken (some value), q)
  | .contains value => (.told (q.contains value), q)
  | .clear => (.cleared, q.clear)
  | .snapshot => (.listed q.toList, q)
  | .measure => (.measured q.size q.room q.capacity q.isEmpty q.isFull, q)

def Call.entered : Call α σ → Reply α σ → List α
  | .push value, .accepted => [value]
  | _, _ => []

def Call.left (before : List α) : Call α σ → Reply α σ → List α
  | .pull, .taken value? => value?.toList
  | .removeFirst _ _, .found value? _ => value?.toList
  | .erase _, .taken value? => value?.toList
  | .clear, .cleared => before
  | _, _ => []

/-- Queues as they are called on with tests that keep a state of one type. -/
@[reducible] def kind (α σ : Type) [BEq α] : Kind where
  Container := Queue α
  Key := Unit
  Value := α
  Entry := α
  Plan := Nat
  Call := Call α σ
  Reply := Reply α σ
  ring := ring
  withRing _ ring := ⟨ring⟩
  view := Prod.snd
  make := empty
  plan := capacity
  entries := toList
  answer := answer
  may _ _ := True
  entered := Call.entered
  left := Call.left
  cursor := cursor
  advance := advance
  removeAt? := removeAt?

/-- The same on a list of at most `capacity` elements. -/
def onList [BEq α] (capacity : Nat) (values : List α) : Call α σ → Reply α σ × List α
  | .push value =>
    if values.length < capacity then (.accepted, values ++ [value]) else (.handedBack value, values)
  | .pull => (.taken values.head?, values.tail)
  | .head => (.shown values.head?, values)
  | .removeFirst test s =>
    let (taken?, rest, s) := Ring.takeFirst test values s
    (.found taken? s, rest)
  | .erase value => (.taken (values.find? (· == value)), values.eraseP (· == value))
  | .contains value => (.told (values.any (· == value)), values)
  | .clear => (.cleared, [])
  | .snapshot => (.listed values, values)
  | .measure =>
    (.measured values.length (capacity - values.length) capacity values.isEmpty
      (values.length == capacity), values)

/-! ### What the calls do -/

variable {q q' : Queue α} {value : α}

theorem stamp_push (h : q.push value = .ok q') : q'.ring.stamp = q.ring.stamp + 1 := by
  unfold push at h
  split at h
  · cases h
  · cases h
    exact Ring.stamp_pushBack q.ring () value

theorem stamp_pull? (h : q.pull? = some (value, q')) : q'.ring.stamp = q.ring.stamp + 1 := by
  unfold pull? at h
  obtain ⟨⟨entry, ring⟩, pop, same⟩ := Option.map_eq_some_iff.1 h
  cases same
  exact Ring.stamp_popFront? pop

/-- A queue gives and keeps what the list of its elements does. -/
theorem removeFirst_cases (h : q.Sound) (test : α → σ → Bool × σ) (s : σ) :
    (∃ s', Ring.takeFirst test q.toList s = (none, q.toList, s') ∧
      q.removeFirst test s = (none, s')) ∨
    ∃ value q' s', Ring.takeFirst test q.toList s = (some value, q'.toList, s') ∧
      q.removeFirst test s = (some (value, q'), s') ∧ q'.Sound ∧ q'.capacity = q.capacity ∧
      q'.ring.stamp = q.ring.stamp + 1 ∧ q.toList.Perm (value :: q'.toList) := by
  rcases Ring.removeFirst_cases h Prod.snd test s with ⟨s', taken, found⟩ |
    ⟨entry, ring, s', taken, found, sound, capacity, perm⟩
  · exact .inl ⟨s', taken, by simp [removeFirst, found]⟩
  · exact .inr ⟨entry.2, ⟨ring⟩, s', taken, by simp [removeFirst, found], sound, capacity,
      Ring.stamp_removeFirst found, perm.map Prod.snd⟩

variable [BEq α]

theorem heeds_push (h : q.Sound) (value : α) : (kind α σ).Heeds onList q (.push value) := by
  have pushed := push_eq h value
  by_cases room : q.toList.length < q.capacity
  · rw [if_pos room] at pushed
    obtain ⟨q', push, sound, capacity, toList⟩ := pushed
    have accepted : q.answer (σ := σ) (.push value) = (.accepted, q') := by simp [answer, push]
    refine .of_answer accepted (.of_entered sound capacity (stamp_push push) rfl rfl ?_) ?_
    · simp only [toList]
      exact List.perm_append_singleton _ _
    · simp [onList, room, toList]
  · rw [if_neg room] at pushed
    have refused : q.answer (σ := σ) (.push value) = (.handedBack value, q) := by
      simp [answer, pushed.1]
    exact .of_answer refused (.of_nothing h rfl rfl) (by simp [onList, room])

theorem heeds_pull (h : q.Sound) : (kind α σ).Heeds onList q .pull := by
  have pull := pull?_eq h
  cases list : q.toList with
  | nil =>
    simp only [list] at pull
    have nobody : q.answer (σ := σ) .pull = (.taken none, q) := by simp [answer, pull]
    exact .of_answer nobody (.of_nothing h rfl rfl) (by simp [onList, list])
  | cons value rest =>
    simp only [list] at pull
    obtain ⟨q', pull, sound, capacity, toList⟩ := pull
    have taken : q.answer (σ := σ) .pull = (.taken (some value), q') := by simp [answer, pull]
    refine .of_answer taken (.of_left sound capacity (stamp_pull? pull) rfl rfl ?_) ?_
    · simp only [list, toList]
      exact .rfl
    · simp [onList, list, toList]

theorem heeds_removeFirst (h : q.Sound) (test : α → σ → Bool × σ) (s : σ) :
    (kind α σ).Heeds onList q (.removeFirst test s) := by
  rcases removeFirst_cases h test s with ⟨s', list, found⟩ |
    ⟨value, q', s', list, found, sound, capacity, stamp, perm⟩
  · have missed : q.answer (.removeFirst test s) = (.found none s', q) := by
      simp [answer, found]
    exact .of_answer missed (.of_nothing h rfl rfl) (by simp [onList, list])
  · have taken : q.answer (.removeFirst test s) = (.found (some value) s', q') := by
      simp [answer, found]
    exact .of_answer taken (.of_left sound capacity stamp rfl rfl perm) (by simp [onList, list])

theorem heeds_erase (h : q.Sound) (value : α) : (kind α σ).Heeds onList q (.erase value) := by
  have cases := removeFirst_cases h (fun element (_ : Unit) => (element == value, ())) ()
  rw [Ring.takeFirst_pure] at cases
  rcases cases with ⟨_, list, found⟩ |
    ⟨element, q', _, list, found, sound, capacity, stamp, perm⟩
  · have missed : q.answer (σ := σ) (.erase value) = (.taken none, q) := by
      simp [answer, erase?, extract?, found]
    simp only [Prod.mk.injEq] at list
    exact .of_answer missed (.of_nothing h rfl rfl) (by simp [onList, list])
  · have taken : q.answer (σ := σ) (.erase value) = (.taken (some element), q') := by
      simp [answer, erase?, extract?, found]
    refine .of_answer taken (.of_left sound capacity stamp rfl rfl perm) ?_
    simp only [Prod.mk.injEq] at list
    simp [onList, list]

theorem heeds_clear (h : q.Sound) : (kind α σ).Heeds onList q .clear := by
  obtain ⟨_, sound, none, capacity, stamp⟩ := Ring.drain_eq h
  have nothing : q.clear.toList = [] := congrArg (List.map Prod.snd) none
  have cleared : q.answer (σ := σ) .clear = (.cleared, q.clear) := rfl
  refine .of_answer cleared (.of_cleared sound capacity ?_ rfl rfl nothing ?_) ?_
  · rw [length_toList h]
    exact stamp
  · intro empty
    exact congrArg mk (Ring.drain_of_entries_eq_nil h (List.map_eq_nil_iff.1 empty))
  · exact congrArg (Prod.mk Reply.cleared) nothing.symm

theorem heeds (h : q.Sound) (call : Call α σ) : (kind α σ).Heeds onList q call := by
  cases call with
  | push value => exact heeds_push h value
  | pull => exact heeds_pull h
  | removeFirst test s => exact heeds_removeFirst h test s
  | erase value => exact heeds_erase h value
  | clear => exact heeds_clear h
  | head => exact .of_answer rfl (.of_nothing h rfl rfl) (by simp [onList, head?_eq h])
  | contains value => exact .of_answer rfl (.of_nothing h rfl rfl) rfl
  | snapshot => exact .of_answer rfl (.of_nothing h rfl rfl) rfl
  | measure =>
    refine .of_answer rfl (.of_nothing h rfl rfl) ?_
    simp [onList, isEmpty_eq h, isFull_eq h, length_toList h, room]

theorem lawful : (kind α σ).Lawful where
  ring_withRing _ _ := rfl
  withRing_ring _ := rfl
  plan_withRing _ _ same := same
  entries_eq _ := rfl
  cursor_eq _ := rfl
  advance_eq _ _ := rfl
  removeAt_eq q c := by
    simp only [kind, removeAt?]
    cases Ring.removeAt? q.ring c <;> rfl
  plan_make n := capacity_empty n
  sound_make n := sound_empty n
  stamp_make _ := rfl
  entries_make _ := rfl
  answered _ call h _ := (heeds h call).answered

theorem obeys : (kind α σ).Obeys onList := fun _ call h _ => (heeds h call).told

end Queue

end Custody
