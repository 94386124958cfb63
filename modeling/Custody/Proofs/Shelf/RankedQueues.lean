import Custody.Proofs.Ranking
import Custody.Proofs.Shelf.Plain

/-!
# Ranked queues on a shelf

Ranked queues are lists in serving order that take no more than so many entries, whatever is
called on them, their copies and their cursors.

* `RankedQueue.kind`: ranked queues as a kind of container;
* `RankedQueue.onList`: what a bounded list in serving order answers;
* `RankedQueue.lawful`, `RankedQueue.obeys`: what each call does to the ring, and that it answers
  as the list;
* `RankedQueue.stably_sorted`: any operations are answered as lists answer them, and entries are
  in serving order throughout.
-/

namespace Custody

namespace RankedQueue

variable {α σ : Type}

/-- What can be called on a queue, cursors apart. A test may keep a state. -/
inductive Call (α σ : Type)
  | push (priority : Priority) (value : α)
  | pull
  | pullEntry
  | head
  | headPriority
  | removeFirst (test : α → σ → Bool × σ) (s : σ)
  | erase (value : α)
  | contains (value : α)
  | clear
  | list
  | snapshot
  | measure

/-- What it is answered. -/
inductive Reply (α σ : Type)
  | accepted
  | handedBack (value : α)
  | taken (value? : Option α)
  | takenEntry (item? : Option (Priority × α))
  | found (item? : Option (Priority × α)) (s : σ)
  | shown (value? : Option α)
  | shownPriority (priority? : Option Priority)
  | told (yes : Bool)
  | cleared
  | listed (entries : List (Priority × α))
  | listedValues (values : List α)
  | measured (size room capacity : Nat) (isEmpty isFull : Bool) (order : ServingOrder)

/-- One call. -/
def answer [BEq α] (q : RankedQueue α) : Call α σ → Reply α σ × RankedQueue α
  | .push priority value =>
    match q.push priority value with
    | .error value => (.handedBack value, q)
    | .ok q => (.accepted, q)
  | .pull =>
    match q.pull? with
    | none => (.taken none, q)
    | some (value, q) => (.taken (some value), q)
  | .pullEntry =>
    match q.pullEntry? with
    | none => (.takenEntry none, q)
    | some (entry, q) => (.takenEntry (some entry), q)
  | .head => (.shown q.head?, q)
  | .headPriority => (.shownPriority q.headPriority?, q)
  | .removeFirst test s =>
    match q.removeFirst test s with
    | (none, s) => (.found none s, q)
    | (some (entry, q), s) => (.found (some entry) s, q)
  | .erase value =>
    match q.erase? value with
    | none => (.takenEntry none, q)
    | some (entry, q) => (.takenEntry (some entry), q)
  | .contains value => (.told (q.contains value), q)
  | .clear => (.cleared, q.clear)
  | .list => (.listed q.entries, q)
  | .snapshot => (.listedValues q.toList, q)
  | .measure => (.measured q.size q.room q.capacity q.isEmpty q.isFull q.order, q)

def Call.entered : Call α σ → Reply α σ → List (Priority × α)
  | .push priority value, .accepted => [(priority, value)]
  | _, _ => []

def Call.left (before : List (Priority × α)) : Call α σ → Reply α σ → List (Priority × α)
  | .pull, .taken (some _) => before.take 1
  | .pullEntry, .takenEntry item? => item?.toList
  | .removeFirst _ _, .found item? _ => item?.toList
  | .erase _, .takenEntry item? => item?.toList
  | .clear, .cleared => before
  | _, _ => []

/-- Queues as they are called on with tests that keep a state of one type. -/
@[reducible] def kind (α σ : Type) [BEq α] : Kind where
  Container := RankedQueue α
  Key := Priority
  Value := α
  Entry := Priority × α
  Plan := Nat × ServingOrder
  Call := Call α σ
  Reply := Reply α σ
  ring := ring
  withRing q ring := { q with ring := ring }
  view := id
  make plan := empty plan.1 plan.2
  plan q := (q.capacity, q.order)
  entries := entries
  answer := answer
  may _ _ := True
  entered := Call.entered
  left := Call.left
  cursor := cursor
  advance := advance
  removeAt? := removeAt?

/-- The same on a list of at most so many entries. -/
def onList [BEq α] (plan : Nat × ServingOrder) (entries : List (Priority × α)) :
    Call α σ → Reply α σ × List (Priority × α)
  | .push priority value =>
    if entries.length < plan.1 then (.accepted, ranked plan.2 (priority, value) entries)
    else (.handedBack value, entries)
  | .pull => (.taken (entries.head?.map Prod.snd), entries.tail)
  | .pullEntry => (.takenEntry entries.head?, entries.tail)
  | .head => (.shown (entries.head?.map Prod.snd), entries)
  | .headPriority => (.shownPriority (entries.head?.map Prod.fst), entries)
  | .removeFirst test s =>
    let (taken?, rest, s) := Ring.takeFirst (fun entry => test entry.2) entries s
    (.found taken? s, rest)
  | .erase value =>
    (.takenEntry (entries.find? (·.2 == value)), entries.eraseP (·.2 == value))
  | .contains value => (.told (entries.any (·.2 == value)), entries)
  | .clear => (.cleared, [])
  | .list => (.listed entries, entries)
  | .snapshot => (.listedValues (entries.map Prod.snd), entries)
  | .measure =>
    (.measured entries.length (plan.1 - entries.length) plan.1 entries.isEmpty
      (entries.length == plan.1) plan.2, entries)

/-! ### What the calls do -/

variable {q q' : RankedQueue α} {entry : Priority × α} {value : α}

theorem stamp_push (h : q.Sound) {priority : Priority}
    (push : q.push priority value = .ok q') : q'.ring.stamp = q.ring.stamp + 1 := by
  unfold RankedQueue.push at push
  split at push
  · cases push
  · cases push
    obtain ⟨live, free, laid⟩ := h
    have position := Ring.position?_eq laid (q.order.before priority)
    unfold RankedQueue.insert
    split
    · rename_i stop here
      split at position
      · rw [position] at here
        cases here
      · obtain ⟨front, stop', back, rfl, _, there⟩ := position
        obtain rfl : stop' = stop := Option.some.inj (there.symm.trans here)
        exact Ring.stamp_insertAt q.ring (laid.lt_capacity (by simp)) priority value
    · exact Ring.stamp_pushBack q.ring priority value

theorem stamp_pullEntry (h : q.pullEntry? = some (entry, q')) :
    q'.ring.stamp = q.ring.stamp + 1 := by
  unfold pullEntry? at h
  obtain ⟨⟨entry, ring⟩, pop, same⟩ := Option.map_eq_some_iff.1 h
  cases same
  exact Ring.stamp_popFront? pop

/-- A queue gives and keeps what the list of its entries does. -/
theorem removeFirst_cases (h : q.Sound) (test : α → σ → Bool × σ) (s : σ) :
    (∃ s', Ring.takeFirst (fun entry => test entry.2) q.entries s = (none, q.entries, s') ∧
      q.removeFirst test s = (none, s')) ∨
    ∃ entry q' s',
      Ring.takeFirst (fun entry => test entry.2) q.entries s = (some entry, q'.entries, s') ∧
      q.removeFirst test s = (some (entry, q'), s') ∧ q'.Sound ∧ q'.capacity = q.capacity ∧
      q'.order = q.order ∧ q'.ring.stamp = q.ring.stamp + 1 ∧
      q.entries.Perm (entry :: q'.entries) := by
  have cases := Ring.removeFirst_cases h id (fun entry => test entry.2) s
  simp only [List.map_id, id] at cases
  rcases cases with ⟨s', taken, found⟩ | ⟨entry, ring, s', taken, found, sound, capacity, perm⟩
  · exact .inl ⟨s', taken, by simp [removeFirst, found]⟩
  · exact .inr ⟨entry, { q with ring := ring }, s', taken, by simp [removeFirst, found], sound,
      capacity, rfl, Ring.stamp_removeFirst found, perm⟩

theorem drain_eq (h : q.Sound) : q.drain.1 = q.entries ∧ q.drain.2.Sound ∧
    q.drain.2.entries = [] ∧ q.drain.2.capacity = q.capacity ∧ q.drain.2.order = q.order ∧
    q.drain.2.ring.stamp = q.ring.stamp + UInt64.ofNat q.size := by
  obtain ⟨taken, sound, none, capacity, stamp⟩ := Ring.drain_eq h
  exact ⟨taken, sound, none, capacity, rfl, stamp⟩

variable [BEq α]

theorem heeds_push (h : q.Sound) (priority : Priority) (value : α) :
    (kind α σ).Heeds onList q (.push priority value) := by
  have pushed := push_eq h priority value
  by_cases room : q.entries.length < q.capacity
  · rw [if_pos room] at pushed
    obtain ⟨q', push, sound, capacity, order, entries⟩ := pushed
    have accepted : q.answer (σ := σ) (.push priority value) = (.accepted, q') := by
      simp [answer, push]
    refine .of_answer accepted (.of_entered sound (congrArg₂ Prod.mk capacity order)
      (stamp_push h push) rfl rfl ?_) ?_
    · simp only [entries]
      exact ranked_perm q.order (priority, value) q.entries
    · simp [onList, room, entries]
  · rw [if_neg room] at pushed
    have refused : q.answer (σ := σ) (.push priority value) = (.handedBack value, q) := by
      simp [answer, pushed]
    exact .of_answer refused (.of_nothing h rfl rfl) (by simp [onList, room])

theorem heeds_pullEntry (h : q.Sound) : (kind α σ).Heeds onList q .pullEntry := by
  have pull := pullEntry?_eq h
  cases list : q.entries with
  | nil =>
    simp only [list] at pull
    have nobody : q.answer (σ := σ) .pullEntry = (.takenEntry none, q) := by simp [answer, pull]
    exact .of_answer nobody (.of_nothing h rfl rfl) (by simp [onList, list])
  | cons entry rest =>
    simp only [list] at pull
    obtain ⟨q', pull, sound, capacity, order, entries⟩ := pull
    have taken : q.answer (σ := σ) .pullEntry = (.takenEntry (some entry), q') := by
      simp [answer, pull]
    refine .of_answer taken (.of_left sound (congrArg₂ Prod.mk capacity order)
      (stamp_pullEntry pull) rfl rfl ?_) ?_
    · simp only [list, entries]
      exact .rfl
    · simp [onList, list, entries]

/-- The first element goes with its priority. -/
theorem heeds_pull (h : q.Sound) : (kind α σ).Heeds onList q .pull := by
  have pull := pullEntry?_eq h
  cases list : q.entries with
  | nil =>
    simp only [list] at pull
    have nobody : q.answer (σ := σ) .pull = (.taken none, q) := by simp [answer, pull?, pull]
    exact .of_answer nobody (.of_nothing h rfl rfl) (by simp [onList, list])
  | cons entry rest =>
    simp only [list] at pull
    obtain ⟨q', pull, sound, capacity, order, entries⟩ := pull
    have taken : q.answer (σ := σ) .pull = (.taken (some entry.2), q') := by
      simp [answer, pull?, pull]
    have first : Call.left q.entries .pull (.taken (σ := σ) (some entry.2)) = [entry] := by
      simp [Call.left, list]
    refine .of_answer taken (.of_left sound (congrArg₂ Prod.mk capacity order)
      (stamp_pullEntry pull) rfl first ?_) ?_
    · simp only [list, entries]
      exact .rfl
    · simp [onList, list, entries]

theorem heeds_removeFirst (h : q.Sound) (test : α → σ → Bool × σ) (s : σ) :
    (kind α σ).Heeds onList q (.removeFirst test s) := by
  rcases removeFirst_cases h test s with ⟨s', list, found⟩ |
    ⟨entry, q', s', list, found, sound, capacity, order, stamp, perm⟩
  · have missed : q.answer (.removeFirst test s) = (.found none s', q) := by
      simp [answer, found]
    exact .of_answer missed (.of_nothing h rfl rfl) (by simp [onList, list])
  · have taken : q.answer (.removeFirst test s) = (.found (some entry) s', q') := by
      simp [answer, found]
    exact .of_answer taken (.of_left sound (congrArg₂ Prod.mk capacity order) stamp rfl rfl perm)
      (by simp [onList, list])

theorem heeds_erase (h : q.Sound) (value : α) : (kind α σ).Heeds onList q (.erase value) := by
  have cases := removeFirst_cases h (fun element (_ : Unit) => (element == value, ())) ()
  rw [Ring.takeFirst_pure fun entry : Priority × α => entry.2 == value] at cases
  rcases cases with ⟨_, list, found⟩ |
    ⟨entry, q', _, list, found, sound, capacity, order, stamp, perm⟩
  · have missed : q.answer (σ := σ) (.erase value) = (.takenEntry none, q) := by
      simp [answer, erase?, extract?, found]
    simp only [Prod.mk.injEq] at list
    exact .of_answer missed (.of_nothing h rfl rfl) (by simp [onList, list])
  · have taken : q.answer (σ := σ) (.erase value) = (.takenEntry (some entry), q') := by
      simp [answer, erase?, extract?, found]
    simp only [Prod.mk.injEq] at list
    exact .of_answer taken (.of_left sound (congrArg₂ Prod.mk capacity order) stamp rfl rfl perm)
      (by simp [onList, list])

theorem heeds_clear (h : q.Sound) : (kind α σ).Heeds onList q .clear := by
  obtain ⟨_, sound, none, capacity, order, stamp⟩ := drain_eq h
  have cleared : q.answer (σ := σ) .clear = (.cleared, q.clear) := rfl
  refine .of_answer cleared (.of_cleared sound (congrArg₂ Prod.mk capacity order) ?_ rfl rfl none
    ?_) ?_
  · rw [length_entries h]
    exact stamp
  · intro empty
    exact congrArg (fun ring => { q with ring := ring }) (Ring.drain_of_entries_eq_nil h empty)
  · exact congrArg (Prod.mk Reply.cleared) none.symm

theorem heeds (h : q.Sound) (call : Call α σ) : (kind α σ).Heeds onList q call := by
  cases call with
  | push priority value => exact heeds_push h priority value
  | pull => exact heeds_pull h
  | pullEntry => exact heeds_pullEntry h
  | removeFirst test s => exact heeds_removeFirst h test s
  | erase value => exact heeds_erase h value
  | clear => exact heeds_clear h
  | head =>
    exact .of_answer rfl (.of_nothing h rfl rfl) (by simp [onList, head?, front?_eq h])
  | headPriority =>
    exact .of_answer rfl (.of_nothing h rfl rfl) (by simp [onList, headPriority?, front?_eq h])
  | contains value =>
    refine .of_answer rfl (.of_nothing h rfl rfl) ?_
    simp [onList, contains, toList, Function.comp_def]
  | list => exact .of_answer rfl (.of_nothing h rfl rfl) rfl
  | snapshot => exact .of_answer rfl (.of_nothing h rfl rfl) rfl
  | measure =>
    refine .of_answer rfl (.of_nothing h rfl rfl) ?_
    simp [onList, isEmpty_eq h, isFull_eq h, length_entries h, room]

theorem lawful : (kind α σ).Lawful where
  ring_withRing _ _ := rfl
  withRing_ring _ := rfl
  plan_withRing _ _ same := congrArg (Prod.mk · _) same
  entries_eq q := (List.map_id q.ring.entries).symm
  cursor_eq _ := rfl
  advance_eq q c := by simp [kind, advance]
  removeAt_eq q c := by
    simp only [kind, removeAt?, Option.map_id]
    cases Ring.removeAt? q.ring c <;> rfl
  plan_make plan := congrArg (Prod.mk · plan.2) (capacity_empty plan.1 plan.2)
  sound_make plan := sound_empty plan.1 plan.2
  stamp_make _ := rfl
  entries_make _ := rfl
  answered _ call h _ := (heeds h call).answered

theorem obeys : (kind α σ).Obeys onList := fun _ call h _ => (heeds h call).told

/-! ### Serving order throughout -/

/-- The entries are some of those that have come, in the order of the stable sort. -/
def InOrder (stock : Stock (Roll (kind α σ)) (Priority × α)) : Prop :=
  stock.container.entries.Sublist (inOrder stock.container.plan.2 stock.entered)

/-- Two of one priority come before one of a higher one, and the first of the two goes from a
copy through a cursor. -/
def ranks : List (Shelf.Operation (kind Nat Unit)) :=
  [.create (3, .descending), .call 0 (.push 1 10), .call 0 (.push 1 11), .call 0 (.push 5 50),
    .call 0 (.push 7 70), .copy 0, .cursor 1, .advance 1 0, .advance 1 0, .removeAt 1 0,
    .call 1 (.push 1 12), .call 1 .pullEntry, .call 1 (.push 0 0), .advance 1 0, .call 1 .list,
    .call 0 .headPriority]

end RankedQueue

end Custody
