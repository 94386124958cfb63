import Custody.Proofs.Ring.Frame
import Custody.Proofs.Shelf.Queues
import Custody.Proofs.Shelf.RankedQueues
import Custody.Proofs.Shelf.Rings

/-!
# What operations on a shelf leave alone

Every operation on a ring writes and links a few slots, whatever the order of the slots is by
then, and wherever in it the slots are that it is about.

* `Ring.confined`: of any ring, also one that a strange cursor has damaged;
* `Ring.Sound.framed`: of a ring that is laid out, with the place of these slots in the cycle;
* `RankedQueue.places`: an element that is pushed goes to the end or to the slot where it stops;
* `Shelf.framed_throughout`: of the rings that operations reach, by themselves or in a queue.
-/

namespace Custody

namespace Ring

variable {κ α σ : Type}

/-- The slots that operations write and link, told by the head, the tail and the cursor. -/
structure Confined (r : Ring κ α) : Prop where
  pushBack : ∀ key value, r.Touches (r.pushBack key value) [r.freeSlot] []
  insertAt : ∀ stop key value,
    r.Touches (r.insertAt stop key value) [r.next r.tail, stop] [stop, r.next r.tail, r.tail] ∧
      (r.insertAt stop key value).head = r.head
  popFront : ∀ entry r', r.popFront? = some (entry, r') → r.Freed r' none r.head entry
  removeFirst : ∀ (σ : Type) (test : κ → α → σ → Bool × σ) s entry r',
    (r.removeFirst test s).1 = some (entry, r') →
    ∃ before? i, (r.locate test s).1 = some (before?, i) ∧
      r.Freed r' before? (before?.elim r.head fun _ => i) entry
  removeAt : ∀ c entry r' c', r.removeAt? c = .ok (some entry, r', c') →
    ∃ i, c.current = some i ∧ r.Freed r' c.previous (c.previous.elim r.head fun _ => i) entry
  refused : ∀ c r' c', r.removeAt? c = .ok (none, r', c') → r' = r

theorem confined (r : Ring κ α) : r.Confined where
  pushBack := touches_pushBack r
  insertAt stop key value := ⟨touches_insertAt r stop key value, head_insertAt r stop key value⟩
  popFront _ _ taken := freed_popFront taken
  removeFirst _ test s entry r' taken := by
    obtain ⟨before?, i, located, unlinked⟩ := unlink_of_removeFirst taken
    exact ⟨before?, i, located, freed_unlink unlinked⟩
  removeAt c entry r' c' removes := by
    obtain ⟨⟨⟩, _⟩ | ⟨_, i, ⟨⟩, current, unlinked⟩ := unlink_of_removeAt removes
    exact ⟨i, current, freed_unlink unlinked⟩
  refused c r' c' nothing := by
    obtain ⟨-, same⟩ | ⟨_, _, ⟨⟩, _⟩ := unlink_of_removeAt nothing
    exact same

/-- What calls do to the slots: an entry that is not wanted is handed back and nothing changes, an
entry that comes takes the first free slot or the place of another, and an entry that goes leaves
all others where they are. -/
structure Framed (σ : Type) (r : Ring κ α) : Prop where
  pushBack : ∀ key value,
    r.isFull = true ∧ r.answer (σ := σ) (.pushBack key value) = (.handedBack value, r) ∨
    r.isFull = false ∧ ∃ r', r.answer (σ := σ) (.pushBack key value) = (.accepted, r') ∧
      r.Appended r' key value
  insertAt : ∀ stop key value, (r.entryAt? stop).isSome = true →
    r.isFull = true ∧ r.answer (σ := σ) (.insertAt stop key value) = (.handedBack value, r) ∨
    r.isFull = false ∧ ∃ r', r.answer (σ := σ) (.insertAt stop key value) = (.accepted, r') ∧
      r.Inserted r' stop key value
  position : ∀ test stop, r.position? test = some stop → (r.entryAt? stop).isSome = true
  popFront :
    r.size = 0 ∧ r.popFront? = none ∨
    ∃ entry r', r.popFront? = some (entry, r') ∧ r.Removed r' none r.head entry
  removeFirst : ∀ (test : κ → α → σ → Bool × σ) s,
    (r.locate test s).1 = none ∧ (r.removeFirst test s).1 = none ∨
    ∃ before? i entry r', (r.locate test s).1 = some (before?, i) ∧
      (r.removeFirst test s).1 = some (entry, r') ∧ r.Removed r' before? i entry

/-- The slot at which an ordered insertion stops holds an entry. -/
theorem entryAt?_position {r : Ring κ α} (h : r.Sound) {test : κ → Bool} {stop : Nat}
    (found : r.position? test = some stop) : (r.entryAt? stop).isSome = true := by
  obtain ⟨live, free, laid⟩ := h
  have place := position?_eq laid test
  split at place
  · rw [place] at found
    cases found
  · obtain ⟨front, stop', back, rfl, -, stops⟩ := place
    obtain rfl : stop' = stop := Option.some.inj (stops.symm.trans found)
    exact laid.held stop' (by simp)

namespace Sound

variable {r : Ring κ α}

theorem appended (h : r.Sound) (room : r.isFull = false) (key : κ) (value : α) :
    r.Appended (r.pushBack key value) key value := by
  obtain ⟨live, free, laid⟩ := h
  obtain ⟨f, rest, rfl⟩ := laid.free_cons room
  exact appended_pushBack laid key value

theorem inserted (h : r.Sound) (room : r.isFull = false) {stop : Nat}
    (held : (r.entryAt? stop).isSome = true) (key : κ) (value : α) :
    r.Inserted (r.insertAt stop key value) stop key value := by
  obtain ⟨live, free, laid⟩ := h
  obtain ⟨f, rest, rfl⟩ := laid.free_cons room
  obtain ⟨front, back, rfl⟩ := laid.live_split held
  exact inserted_insertAt laid key value

theorem framed (h : r.Sound) : r.Framed σ where
  pushBack key value := by
    cases full : r.isFull with
    | true => exact .inl ⟨rfl, by simp [answer, full]⟩
    | false => exact .inr ⟨rfl, _, by simp [answer, full], h.appended full key value⟩
  insertAt stop key value held := by
    cases full : r.isFull with
    | true => exact .inl ⟨rfl, by simp [answer, full]⟩
    | false => exact .inr ⟨rfl, _, by simp [answer, full], h.inserted full held key value⟩
  position _ _ found := entryAt?_position h found
  popFront := by
    cases taken : r.popFront? with
    | none => exact .inl ⟨(popFront?_eq_none_iff h).1 taken, rfl⟩
    | some result => exact .inr ⟨_, _, rfl, removed_popFront h taken⟩
  removeFirst test s := by
    cases taken : (r.removeFirst test s).1 with
    | none => exact .inl ⟨(removeFirst_eq_none_iff h test s).1 taken, rfl⟩
    | some result =>
      obtain ⟨before?, i, located, removed⟩ := removed_removeFirst h taken
      exact .inr ⟨before?, i, _, _, located, rfl, removed⟩

end Sound

end Ring

namespace RankedQueue

variable {α : Type}

/-- An element that is pushed comes behind all others, or into the slot of the first one that it
must be served before, unless the queue is full. -/
def Places (q : RankedQueue α) (priority : Priority) (value : α) : Prop :=
  (q.isFull = true ∧ q.push priority value = .error value) ∨
  (q.isFull = false ∧ ∃ q', q.push priority value = .ok q' ∧ q'.order = q.order ∧
    ((q.ring.position? (q.order.before priority) = none ∧
      q.ring.Appended q'.ring priority value) ∨
    ∃ stop, q.ring.position? (q.order.before priority) = some stop ∧
      (q.ring.entryAt? stop).isSome = true ∧ q.ring.Inserted q'.ring stop priority value))

theorem places {q : RankedQueue α} (h : q.ring.Sound) (priority : Priority) (value : α) :
    q.Places priority value := by
  cases full : q.isFull with
  | true => exact .inl ⟨full, by simp [push, full]⟩
  | false =>
    refine .inr ⟨full, q.insert priority value, by simp [push, full], ?_⟩
    unfold insert
    cases found : q.ring.position? (q.order.before priority) with
    | none => exact ⟨rfl, .inl ⟨rfl, h.appended full priority value⟩⟩
    | some stop =>
      have held := Ring.entryAt?_position h found
      exact ⟨rfl, .inr ⟨stop, rfl, held, h.inserted full held priority value⟩⟩

end RankedQueue

namespace Shelf

/-- What operations do to the slots of the rings of a shelf. A cursor that is passed to a ring that
does not mistake it takes out the entry that it is on and names the slot before, or changes
nothing. -/
structure Framed (σ : Type) {k : Kind} (s : Shelf k) : Prop where
  rings : ∀ stock ∈ s.stocks, (k.ring stock.container).Framed σ
  cursors : ∀ i j stock mark, s.stocks[i]? = some stock → s.bookmarks[j]? = some mark →
    InStep s (.removeAt i j) →
    (mark.cursor.current = none ∨ mark.cursor.stamp ≠ k.stamp stock.container) ∧
      (k.ring stock.container).removeAt? mark.cursor =
        .ok (none, k.ring stock.container, mark.cursor) ∨
    ∃ slot entry r' c', mark.cursor.current = some slot ∧
      (k.ring stock.container).removeAt? mark.cursor = .ok (some entry, r', c') ∧
      (k.ring stock.container).Removed r' mark.cursor.previous slot entry

theorem Valid.framed {σ : Type} {k : Kind} {s : Shelf k} (valid : s.Valid) : s.Framed σ where
  rings stock mem := (valid.stocks stock mem).sound.framed
  cursors := by
    intro i j stock mark here there inStep
    by_cases fresh : mark.cursor.stamp = k.stamp stock.container
    · have same : stock.container = mark.seen := inStep stock here mark there fresh
      obtain ⟨_, _, _, ⟨_, on?, _, _, stands, _⟩, _⟩ := (valid.of_bookmark there).stands
      rw [same]
      cases on? with
      | none => exact .inl ⟨.inl stands.current, stands.removeAt_gap⟩
      | some slot =>
        obtain ⟨entry, c', _, removes, _⟩ := stands.removeAt
        obtain ⟨slot', current, removed⟩ := stands.removed removes
        exact .inr ⟨slot', entry, _, c', current, removes, removed⟩
    · exact .inl ⟨.inr fresh, Ring.removeAt_stale _ _ fresh⟩

/-- In any ring the operations write and link only a few slots. In every ring that operations
reach, by itself or in a queue, an entry that comes or goes leaves all others in their slots, but
for the one whose place is taken, and links differ only beside it, as long as cursors are in
step. -/
theorem framed_throughout {κ α σ : Type} [BEq α] (blank : κ) :
    (∀ r : Ring κ α, r.Confined) ∧
    (∀ ops : List (Operation (Ring.kind α σ blank)), Keeps InStep empty ops →
      (empty.run ops).2.Framed σ) ∧
    (∀ ops : List (Operation (Queue.kind α σ)), Keeps InStep empty ops →
      (empty.run ops).2.Framed σ) ∧
    ∀ ops : List (Operation (RankedQueue.kind α σ)), Keeps InStep empty ops →
      (empty.run ops).2.Framed σ ∧
      ∀ stock ∈ (empty.run ops).2.stocks, ∀ priority value,
        stock.container.Places priority value := by
  refine ⟨Ring.confined, ?_, ?_, ?_⟩
  · intro ops inStep
    exact (valid_empty.run Ring.lawful inStep).framed
  · intro ops inStep
    exact (valid_empty.run Queue.lawful inStep).framed
  · intro ops inStep
    have valid := valid_empty.run RankedQueue.lawful inStep
    refine ⟨valid.framed, ?_⟩
    intro stock mem
    exact RankedQueue.places (valid.stocks stock mem).sound

/-- Two entries in three slots, and a cursor on the last of them. -/
def paired : List (Operation (Ring.kind Nat Unit 0)) :=
  [.create 3, .call 0 (.pushBack 1 10), .call 0 (.pushBack 2 20), .cursor 0, .advance 0 0,
    .advance 0 0]

/-- Two elements in a queue for three, the first of them to be served first. -/
def preceded : List (Operation (RankedQueue.kind Nat Unit)) :=
  [.create (3, .ascending), .call 0 (.push 1 10), .call 0 (.push 2 20)]

/-- The last entry is displaced into the only free slot, or goes through the cursor; and an
element that is to be served first takes the place of the first one. -/
theorem framed_throughout_last :
    (∃ stock, (empty.run paired).2.stocks[0]? = some stock ∧
      (∃ r', stock.container.answer (σ := Unit) (.insertAt 1 3 30) = (.accepted, r') ∧
        r'.entryAt? 2 = some (2, 20) ∧ r'.stored? 0 = some (some 10, 1) ∧ r'.next 0 = 1) ∧
      ∃ mark, (empty.run paired).2.bookmarks[0]? = some mark ∧
        ∃ r' c', stock.container.removeAt? mark.cursor = .ok (some (2, 20), r', c') ∧
          r'.stored? 1 = some (none, 2) ∧ r'.head = r'.tail) ∧
    ∃ stock, (empty.run preceded).2.stocks[0]? = some stock ∧ ∃ q',
      stock.container.push 0 5 = .ok q' ∧ q'.ring.entryAt? 0 = some (0, 5) := by
  have inStep : Keeps InStep empty paired := by decide
  have inStep' : Keeps InStep empty preceded := by decide
  obtain ⟨_, alone, _, ranked⟩ := framed_throughout (α := Nat) (σ := Unit) (0 : Nat)
  have framed := alone paired inStep
  have places := (ranked preceded inStep').2 _ (List.mem_of_getElem? (i := 0) rfl) 0 5
  refine ⟨⟨_, rfl, ?_, _, rfl, ?_⟩, _, rfl, ?_⟩
  · obtain ⟨full, _⟩ | ⟨_, r', accepted, inserted⟩ :=
      (framed.rings _ (List.mem_of_getElem? (i := 0) rfl)).insertAt 1 3 30 rfl
    · cases full
    · refine ⟨r', accepted, inserted.displaced, ?_, ?_⟩
      · exact inserted.touches.stored 0 (by decide)
      · exact inserted.touches.links 0 (by decide)
  · obtain ⟨gap | stale, _⟩ | ⟨slot, entry, r', c', current, removes, removed⟩ :=
      framed.cursors 0 0 _ _ rfl rfl (by decide)
    · cases gap
    · exact absurd rfl stale
    · obtain rfl : 1 = slot := Option.some.inj current
      obtain rfl : (2, 20) = entry := Option.some.inj removed.held
      cases removes
      exact ⟨_, _, rfl, removed.cleared, removed.last (by decide)⟩
  · obtain ⟨full, _⟩ | ⟨_, q', pushed, _, ⟨nowhere, _⟩ | ⟨stop, stops, _, inserted⟩⟩ := places
    · cases full
    · cases nowhere
    · obtain rfl : 0 = stop := Option.some.inj stops
      exact ⟨q', pushed, inserted.holds⟩

end Shelf

end Custody
