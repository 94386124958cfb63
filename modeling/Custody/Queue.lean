import Custody.Ring.Cursor

/-!
# Bounded queues

A queue that holds at most a fixed number of elements and serves them in order
of arrival. A full queue hands a new element back to the caller.

* `Queue.toList`: the elements in serving order, the view of all operations;
* `Queue.push`, `Queue.pull?`, `Queue.removeFirst`: in at the end, out at the
  front, and out from anywhere.

Elements are compared by whatever `==` they come with, which need not hold of an
element and itself.
-/

namespace Custody

/-- A bounded queue in order of arrival. -/
structure Queue (α : Type) where
  ring : Ring Unit α
  deriving DecidableEq, Repr

namespace Queue

variable {α σ : Type}

def empty (capacity : Nat) : Queue α := ⟨Ring.empty () capacity⟩

def capacity (q : Queue α) : Nat := q.ring.capacity

def size (q : Queue α) : Nat := q.ring.size

def isEmpty (q : Queue α) : Bool := q.ring.isEmpty

def isFull (q : Queue α) : Bool := q.ring.isFull

/-- The number of elements that still fit in. -/
def room (q : Queue α) : Nat := q.capacity - q.size

/-- The elements, first to be served first. -/
def toList (q : Queue α) : List α := q.ring.entries.map Prod.snd

/-- Adds an element at the end. There is room for it. -/
def append (q : Queue α) (value : α) : Queue α := ⟨q.ring.pushBack () value⟩

/-- Adds an element at the end, or hands it back if the queue is full. -/
def push (q : Queue α) (value : α) : Except α (Queue α) :=
  if q.isFull then .error value else .ok (q.append value)

def head? (q : Queue α) : Option α := q.ring.front?.map Prod.snd

/-- Takes the first element. -/
def pull? (q : Queue α) : Option (α × Queue α) :=
  q.ring.popFront?.map fun (entry, ring) => (entry.2, ⟨ring⟩)

/-- Takes the first element that passes the test, which may keep a state. -/
def removeFirst (q : Queue α) (test : α → σ → Bool × σ) (s : σ) :
    Option (α × Queue α) × σ :=
  match q.ring.removeFirst (fun _ value s => test value s) s with
  | (found, s) => (found.map fun (entry, ring) => (entry.2, ⟨ring⟩), s)

/-- Takes the first element that satisfies `p`. -/
def extract? (q : Queue α) (p : α → Bool) : Option (α × Queue α) :=
  (q.removeFirst (fun value _ => (p value, ())) ()).1

/-- Takes the first element equal to the given one. -/
def erase? [BEq α] (q : Queue α) (value : α) : Option (α × Queue α) :=
  q.extract? (· == value)

def contains [BEq α] (q : Queue α) (value : α) : Bool :=
  q.toList.any (· == value)

/-- Takes every element, first to last. -/
def drain (q : Queue α) : List α × Queue α :=
  let (entries, ring) := q.ring.drain
  (entries.map Prod.snd, ⟨ring⟩)

def clear (q : Queue α) : Queue α := q.drain.2

/-- Adds as many of the elements as there is room for, in order, and counts them. -/
def pushAll (q : Queue α) (values : List α) : Nat × Queue α :=
  let accepted := values.take q.room
  (accepted.length, accepted.foldl append q)

def cursor (q : Queue α) : Cursor := q.ring.cursor

/-- Steps the cursor to the next element and yields it. -/
def advance (q : Queue α) (c : Cursor) : Option α × Cursor :=
  let (entry, c) := q.ring.advance c
  (entry.map Prod.snd, c)

/-- Takes out the element that the cursor yielded last. -/
def removeAt? (q : Queue α) (c : Cursor) : Except NoSuchSlot (Option α × Queue α × Cursor) :=
  match q.ring.removeAt? c with
  | .error missing => .error missing
  | .ok (entry, ring, c) => .ok (entry.map Prod.snd, ⟨ring⟩, c)

/-- Walks on from the cursor to the end and takes out the elements that pass the
test, which may keep a state until it has been called `settled` times. -/
def walk (q : Queue α) (c : Cursor) (test : α → σ → Bool × σ) (settled : Nat) (s : σ) :
    Except NoSuchSlot (Walk (Queue α) α σ) :=
  (q.ring.walk c test settled s).map (Walk.map Queue.mk Prod.snd)

end Queue

end Custody
