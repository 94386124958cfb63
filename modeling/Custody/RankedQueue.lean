import Custody.Ring.Cursor
import Custody.ServingOrder

/-!
# Ranked queues

A bounded queue that serves its elements by priority, and elements of one
priority in order of arrival. The entries are kept in serving order, so serving
takes the first one.

* `RankedQueue.entries`: priorities and elements in serving order;
* `RankedQueue.push`: an element goes before the first entry that it must be
  served before, and behind all entries if there is none.
-/

namespace Custody

/-- A bounded queue in order of priority. -/
structure RankedQueue (α : Type) where
  ring : Ring Priority α
  order : ServingOrder
  deriving DecidableEq, Repr

namespace RankedQueue

variable {α σ : Type}

def empty (capacity : Nat) (order : ServingOrder) : RankedQueue α :=
  ⟨Ring.empty 0 capacity, order⟩

def capacity (q : RankedQueue α) : Nat := q.ring.capacity

def size (q : RankedQueue α) : Nat := q.ring.size

def isEmpty (q : RankedQueue α) : Bool := q.ring.isEmpty

def isFull (q : RankedQueue α) : Bool := q.ring.isFull

/-- The number of elements that still fit in. -/
def room (q : RankedQueue α) : Nat := q.capacity - q.size

/-- Priorities and elements, first to be served first. -/
def entries (q : RankedQueue α) : List (Priority × α) := q.ring.entries

/-- The elements, first to be served first. -/
def toList (q : RankedQueue α) : List α := q.entries.map Prod.snd

/-- Adds an element at its rank. There is room for it. -/
def insert (q : RankedQueue α) (priority : Priority) (value : α) : RankedQueue α :=
  match q.ring.position? (q.order.before priority) with
  | some stop => { q with ring := q.ring.insertAt stop priority value }
  | none => { q with ring := q.ring.pushBack priority value }

/-- Adds an element at its rank, or hands it back if the queue is full. -/
def push (q : RankedQueue α) (priority : Priority) (value : α) : Except α (RankedQueue α) :=
  if q.isFull then .error value else .ok (q.insert priority value)

def front? (q : RankedQueue α) : Option (Priority × α) := q.ring.front?

def head? (q : RankedQueue α) : Option α := q.front?.map Prod.snd

def headPriority? (q : RankedQueue α) : Option Priority := q.front?.map Prod.fst

/-- Takes the first entry. -/
def pullEntry? (q : RankedQueue α) : Option ((Priority × α) × RankedQueue α) :=
  q.ring.popFront?.map fun (entry, ring) => (entry, { q with ring := ring })

/-- Takes the first element. -/
def pull? (q : RankedQueue α) : Option (α × RankedQueue α) :=
  q.pullEntry?.map fun (entry, q) => (entry.2, q)

/-- Takes the first entry whose element passes the test, which may keep a state. -/
def removeFirst (q : RankedQueue α) (test : α → σ → Bool × σ) (s : σ) :
    Option ((Priority × α) × RankedQueue α) × σ :=
  match q.ring.removeFirst (fun _ value s => test value s) s with
  | (found, s) => (found.map fun (entry, ring) => (entry, { q with ring := ring }), s)

/-- Takes the first entry whose element satisfies `p`. -/
def extract? (q : RankedQueue α) (p : α → Bool) : Option ((Priority × α) × RankedQueue α) :=
  (q.removeFirst (fun value _ => (p value, ())) ()).1

/-- Takes the first entry whose element equals the given one. -/
def erase? [BEq α] (q : RankedQueue α) (value : α) :
    Option ((Priority × α) × RankedQueue α) :=
  q.extract? (· == value)

def contains [BEq α] (q : RankedQueue α) (value : α) : Bool :=
  q.toList.any (· == value)

/-- Takes every entry, first to last. -/
def drain (q : RankedQueue α) : List (Priority × α) × RankedQueue α :=
  let (entries, ring) := q.ring.drain
  (entries, { q with ring := ring })

def clear (q : RankedQueue α) : RankedQueue α := q.drain.2

/-- Adds as many of the entries as there is room for, in order, and counts them. -/
def pushAll (q : RankedQueue α) (entries : List (Priority × α)) : Nat × RankedQueue α :=
  let accepted := entries.take q.room
  (accepted.length, accepted.foldl (fun q (priority, value) => q.insert priority value) q)

def cursor (q : RankedQueue α) : Cursor := q.ring.cursor

/-- Steps the cursor to the next entry and yields it. -/
def advance (q : RankedQueue α) (c : Cursor) : Option (Priority × α) × Cursor :=
  q.ring.advance c

/-- Takes out the entry that the cursor yielded last. -/
def removeAt? (q : RankedQueue α) (c : Cursor) :
    Except NoSuchSlot (Option (Priority × α) × RankedQueue α × Cursor) :=
  match q.ring.removeAt? c with
  | .error missing => .error missing
  | .ok (entry, ring, c) => .ok (entry, { q with ring := ring }, c)

/-- Walks on from the cursor to the end and takes out the entries whose elements
pass the test, which may keep a state until it has been called `settled` times. -/
def walk (q : RankedQueue α) (c : Cursor) (test : α → σ → Bool × σ) (settled : Nat) (s : σ) :
    Except NoSuchSlot (Walk (RankedQueue α) (Priority × α) σ) :=
  (q.ring.walk c test settled s).map (Walk.map (fun ring => { q with ring := ring }) id)

end RankedQueue

end Custody
