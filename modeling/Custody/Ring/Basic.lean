/-!
# The slot ring

Storage of the bounded containers: a fixed array of slots whose `next` links
form one cycle. From `head`, the first `size` slots hold the entries in order
and the last of them is `tail`; the other slots are free and follow `tail`, or
start at `tail` when nothing is stored. An entry that leaves frees its slot in
place, and the slot rejoins the cycle right behind the last entry.

* `Ring.entries`: the stored entries in order, the view that the operations are
  described through;
* `Ring.pushBack`, `Ring.insertAt`: an entry behind all others, and an entry in the
  place of another;
* `Ring.popFront?`, `Ring.unlink?`, `Ring.removeFirst`: the first entry, a given
  one, and the first that passes a test.

Every change of the contents advances `stamp`, so a cursor can tell whether the
ring is still as it was left.
-/

namespace Custody

/-- A place for one entry. The key outlives the entry until the next one. -/
structure Slot (κ α : Type) where
  value : Option α
  key : κ
  next : Nat
  deriving DecidableEq, Repr

/-- A fixed array of slots, linked in one cycle. -/
structure Ring (κ α : Type) where
  slots : Array (Slot κ α)
  head : Nat
  tail : Nat
  size : Nat
  stamp : UInt64
  deriving DecidableEq, Repr

namespace Ring

variable {κ α σ : Type}

/-- A ring of free slots, each linked to the one behind it. -/
def empty (blank : κ) (capacity : Nat) : Ring κ α where
  slots := Array.ofFn fun i : Fin capacity => ⟨none, blank, (i.val + 1) % capacity⟩
  head := 0
  tail := 0
  size := 0
  stamp := 0

def capacity (r : Ring κ α) : Nat := r.slots.size

def isEmpty (r : Ring κ α) : Bool := r.size == 0

def isFull (r : Ring κ α) : Bool := r.size == r.capacity

/-- The slot behind slot `i`. -/
def next (r : Ring κ α) (i : Nat) : Nat :=
  match r.slots[i]? with
  | some slot => slot.next
  | none => i

/-- The first free slot, while there is one. -/
def freeSlot (r : Ring κ α) : Nat :=
  if r.size = 0 then r.tail else r.next r.tail

/-- Makes slot `i` link to `target`. -/
def link (r : Ring κ α) (i target : Nat) : Ring κ α :=
  { r with slots := r.slots.modify i fun slot => { slot with next := target } }

/-- Writes an entry into slot `i`, link untouched. -/
def put (r : Ring κ α) (i : Nat) (key : κ) (value : Option α) : Ring κ α :=
  { r with slots := r.slots.modify i fun slot => { slot with key := key, value := value } }

/-- Takes the value out of slot `i`, key and link untouched. -/
def vacate (r : Ring κ α) (i : Nat) : Ring κ α :=
  { r with slots := r.slots.modify i fun slot => { slot with value := none } }

/-- One more entry, and the contents have changed. -/
def grown (r : Ring κ α) : Ring κ α :=
  { r with size := r.size + 1, stamp := r.stamp + 1 }

/-- One entry less, and the contents have changed. -/
def shrunk (r : Ring κ α) : Ring κ α :=
  { r with size := r.size - 1, stamp := r.stamp + 1 }

/-- Adds an entry behind all others. There is a free slot. -/
def pushBack (r : Ring κ α) (key : κ) (value : α) : Ring κ α :=
  let free := r.freeSlot
  let tail := if r.size = 0 then r.tail else free
  ({ r with tail := tail }.put free key (some value)).grown

/-- Writes an entry into slot `stop`, which held `displaced`. The first free slot is
linked in behind `stop` and receives what was displaced. -/
def displace (r : Ring κ α) (stop : Nat) (key : κ) (value : α) (displaced : Slot κ α) :
    Ring κ α :=
  let tail := r.tail
  let free := r.next tail
  let spliced := r.link tail (r.next free)
  let spliced := spliced.link free (spliced.next stop)
  let spliced := { spliced.link stop free with tail := if stop = tail then free else tail }
  ((spliced.put stop key (some value)).put free displaced.key displaced.value).grown

/-- Adds an entry in the place of the one in slot `stop`. There is a free slot; two
slots are written wherever `stop` is. -/
def insertAt (r : Ring κ α) (stop : Nat) (key : κ) (value : α) : Ring κ α :=
  match r.slots[stop]? with
  | none => r
  | some displaced => r.displace stop key value displaced

/-- The entry of slot `i`, if any. -/
def entryAt? (r : Ring κ α) (i : Nat) : Option (κ × α) :=
  match r.slots[i]? with
  | none => none
  | some slot => slot.value.map (slot.key, ·)

/-- The first entry, if any. -/
def front? (r : Ring κ α) : Option (κ × α) := if r.size = 0 then none else r.entryAt? r.head

/-- The ring without its first entry, whose slot is already the last of the free
ones. -/
def dropFront (r : Ring κ α) : Ring κ α :=
  let head := if 1 < r.size then r.next r.head else r.head
  { r.vacate r.head with head := head }.shrunk

/-- Takes the first entry. -/
def popFront? (r : Ring κ α) : Option ((κ × α) × Ring κ α) :=
  match r.front? with
  | none => none
  | some entry => some (entry, r.dropFront)

/-- The ring without the entry of slot `i`, which slot `before` links to. The slot is
linked in behind the last entry. -/
def dropBehind (r : Ring κ α) (before i : Nat) : Ring κ α :=
  let tail := if i = r.tail then before else r.tail
  let behind := r.next i
  let cut := { (r.vacate i).link before behind with tail := tail }
  let firstFree := cut.next tail
  ((cut.link i firstFree).link tail i).shrunk

/-- The entry of slot `i`, which is linked from the entry in slot `before?`, or is
the first one. -/
def linked? (r : Ring κ α) (before? : Option Nat) (i : Nat) : Option (κ × α) :=
  match before? with
  | none => r.front?
  | some _ => r.entryAt? i

/-- The ring without the entry that `linked?` gives. -/
def dropLinked (r : Ring κ α) (before? : Option Nat) (i : Nat) : Ring κ α :=
  match before? with
  | none => r.dropFront
  | some before => r.dropBehind before i

/-- Takes the entry that `linked?` gives. -/
def unlink? (r : Ring κ α) (before? : Option Nat) (i : Nat) : Option ((κ × α) × Ring κ α) :=
  match r.linked? before? i with
  | none => none
  | some entry => some (entry, r.dropLinked before? i)

/-- Walks `n` slots from slot `i` and gives the first whose entry passes the
test, with the slot walked before it. The test may keep a state. -/
@[specialize]
def locateFrom (r : Ring κ α) (test : κ → α → σ → Bool × σ) :
    Nat → Option Nat → Nat → σ → Option (Option Nat × Nat) × σ
  | 0, _, _, s => (none, s)
  | n + 1, before?, i, s =>
    match r.slots[i]? with
    | none => (none, s)
    | some slot =>
      match slot.value with
      | none => locateFrom r test n (some i) slot.next s
      | some value =>
        match test slot.key value s with
        | (true, s) => (some (before?, i), s)
        | (false, s) => locateFrom r test n (some i) slot.next s

/-- The slot of the first entry that passes the test, and the slot before it. -/
@[inline]
def locate (r : Ring κ α) (test : κ → α → σ → Bool × σ) (s : σ) :
    Option (Option Nat × Nat) × σ :=
  r.locateFrom test r.size none r.head s

/-- The slot of the first entry whose key passes the test. -/
@[inline]
def position? (r : Ring κ α) (test : κ → Bool) : Option Nat :=
  (r.locate (fun key _ _ => (test key, ())) ()).1.map Prod.snd

/-- Takes the first entry that passes the test. The test is asked once for each
entry, in order, up to the first that passes. -/
def removeFirst (r : Ring κ α) (test : κ → α → σ → Bool × σ) (s : σ) :
    Option ((κ × α) × Ring κ α) × σ :=
  match r.locate test s with
  | (none, s) => (none, s)
  | (some (before?, i), s) => (r.unlink? before? i, s)

/-- The entries of the `n` slots from slot `i` on. -/
def entriesFrom (r : Ring κ α) : Nat → Nat → List (κ × α)
  | 0, _ => []
  | n + 1, i =>
    match r.slots[i]? with
    | none => []
    | some slot =>
      match slot.value with
      | none => entriesFrom r n slot.next
      | some value => (slot.key, value) :: entriesFrom r n slot.next

/-- The stored entries in order. -/
def entries (r : Ring κ α) : List (κ × α) := r.entriesFrom r.size r.head

/-- Takes first entries, at most `n`, until there is none. -/
def drainTo (r : Ring κ α) : Nat → List (κ × α) × Ring κ α
  | 0 => ([], r)
  | n + 1 =>
    match r.front? with
    | none => ([], r)
    | some entry =>
      let (taken, last) := r.dropFront.drainTo n
      (entry :: taken, last)

/-- Takes every entry, first to last. -/
def drain (r : Ring κ α) : List (κ × α) × Ring κ α := r.drainTo r.size

theorem capacity_link (r : Ring κ α) (i target : Nat) :
    (r.link i target).capacity = r.capacity := by simp [link, capacity]

theorem capacity_vacate (r : Ring κ α) (i : Nat) : (r.vacate i).capacity = r.capacity := by
  simp [vacate, capacity]

end Ring

end Custody
