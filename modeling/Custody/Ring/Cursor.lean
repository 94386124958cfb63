import Custody.Ring.Basic

/-!
# Cursors

A cursor walks a ring from its first entry to its last and can take out the
entry it yielded last. It is a plain value: positions, and the stamp of the ring
when it was last in step with it. A ring whose stamp differs refuses the cursor,
and nothing moves.

* `Ring.advance`: yields the next entry;
* `Ring.removeAt?`: takes out the entry yielded last;
* `Ring.walk`: a whole walk that takes out what a test asks for;
* `Ring.advance_stale`, `Ring.removeAt_stale`: the refusal.

The stamp does not name the ring, so a cursor of another ring may pass for a
fresh one; the slots it names need not exist here.
-/

namespace Custody

/-- A position between the entries of a ring. -/
structure Cursor where
  /-- The slot before the current one. -/
  previous : Option Nat
  /-- The slot of the entry yielded last, unless it was taken out. -/
  current : Option Nat
  /-- The slot of the entry to yield next, unless the walk is over. -/
  upcoming : Option Nat
  stamp : UInt64
  deriving DecidableEq, Repr

namespace Cursor

def hasCurrent (c : Cursor) : Bool := c.current.isSome

def isExhausted (c : Cursor) : Bool := c.upcoming.isNone

end Cursor

/-- What a walk through a container `γ` of entries `ε` met, what it took out, and
what it leaves. -/
structure Walk (γ ε σ : Type) where
  seen : List ε
  removed : List (Option ε)
  container : γ
  cursor : Cursor
  state : σ

/-- The walk as it looks through a container and entries of another form. -/
def Walk.map {γ γ' ε ε' σ : Type} (container : γ → γ') (entry : ε → ε') (w : Walk γ ε σ) :
    Walk γ' ε' σ where
  seen := w.seen.map entry
  removed := w.removed.map (Option.map entry)
  container := container w.container
  cursor := w.cursor
  state := w.state

/-- A cursor named a slot that the ring does not have. -/
structure NoSuchSlot where
  slot : Nat
  capacity : Nat
  deriving DecidableEq, Repr

namespace Ring

variable {κ α σ : Type}

/-- A cursor before the first entry. -/
def cursor (r : Ring κ α) : Cursor where
  previous := none
  current := none
  upcoming := if 0 < r.size then some r.head else none
  stamp := r.stamp

/-- The ring is as the cursor left it. -/
def honours (r : Ring κ α) (c : Cursor) : Bool := c.stamp == r.stamp

/-- Steps the cursor to the next entry and yields it. -/
def advance (r : Ring κ α) (c : Cursor) : Option (κ × α) × Cursor :=
  if r.honours c then
    match c.upcoming with
    | none => (none, c)
    | some i =>
      match r.slots[i]? with
      | none => (none, c)
      | some slot =>
        (slot.value.map (slot.key, ·),
          { c with
            previous := c.current.or c.previous
            current := some i
            upcoming := if i = r.tail then none else some slot.next })
  else
    (none, c)

/-- The slot that taking the entry of slot `i` would look for and not find. -/
def missingSlot? (r : Ring κ α) (before? : Option Nat) (i : Nat) : Option NoSuchSlot :=
  match before? with
  | none => none
  | some before =>
    match r.slots[i]? with
    | none => some ⟨i, r.capacity⟩
    | some slot =>
      if slot.value.isSome && r.capacity ≤ before then some ⟨before, r.capacity⟩ else none

/-- Takes out the entry that the cursor yielded last. -/
def removeAt? (r : Ring κ α) (c : Cursor) :
    Except NoSuchSlot (Option (κ × α) × Ring κ α × Cursor) :=
  if r.honours c then
    match c.current with
    | none => .ok (none, r, c)
    | some i =>
      match r.missingSlot? c.previous i with
      | some missing => .error missing
      | none =>
        match r.linked? c.previous i with
        | none => .ok (none, r, { c with current := none })
        | some entry =>
          let rest := r.dropLinked c.previous i
          .ok (some entry, rest, { c with current := none, stamp := rest.stamp })
  else
    .ok (none, r, c)

/-- Advances at most `n` times, until nothing is yielded, and takes out the
entries that pass the test. -/
def walkFor (test : α → σ → Bool × σ) :
    Nat → Ring κ α → Cursor → σ → Except NoSuchSlot (Walk (Ring κ α) (κ × α) σ)
  | 0, r, c, s => .ok ⟨[], [], r, c, s⟩
  | n + 1, r, c, s =>
    match r.advance c with
    | (none, c) => .ok ⟨[], [], r, c, s⟩
    | (some entry, c) =>
      match test entry.2 s with
      | (false, s) =>
        match walkFor test n r c s with
        | .error missing => .error missing
        | .ok w => .ok { w with seen := entry :: w.seen }
      | (true, s) =>
        match r.removeAt? c with
        | .error missing => .error missing
        | .ok (taken, r, c) =>
          match walkFor test n r c s with
          | .error missing => .error missing
          | .ok w => .ok { w with seen := entry :: w.seen, removed := taken :: w.removed }

/-- The steps that suffice for a walk under a test of the entries alone. In twice
as many steps as there are slots it ends, takes something out, or comes to where it
was, and it takes out at most one entry of each slot. -/
def laps (r : Ring κ α) : Nat := (r.capacity + 1) * (2 * r.capacity + 3)

/-- Walks to the end and takes out the entries that pass the test. From call number
`settled` on the test says the same of the same entry, so a walk that has not ended
`laps` steps later goes on for ever; it is given up. -/
def walk (r : Ring κ α) (c : Cursor) (test : α → σ → Bool × σ) (settled : Nat) (s : σ) :
    Except NoSuchSlot (Walk (Ring κ α) (κ × α) σ) :=
  walkFor test (settled + r.laps) r c s

theorem advance_stale (r : Ring κ α) (c : Cursor) (h : c.stamp ≠ r.stamp) :
    r.advance c = (none, c) := by
  simp [advance, honours, h]

theorem removeAt_stale (r : Ring κ α) (c : Cursor) (h : c.stamp ≠ r.stamp) :
    r.removeAt? c = .ok (none, r, c) := by
  simp [removeAt?, honours, h]

end Ring

end Custody
