import Custody.Proofs.Shelf.Kind
import Mathlib.Algebra.Group.Nat.Defs

/-!
# Shelves

Containers of one kind side by side, and the cursors that were taken from them. Clients make
containers, copy them, call on them, and pass any cursor to any of them.

* `Shelf.step`, `Shelf.run`: operations with their answers;
* `Shelf.Keeps`: a run in which every operation is one that some rule allows;
* `Shelf.Own`: cursors are passed only to the container that they were taken from;
* `Shelf.Recognised`: other containers refuse them;
* `Shelf.InStep`: no container mistakes a cursor for one that is in step with it.

Beside the containers and cursors a shelf keeps their history, which no operation looks at.
-/

namespace Custody

/-- A container, with what came into it and what left it since it was made. A copy shares the
past of its original. -/
structure Stock (γ ε : Type) where
  container : γ
  entered : List ε
  left : List ε

namespace Stock

variable {γ ε : Type}

/-- How often the contents have changed. -/
def changes (stock : Stock γ ε) : Nat := stock.entered.length + stock.left.length

/-- The container after more came and left. -/
def after (stock : Stock γ ε) (container : γ) (entered left : List ε) : Stock γ ε :=
  ⟨container, stock.entered ++ entered, stock.left ++ left⟩

end Stock

/-- A cursor, with what it was last in step with. -/
structure Bookmark (γ ε : Type) where
  cursor : Cursor
  /-- The place of the container that it was in step with, -/
  home : Nat
  /-- how often that had changed then, -/
  since : Nat
  /-- and what it was. -/
  seen : γ
  /-- The entry that it yielded last, with the place of the container that it is from. -/
  latest : Option (Nat × ε)

/-- Containers of one kind and cursors, in the order in which they came. -/
structure Shelf (k : Kind) where
  stocks : List (Stock k.Container k.Entry)
  bookmarks : List (Bookmark k.Container k.Entry)

namespace Shelf

variable {k : Kind}

/-- What a client can do. Containers and cursors are named by their places. -/
inductive Operation (k : Kind)
  | create (plan : k.Plan)
  | copy (i : Nat)
  | call (i : Nat) (call : k.Call)
  | cursor (i : Nat)
  | copyCursor (j : Nat)
  | advance (i j : Nat)
  | removeAt (i j : Nat)

/-- What it is answered. What a cursor yields or takes out comes with what the cursor then
says of itself. -/
inductive Answer (k : Kind)
  | nowhere
  | done
  | reply (reply : k.Reply)
  | pointed (hasCurrent isExhausted : Bool)
  | yielded (item? : Option k.Entry) (hasCurrent isExhausted : Bool)
  | removed (item? : Option k.Entry) (hasCurrent isExhausted : Bool)
  | noSlot (missing : NoSuchSlot)

def empty : Shelf k := ⟨[], []⟩

def addStock (s : Shelf k) (stock : Stock k.Container k.Entry) : Shelf k :=
  { s with stocks := s.stocks ++ [stock] }

def addBookmark (s : Shelf k) (mark : Bookmark k.Container k.Entry) : Shelf k :=
  { s with bookmarks := s.bookmarks ++ [mark] }

def setStock (s : Shelf k) (i : Nat) (stock : Stock k.Container k.Entry) : Shelf k :=
  { s with stocks := s.stocks.set i stock }

def setBookmark (s : Shelf k) (j : Nat) (mark : Bookmark k.Container k.Entry) : Shelf k :=
  { s with bookmarks := s.bookmarks.set j mark }

def copy (s : Shelf k) (i : Nat) : Answer k × Shelf k :=
  match s.stocks[i]? with
  | none => (.nowhere, s)
  | some stock => (.done, s.addStock stock)

def call (s : Shelf k) (i : Nat) (call : k.Call) : Answer k × Shelf k :=
  match s.stocks[i]? with
  | none => (.nowhere, s)
  | some stock =>
    let (reply, container) := k.answer stock.container call
    (.reply reply, s.setStock i (stock.after container (k.entered call reply)
      (k.left (k.entries stock.container) call reply)))

def cursor (s : Shelf k) (i : Nat) : Answer k × Shelf k :=
  match s.stocks[i]? with
  | none => (.nowhere, s)
  | some stock =>
    let cursor := k.cursor stock.container
    (.pointed cursor.hasCurrent cursor.isExhausted,
      s.addBookmark ⟨cursor, i, stock.changes, stock.container, none⟩)

def copyCursor (s : Shelf k) (j : Nat) : Answer k × Shelf k :=
  match s.bookmarks[j]? with
  | none => (.nowhere, s)
  | some mark => (.pointed mark.cursor.hasCurrent mark.cursor.isExhausted, s.addBookmark mark)

/-- Passes cursor `j` to container `i`, to be advanced. -/
def advance (s : Shelf k) (i j : Nat) : Answer k × Shelf k :=
  match s.stocks[i]? with
  | none => (.nowhere, s)
  | some stock =>
    match s.bookmarks[j]? with
    | none => (.nowhere, s)
    | some mark =>
      let (item?, cursor) := k.advance stock.container mark.cursor
      (.yielded item? cursor.hasCurrent cursor.isExhausted,
        s.setBookmark j
          { mark with cursor := cursor, latest := (item?.map (i, ·)).or mark.latest })

/-- Passes cursor `j` to container `i`, which takes out the entry that it yielded last. If
something goes, the cursor is in step with what is left. -/
def removeAt (s : Shelf k) (i j : Nat) : Answer k × Shelf k :=
  match s.stocks[i]? with
  | none => (.nowhere, s)
  | some stock =>
    match s.bookmarks[j]? with
    | none => (.nowhere, s)
    | some mark =>
      match k.removeAt? stock.container mark.cursor with
      | .error missing => (.noSlot missing, s)
      | .ok (none, container, cursor) =>
        (.removed none cursor.hasCurrent cursor.isExhausted,
          (s.setStock i { stock with container := container }).setBookmark j
            { mark with cursor := cursor })
      | .ok (some entry, container, cursor) =>
        (.removed (some entry) cursor.hasCurrent cursor.isExhausted,
          (s.setStock i (stock.after container [] [entry])).setBookmark j
            { mark with cursor := cursor, home := i, since := stock.changes + 1,
                        seen := container })

/-- One operation. -/
def step (s : Shelf k) : Operation k → Answer k × Shelf k
  | .create plan => (.done, s.addStock ⟨k.make plan, [], []⟩)
  | .copy i => s.copy i
  | .call i call => s.call i call
  | .cursor i => s.cursor i
  | .copyCursor j => s.copyCursor j
  | .advance i j => s.advance i j
  | .removeAt i j => s.removeAt i j

/-- Operations one after the other. -/
def run (s : Shelf k) : List (Operation k) → List (Answer k) × Shelf k
  | [] => ([], s)
  | op :: rest =>
    let (answer, s) := s.step op
    let (answers, s) := s.run rest
    (answer :: answers, s)

theorem run_append (s : Shelf k) (ops later : List (Operation k)) :
    s.run (ops ++ later) =
      ((s.run ops).1 ++ ((s.run ops).2.run later).1, ((s.run ops).2.run later).2) := by
  induction ops generalizing s with
  | nil => rfl
  | cons op rest ih => simp only [List.cons_append, run, ih]

/-- Every operation of a run is one that the rule allows where it comes. -/
def Keeps (rule : Shelf k → Operation k → Prop) (s : Shelf k) : List (Operation k) → Prop
  | [] => True
  | op :: rest => rule s op ∧ Keeps rule (s.step op).2 rest

theorem keeps_append {rule : Shelf k → Operation k → Prop} {s : Shelf k}
    {ops later : List (Operation k)} :
    Keeps rule s (ops ++ later) ↔ Keeps rule s ops ∧ Keeps rule (s.run ops).2 later := by
  induction ops generalizing s with
  | nil => simp [Keeps, run]
  | cons op rest ih => simp only [List.cons_append, Keeps, run, ih, and_assoc]

/-- What holds of the container and the cursor of an operation that passes the one to the
other. -/
def Meets (s : Shelf k) (i j : Nat)
    (p : Stock k.Container k.Entry → Bookmark k.Container k.Entry → Prop) : Prop :=
  ∀ stock ∈ s.stocks[i]?, ∀ mark ∈ s.bookmarks[j]?, p stock mark

instance (s : Shelf k) (i j : Nat)
    (p : Stock k.Container k.Entry → Bookmark k.Container k.Entry → Prop)
    [∀ stock mark, Decidable (p stock mark)] : Decidable (s.Meets i j p) :=
  inferInstanceAs (Decidable (∀ stock ∈ s.stocks[i]?, ∀ mark ∈ s.bookmarks[j]?, p stock mark))

/-- Calls are as their callers must see to, and cursors are passed as `p` says. -/
def Cares (p : Nat → Stock k.Container k.Entry → Bookmark k.Container k.Entry → Prop)
    (s : Shelf k) : Operation k → Prop
  | .create _ => True
  | .copy _ => True
  | .call i call => ∀ stock ∈ s.stocks[i]?, k.may stock.container call
  | .cursor _ => True
  | .copyCursor _ => True
  | .advance i j => s.Meets i j (p i)
  | .removeAt i j => s.Meets i j (p i)

/-- A cursor is passed only to the container that it was taken from, and before that has
changed 2^64 times since it was in step. Then its stamp may be the cursor's again, as
`Shelf.overdue_mistaken` shows. -/
def Own : Shelf k → Operation k → Prop :=
  Cares fun i stock mark => mark.home = i ∧ stock.changes < mark.since + 2 ^ 64

/-- A container that has the cursor's stamp is the one that the cursor was taken from, and has
not changed 2^64 times since. -/
def Recognised : Shelf k → Operation k → Prop :=
  Cares fun i stock mark => mark.cursor.stamp = k.stamp stock.container →
    mark.home = i ∧ stock.changes < mark.since + 2 ^ 64

/-- A container that has the cursor's stamp is what the cursor was in step with. -/
def InStep : Shelf k → Operation k → Prop :=
  Cares fun _ stock mark =>
    mark.cursor.stamp = k.stamp stock.container → stock.container = mark.seen

instance [∀ container call, Decidable (k.may container call)]
    {p : Nat → Stock k.Container k.Entry → Bookmark k.Container k.Entry → Prop}
    [∀ i stock mark, Decidable (p i stock mark)] :
    ∀ (s : Shelf k) (op : Operation k), Decidable (Cares p s op)
  | _, .create _ => .isTrue trivial
  | _, .copy _ => .isTrue trivial
  | s, .call i call =>
    inferInstanceAs (Decidable (∀ stock ∈ s.stocks[i]?, k.may stock.container call))
  | _, .cursor _ => .isTrue trivial
  | _, .copyCursor _ => .isTrue trivial
  | s, .advance i j => inferInstanceAs (Decidable (s.Meets i j (p i)))
  | s, .removeAt i j => inferInstanceAs (Decidable (s.Meets i j (p i)))

instance [∀ container call, Decidable (k.may container call)] (s : Shelf k) (op : Operation k) :
    Decidable (Own s op) :=
  inferInstanceAs (Decidable (Cares _ s op))

instance [∀ container call, Decidable (k.may container call)] (s : Shelf k) (op : Operation k) :
    Decidable (Recognised s op) :=
  inferInstanceAs (Decidable (Cares _ s op))

instance [∀ container call, Decidable (k.may container call)] [DecidableEq k.Container]
    (s : Shelf k) (op : Operation k) : Decidable (InStep s op) :=
  inferInstanceAs (Decidable (Cares _ s op))

instance decidableKeeps {rule : Shelf k → Operation k → Prop} [∀ s op, Decidable (rule s op)]
    (s : Shelf k) : ∀ ops, Decidable (Keeps rule s ops)
  | [] => .isTrue trivial
  | op :: rest =>
    have : Decidable (Keeps rule (s.step op).2 rest) := decidableKeeps _ rest
    inferInstanceAs (Decidable (rule s op ∧ Keeps rule (s.step op).2 rest))

/-! ### Operations that change nothing -/

section Nothing

variable {s : Shelf k} {i j : Nat} {stock : Stock k.Container k.Entry}
  {mark : Bookmark k.Container k.Entry}

/-- With nothing to yield everything stays as it is. -/
theorem advance_of_nothing (here : s.stocks[i]? = some stock)
    (there : s.bookmarks[j]? = some mark)
    (nothing : k.advance stock.container mark.cursor = (none, mark.cursor)) :
    s.advance i j = (.yielded none mark.cursor.hasCurrent mark.cursor.isExhausted, s) := by
  obtain ⟨inside, rfl⟩ := List.getElem?_eq_some_iff.1 there
  simp only [advance, here, there, nothing]
  exact congrArg (Prod.mk _) (congrArg (mk _) (List.set_getElem_self inside))

/-- With nothing to take out everything stays as it is. -/
theorem removeAt_of_nothing (here : s.stocks[i]? = some stock)
    (there : s.bookmarks[j]? = some mark)
    (nothing : k.removeAt? stock.container mark.cursor =
      .ok (none, stock.container, mark.cursor)) :
    s.removeAt i j = (.removed none mark.cursor.hasCurrent mark.cursor.isExhausted, s) := by
  obtain ⟨inside, rfl⟩ := List.getElem?_eq_some_iff.1 here
  obtain ⟨inside', rfl⟩ := List.getElem?_eq_some_iff.1 there
  simp only [removeAt, here, there, nothing]
  exact congrArg (Prod.mk _) (congrArg₂ mk (List.set_getElem_self inside)
    (List.set_getElem_self inside'))

end Nothing

/-! ### Rules that allow less -/

theorem Cares.imp {p q : Nat → Stock k.Container k.Entry → Bookmark k.Container k.Entry → Prop}
    (imp : ∀ i stock mark, p i stock mark → q i stock mark) {s : Shelf k} {op : Operation k}
    (cares : Cares p s op) : Cares q s op := by
  cases op with
  | call i call => exact cares
  | advance i j | removeAt i j =>
    intro stock here mark there
    exact imp i stock mark (cares stock here mark there)
  | create | copy | cursor | copyCursor => trivial

theorem Keeps.imp {rule rule' : Shelf k → Operation k → Prop}
    (imp : ∀ s op, rule s op → rule' s op) {s : Shelf k} {ops : List (Operation k)}
    (keeps : Keeps rule s ops) : Keeps rule' s ops := by
  induction ops generalizing s with
  | nil => trivial
  | cons op rest ih => exact ⟨imp s op keeps.1, ih keeps.2⟩

theorem Own.recognised {s : Shelf k} {op : Operation k} (own : Own s op) : Recognised s op := by
  apply Cares.imp ?_ own
  intro i stock mark own _
  exact own

theorem Keeps.recognised {s : Shelf k} {ops : List (Operation k)} (own : Keeps Own s ops) :
    Keeps Recognised s ops :=
  own.imp fun _ _ => Own.recognised

end Shelf

end Custody
