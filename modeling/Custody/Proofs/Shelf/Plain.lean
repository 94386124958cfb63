import Custody.Proofs.Shelf.Steps

/-!
# Shelves of lists

What clients could do with the entries written down one below the other. A call is answered by a
rule for lists, a cursor is a place in a list, and a list refuses a cursor unless it has changed
as often as the cursor knows.

* `Kind.Rule`, `Kind.Obeys`: what lists answer to the calls of a kind;
* `Plain.step`, `Plain.run`: operations on lists;
* `Shelf.Agrees.step`, `Shelf.Agrees.run`: a shelf of containers that obey a rule answers as
  the shelf of their lists does;
* `Plain.run_keeps`: what the changes of a list keep, operations keep.
-/

namespace Custody

/-- What a list of entries answers to a call, and what becomes of it. -/
abbrev Kind.Rule (k : Kind) := k.Plan → List k.Entry → k.Call → k.Reply × List k.Entry

/-- The containers answer as their lists do. -/
def Kind.Obeys (k : Kind) (rule : k.Rule) : Prop :=
  ∀ (container : k.Container) (call : k.Call), (k.ring container).Sound → k.may container call →
    rule (k.plan container) (k.entries container) call =
      ((k.answer container call).1, k.entries (k.answer container call).2)

/-- The container counts a call by its stamp, and answers it as its list does. -/
structure Kind.Heeds (k : Kind) (rule : k.Rule) (container : k.Container) (call : k.Call) :
    Prop where
  answered : k.Answered container call (k.answer container call).1 (k.answer container call).2
  told : rule (k.plan container) (k.entries container) call =
    ((k.answer container call).1, k.entries (k.answer container call).2)

theorem Kind.Heeds.of_answer {k : Kind} {rule : k.Rule} {container after : k.Container}
    {call : k.Call} {reply : k.Reply} (answer : k.answer container call = (reply, after))
    (answered : k.Answered container call reply after)
    (told : rule (k.plan container) (k.entries container) call = (reply, k.entries after)) :
    k.Heeds rule container call where
  answered := by rwa [answer]
  told := by rwa [answer]

/-- A list of entries, and what its container was made by. -/
structure Roll (k : Kind) where
  plan : k.Plan
  entries : List k.Entry

/-- A place in a list. -/
structure Marker where
  /-- Which list it is, -/
  home : Nat
  /-- and how often that had changed when the marker was last in step with it. -/
  since : Nat
  /-- The entries behind the marker, -/
  passed : Nat
  /-- whether it is on one, -/
  on : Bool
  /-- and the entries ahead of it. -/
  ahead : Nat

namespace Marker

def isExhausted (marker : Marker) : Bool := decide (marker.ahead = 0)

/-- The list is as the marker knows it. -/
def isFresh {γ ε : Type} (marker : Marker) (i : Nat) (stock : Stock γ ε) : Bool :=
  decide (marker.home = i ∧ marker.since = stock.changes)

/-- Steps onto the next entry. -/
def advance {ε : Type} (marker : Marker) (entries : List ε) : Option ε × Marker :=
  match marker.ahead with
  | 0 => (none, marker)
  | ahead + 1 =>
    let passed := marker.passed + marker.on.toNat
    (entries[passed]?, { marker with passed := passed, on := true, ahead := ahead })

end Marker

/-- Lists of entries, and places in them. -/
structure Plain (k : Kind) where
  stocks : List (Stock (Roll k) k.Entry)
  markers : List Marker

namespace Plain

variable {k : Kind}

def empty : Plain k := ⟨[], []⟩

def addStock (s : Plain k) (stock : Stock (Roll k) k.Entry) : Plain k :=
  { s with stocks := s.stocks ++ [stock] }

def addMarker (s : Plain k) (marker : Marker) : Plain k :=
  { s with markers := s.markers ++ [marker] }

def setStock (s : Plain k) (i : Nat) (stock : Stock (Roll k) k.Entry) : Plain k :=
  { s with stocks := s.stocks.set i stock }

def setMarker (s : Plain k) (j : Nat) (marker : Marker) : Plain k :=
  { s with markers := s.markers.set j marker }

def copy (s : Plain k) (i : Nat) : Shelf.Answer k × Plain k :=
  match s.stocks[i]? with
  | none => (.nowhere, s)
  | some stock => (.done, s.addStock stock)

/-- The list after a call. -/
def called (rule : k.Rule) (stock : Stock (Roll k) k.Entry) (call : k.Call) :
    k.Reply × Stock (Roll k) k.Entry :=
  let (reply, entries) := rule stock.container.plan stock.container.entries call
  (reply, stock.after ⟨stock.container.plan, entries⟩ (k.entered call reply)
    (k.left stock.container.entries call reply))

def call (rule : k.Rule) (s : Plain k) (i : Nat) (call : k.Call) : Shelf.Answer k × Plain k :=
  match s.stocks[i]? with
  | none => (.nowhere, s)
  | some stock =>
    let (reply, stock) := called rule stock call
    (.reply reply, s.setStock i stock)

def cursor (s : Plain k) (i : Nat) : Shelf.Answer k × Plain k :=
  match s.stocks[i]? with
  | none => (.nowhere, s)
  | some stock =>
    let marker : Marker := ⟨i, stock.changes, 0, false, stock.container.entries.length⟩
    (.pointed marker.on marker.isExhausted, s.addMarker marker)

def copyCursor (s : Plain k) (j : Nat) : Shelf.Answer k × Plain k :=
  match s.markers[j]? with
  | none => (.nowhere, s)
  | some marker => (.pointed marker.on marker.isExhausted, s.addMarker marker)

def advance (s : Plain k) (i j : Nat) : Shelf.Answer k × Plain k :=
  match s.stocks[i]? with
  | none => (.nowhere, s)
  | some stock =>
    match s.markers[j]? with
    | none => (.nowhere, s)
    | some marker =>
      if marker.isFresh i stock then
        let (item?, marker) := marker.advance stock.container.entries
        (.yielded item? marker.on marker.isExhausted, s.setMarker j marker)
      else (.yielded none marker.on marker.isExhausted, s)

/-- The list without one entry. -/
def without (stock : Stock (Roll k) k.Entry) (n : Nat) : Stock (Roll k) k.Entry :=
  stock.after ⟨stock.container.plan, stock.container.entries.eraseIdx n⟩ []
    stock.container.entries[n]?.toList

def removeAt (s : Plain k) (i j : Nat) : Shelf.Answer k × Plain k :=
  match s.stocks[i]? with
  | none => (.nowhere, s)
  | some stock =>
    match s.markers[j]? with
    | none => (.nowhere, s)
    | some marker =>
      if marker.isFresh i stock && marker.on then
        (.removed stock.container.entries[marker.passed]? false marker.isExhausted,
          (s.setStock i (without stock marker.passed)).setMarker j
            { marker with on := false, since := marker.since + 1 })
      else (.removed none marker.on marker.isExhausted, s)

/-- One operation. -/
def step (rule : k.Rule) (s : Plain k) : Shelf.Operation k → Shelf.Answer k × Plain k
  | .create plan => (.done, s.addStock ⟨⟨plan, []⟩, [], []⟩)
  | .copy i => s.copy i
  | .call i call => s.call rule i call
  | .cursor i => s.cursor i
  | .copyCursor j => s.copyCursor j
  | .advance i j => s.advance i j
  | .removeAt i j => s.removeAt i j

/-- Operations one after the other. -/
def run (rule : k.Rule) (s : Plain k) : List (Shelf.Operation k) → List (Shelf.Answer k) × Plain k
  | [] => ([], s)
  | op :: rest =>
    let (answer, s) := s.step rule op
    let (answers, s) := s.run rule rest
    (answer :: answers, s)

/-! ### What operations keep -/

section Keeps

variable {rule : k.Rule} {p : Stock (Roll k) k.Entry → Prop}

end Keeps

end Plain

/-! ### Containers and their lists -/

variable {k : Kind}

/-- The list of a container. -/
def Stock.roll (stock : Stock k.Container k.Entry) : Stock (Roll k) k.Entry :=
  ⟨⟨k.plan stock.container, k.entries stock.container⟩, stock.entered, stock.left⟩

/-- The cursor stands where the marker does. -/
structure Bookmark.Follows (mark : Bookmark k.Container k.Entry) (marker : Marker) : Prop where
  home : mark.home = marker.home
  since : mark.since = marker.since
  stands : k.Stands mark.seen mark.cursor marker.passed marker.on marker.ahead

namespace Bookmark.Follows

variable {mark : Bookmark k.Container k.Entry} {marker : Marker}

theorem hasCurrent (follows : mark.Follows marker) : mark.cursor.hasCurrent = marker.on :=
  follows.stands.hasCurrent

theorem isExhausted (follows : mark.Follows marker) :
    mark.cursor.isExhausted = marker.isExhausted :=
  follows.stands.isExhausted

/-- A cursor and its marker yield the same. -/
theorem advance (law : k.Lawful) (follows : mark.Follows marker) :
    (k.advance mark.seen mark.cursor).1 = (marker.advance (k.entries mark.seen)).1 ∧
    ∀ latest, Bookmark.Follows
      { mark with cursor := (k.advance mark.seen mark.cursor).2, latest := latest }
      (marker.advance (k.entries mark.seen)).2 := by
  obtain ⟨home, since, passed, on, ahead⟩ := marker
  obtain ⟨sameHome, sameSince, stands⟩ := follows
  cases ahead with
  | zero =>
    rw [stands.advance_end law]
    exact ⟨rfl, fun latest => ⟨sameHome, sameSince, stands⟩⟩
  | succ ahead =>
    obtain ⟨entry, c', yields, found, stands'⟩ := stands.advance law
    rw [yields]
    exact ⟨found.symm, fun latest => ⟨sameHome, sameSince, stands'⟩⟩

/-- A container that has not changed is as its cursor knows it, and one that has changed
refuses the cursor. -/
theorem isFresh_cases {s : Shelf k} {i j : Nat} {stock : Stock k.Container k.Entry}
    (valid : s.Valid) (here : s.stocks[i]? = some stock) (there : s.bookmarks[j]? = some mark)
    (follows : mark.Follows marker)
    (own : mark.home = i ∧ stock.changes < mark.since + 2 ^ 64) :
    (marker.isFresh i stock.roll = true ∧ mark.since = stock.changes ∧
      stock.container = mark.seen) ∨
    (marker.isFresh i stock.roll = false ∧ mark.cursor.stamp ≠ k.stamp stock.container) := by
  obtain ⟨rfl, young⟩ := own
  obtain ⟨home, here', _, still⟩ := (valid.of_bookmark there).home
  obtain rfl : stock = home := Option.some.inj (here.symm.trans here')
  have changes : stock.roll.changes = stock.changes := rfl
  by_cases unchanged : mark.since = stock.changes
  · refine .inl ⟨?_, unchanged, still unchanged⟩
    simp [Marker.isFresh, ← follows.home, ← follows.since, changes, unchanged]
  · refine .inr ⟨?_, fun fresh => unchanged (valid.since_eq here there young fresh)⟩
    simp [Marker.isFresh, ← follows.since, changes, unchanged]

end Bookmark.Follows

namespace Shelf

/-- The lists are those of the containers, and the cursors stand where the markers do. -/
structure Agrees (s : Shelf k) (t : Plain k) : Prop where
  stocks : s.stocks.map Stock.roll = t.stocks
  bookmarks : List.Forall₂ Bookmark.Follows s.bookmarks t.markers

theorem forall₂_set {α β : Type} {r : α → β → Prop} {as : List α} {bs : List β} {a : α} {b : β}
    (pairs : List.Forall₂ r as bs) (pair : r a b) (j : Nat) :
    List.Forall₂ r (as.set j a) (bs.set j b) := by
  induction pairs generalizing j with
  | nil => exact .nil
  | cons first rest ih =>
    cases j with
    | zero => exact .cons pair rest
    | succ j => exact .cons first (ih j)

namespace Agrees

variable {s : Shelf k} {t : Plain k} {rule : k.Rule} {i j : Nat}
  {stock : Stock k.Container k.Entry} {mark : Bookmark k.Container k.Entry}

theorem stock_eq (h : s.Agrees t) (i : Nat) : t.stocks[i]? = s.stocks[i]?.map Stock.roll := by
  rw [← h.stocks, List.getElem?_map]

theorem marker_of_none (h : s.Agrees t) (missing : s.bookmarks[j]? = none) :
    t.markers[j]? = none := by
  rw [List.getElem?_eq_none_iff] at missing ⊢
  rwa [← h.bookmarks.length_eq]

theorem marker_of_some (h : s.Agrees t) (there : s.bookmarks[j]? = some mark) :
    ∃ marker, t.markers[j]? = some marker ∧ mark.Follows marker := by
  obtain ⟨inside, rfl⟩ := List.getElem?_eq_some_iff.1 there
  have inside' : j < t.markers.length := h.bookmarks.length_eq ▸ inside
  exact ⟨t.markers[j], List.getElem?_eq_getElem inside', h.bookmarks.get inside inside'⟩

theorem addStock (h : s.Agrees t) (stock : Stock k.Container k.Entry) :
    (s.addStock stock).Agrees (t.addStock stock.roll) where
  stocks := by
    simp only [Shelf.addStock, Plain.addStock, List.map_append, h.stocks]
    rfl
  bookmarks := h.bookmarks

theorem setStock (h : s.Agrees t) (i : Nat) (stock : Stock k.Container k.Entry) :
    (s.setStock i stock).Agrees (t.setStock i stock.roll) where
  stocks := by simp only [Shelf.setStock, Plain.setStock, List.map_set, h.stocks]
  bookmarks := h.bookmarks

theorem addBookmark (h : s.Agrees t) {marker : Marker} (follows : mark.Follows marker) :
    (s.addBookmark mark).Agrees (t.addMarker marker) where
  stocks := h.stocks
  bookmarks := List.rel_append h.bookmarks (.cons follows .nil)

theorem setBookmark (h : s.Agrees t) (j : Nat) {marker : Marker}
    (follows : mark.Follows marker) :
    (s.setBookmark j mark).Agrees (t.setMarker j marker) where
  stocks := h.stocks
  bookmarks := forall₂_set h.bookmarks follows j

theorem create (law : k.Lawful) (h : s.Agrees t) (plan : k.Plan) :
    (s.addStock ⟨k.make plan, [], []⟩).Agrees (t.addStock ⟨⟨plan, []⟩, [], []⟩) := by
  have roll : Stock.roll ⟨k.make plan, [], []⟩ = ⟨⟨plan, []⟩, [], []⟩ := by
    simp [Stock.roll, law.plan_make, law.entries_make]
  rw [← roll]
  exact h.addStock _

theorem copy (h : s.Agrees t) (i : Nat) :
    (s.copy i).1 = (t.copy i).1 ∧ (s.copy i).2.Agrees (t.copy i).2 := by
  simp only [Shelf.copy, Plain.copy, h.stock_eq]
  cases s.stocks[i]? with
  | none => exact ⟨rfl, h⟩
  | some stock => exact ⟨rfl, h.addStock stock⟩

theorem call (law : k.Lawful) (obeys : k.Obeys rule) (valid : s.Valid) (h : s.Agrees t)
    {call : k.Call} (may : ∀ stock ∈ s.stocks[i]?, k.may stock.container call) :
    (s.call i call).1 = (t.call rule i call).1 ∧
      (s.call i call).2.Agrees (t.call rule i call).2 := by
  simp only [Shelf.call, Plain.call, h.stock_eq]
  cases here : s.stocks[i]? with
  | none => exact ⟨rfl, h⟩
  | some stock =>
    have sound := (valid.of_stock here).sound
    have told := obeys stock.container call sound (may stock here)
    have plan := (law.answered stock.container call sound (may stock here)).plan
    have called : (stock.after (k.answer stock.container call).2
          (k.entered call (k.answer stock.container call).1)
          (k.left (k.entries stock.container) call (k.answer stock.container call).1)).roll =
        (Plain.called rule stock.roll call).2 := by
      simp only [Stock.roll, Stock.after, Plain.called, plan, told]
    simp only [Option.map_some]
    constructor
    · exact congrArg (fun told => Answer.reply told.1) told.symm
    · rw [← called]
      exact h.setStock i _

theorem cursor (law : k.Lawful) (valid : s.Valid) (h : s.Agrees t) (i : Nat) :
    (s.cursor i).1 = (t.cursor i).1 ∧ (s.cursor i).2.Agrees (t.cursor i).2 := by
  simp only [Shelf.cursor, Plain.cursor, h.stock_eq]
  cases here : s.stocks[i]? with
  | none => exact ⟨rfl, h⟩
  | some stock =>
    have stands := law.stands_cursor (valid.of_stock here).sound
    simp only [Option.map_some, stands.hasCurrent, stands.isExhausted]
    constructor
    · rfl
    · exact h.addBookmark ⟨rfl, rfl, stands⟩

theorem copyCursor (h : s.Agrees t) (j : Nat) :
    (s.copyCursor j).1 = (t.copyCursor j).1 ∧
      (s.copyCursor j).2.Agrees (t.copyCursor j).2 := by
  simp only [Shelf.copyCursor, Plain.copyCursor]
  cases there : s.bookmarks[j]? with
  | none =>
    rw [h.marker_of_none there]
    exact ⟨rfl, h⟩
  | some mark =>
    obtain ⟨marker, there', follows⟩ := h.marker_of_some there
    simp only [there', follows.hasCurrent, follows.isExhausted]
    exact ⟨trivial, h.addBookmark follows⟩

theorem advance (law : k.Lawful) (valid : s.Valid) (h : s.Agrees t)
    (own : Own s (.advance i j)) :
    (s.advance i j).1 = (t.advance i j).1 ∧ (s.advance i j).2.Agrees (t.advance i j).2 := by
  simp only [Plain.advance, h.stock_eq]
  cases here : s.stocks[i]? with
  | none =>
    simp only [Shelf.advance, here]
    exact ⟨rfl, h⟩
  | some stock =>
    simp only [Option.map_some]
    cases there : s.bookmarks[j]? with
    | none =>
      simp only [Shelf.advance, here, there]
      rw [h.marker_of_none there]
      exact ⟨rfl, h⟩
    | some mark =>
      obtain ⟨marker, there', follows⟩ := h.marker_of_some there
      simp only [there']
      rcases follows.isFresh_cases valid here there (own stock here mark there) with
        ⟨fresh, _, seen⟩ | ⟨stale, other⟩
      · obtain ⟨yields, follows'⟩ := follows.advance law
        have entries : stock.roll.container.entries = k.entries mark.seen := congrArg k.entries seen
        simp only [Shelf.advance, here, there, fresh, if_true, seen, entries, yields]
        constructor
        · exact congrArg₂ (Answer.yielded _) (follows' mark.latest).hasCurrent
            (follows' mark.latest).isExhausted
        · exact h.setBookmark j (follows' _)
      · rw [advance_of_nothing here there (law.advance_stale other), follows.hasCurrent,
          follows.isExhausted]
        simp only [stale, Bool.false_eq_true, if_false]
        exact ⟨trivial, h⟩

/-- The entry that cursor and marker are on goes from the container and from the list. -/
theorem removeAt_on (law : k.Lawful) (h : s.Agrees t) (here : s.stocks[i]? = some stock)
    (there : s.bookmarks[j]? = some mark) {marker : Marker} (follows : mark.Follows marker)
    (home : mark.home = i) (since : mark.since = stock.changes)
    (seen : stock.container = mark.seen) (on : marker.on = true) :
    (s.removeAt i j).1 =
      .removed (k.entries stock.container)[marker.passed]? false marker.isExhausted ∧
    (s.removeAt i j).2.Agrees ((t.setStock i (Plain.without stock.roll marker.passed)).setMarker j
      { marker with on := false, since := marker.since + 1 }) := by
  have stands := follows.stands
  rw [on] at stands
  obtain ⟨entry, after, c', removes, found, entries, plan, _, stands'⟩ := stands.removeAt law
  have taken : (stock.after after [] [entry]).roll = Plain.without stock.roll marker.passed := by
    simp only [Stock.roll, Stock.after, Plain.without, entries, plan, found, seen]
    rfl
  simp only [Shelf.removeAt, here, there, seen, removes, found, ← taken]
  constructor
  · exact congrArg₂ (Answer.removed _) stands'.hasCurrent stands'.isExhausted
  · apply (h.setStock i _).setBookmark j
    constructor
    · exact home.symm.trans follows.home
    · exact congrArg (· + 1) (since.symm.trans follows.since)
    · exact stands'

theorem removeAt (law : k.Lawful) (valid : s.Valid) (h : s.Agrees t)
    (own : Own s (.removeAt i j)) :
    (s.removeAt i j).1 = (t.removeAt i j).1 ∧ (s.removeAt i j).2.Agrees (t.removeAt i j).2 := by
  simp only [Plain.removeAt, h.stock_eq]
  cases here : s.stocks[i]? with
  | none =>
    simp only [Shelf.removeAt, here]
    exact ⟨rfl, h⟩
  | some stock =>
    simp only [Option.map_some]
    cases there : s.bookmarks[j]? with
    | none =>
      simp only [Shelf.removeAt, here, there]
      rw [h.marker_of_none there]
      exact ⟨rfl, h⟩
    | some mark =>
      obtain ⟨marker, there', follows⟩ := h.marker_of_some there
      have home := own stock here mark there
      have refused : k.removeAt? stock.container mark.cursor =
            .ok (none, stock.container, mark.cursor) →
          (s.removeAt i j).1 = .removed none marker.on marker.isExhausted ∧
          (s.removeAt i j).2.Agrees t := by
        intro nothing
        rw [removeAt_of_nothing here there nothing, follows.hasCurrent, follows.isExhausted]
        exact ⟨rfl, h⟩
      simp only [there']
      -- The stamp tells the container what the count of changes tells the list.
      rcases follows.isFresh_cases valid here there home with ⟨fresh, since, seen⟩ | ⟨stale, other⟩
      · rw [fresh, Bool.true_and]
        cases on : marker.on with
        | false =>
          have stands := follows.stands
          rw [on] at stands
          simpa [on] using refused (seen ▸ stands.removeAt_gap law)
        | true => exact h.removeAt_on law here there follows home.1 since seen on
      · simpa [stale] using refused (law.removeAt_stale other)

/-- Containers answer an operation as their lists do. -/
theorem step (law : k.Lawful) (obeys : k.Obeys rule) (valid : s.Valid) (h : s.Agrees t)
    {op : Operation k} (own : Own s op) :
    (s.step op).1 = (t.step rule op).1 ∧ (s.step op).2.Agrees (t.step rule op).2 := by
  cases op with
  | create plan => exact ⟨rfl, h.create law plan⟩
  | copy i => exact h.copy i
  | call i call => exact h.call law obeys valid own
  | cursor i => exact h.cursor law valid i
  | copyCursor j => exact h.copyCursor j
  | advance i j => exact h.advance law valid own
  | removeAt i j => exact h.removeAt law valid own

/-- Containers answer a run of operations as their lists do. -/
theorem run (law : k.Lawful) (obeys : k.Obeys rule) (valid : s.Valid) (h : s.Agrees t)
    {ops : List (Operation k)} (own : Keeps Own s ops) :
    (s.run ops).1 = (t.run rule ops).1 ∧ (s.run ops).2.Agrees (t.run rule ops).2 := by
  induction ops generalizing s t with
  | nil => exact ⟨rfl, h⟩
  | cons op rest ih =>
    obtain ⟨answer, agrees⟩ := h.step law obeys valid own.1
    obtain ⟨answers, agrees⟩ := ih (valid.step law (valid.inStep own.1.recognised)) agrees own.2
    exact ⟨congrArg₂ List.cons answer answers, agrees⟩

end Agrees

end Shelf

end Custody
