import Custody.Proofs.Shelf.Queues
import Custody.Proofs.Shelf.RankedQueues

/-!
# Stale cursors

A container refuses a cursor when its contents have changed otherwise than through that cursor,
and not before.

* `Shelf.Moves`, `Shelf.moves_step`: what an operation does to the containers and to the cursors;
* `Watch`: operations with a note of the cursors whose container was changed behind their back,
  and of how many entries each has passed;
* `Watch.Faithful.next`, `Watch.Faithful.run`: the count of changes tells the cursors that are
  noted from the others;
* `Watch.Counted.next`, `Watch.Counted.run`: where the cursors stand is as was noted;
* `Shelf.stale_exactly`: those whose container was changed are refused, and the others honoured,
  from where they stand.
-/

namespace Custody

variable {k : Kind}

/-- The second stock is the first one later on, and the count of changes tells whether the
contents are the same. -/
structure Stock.Tells (before after : Stock k.Container k.Entry) : Prop where
  le : before.changes ≤ after.changes
  same_iff : k.entries after.container = k.entries before.container ↔
    after.changes = before.changes

theorem Stock.Tells.refl (stock : Stock k.Container k.Entry) : stock.Tells stock where
  le := Nat.le_refl _
  same_iff := iff_of_true rfl rfl

/-- No call brings something in and takes something out. -/
def Kind.OneWay (k : Kind) : Prop :=
  ∀ (before : List k.Entry) (call : k.Call) (reply : k.Reply),
    k.entered call reply = [] ∨ k.left before call reply = []

theorem Queue.oneWay (α σ : Type) [BEq α] : (Queue.kind α σ).OneWay := by
  intro before call reply
  simp only [Call.entered]
  split
  · exact .inr rfl
  · exact .inl rfl

theorem RankedQueue.oneWay (α σ : Type) [BEq α] : (RankedQueue.kind α σ).OneWay := by
  intro before call reply
  simp only [Call.entered]
  split
  · exact .inr rfl
  · exact .inl rfl

namespace Kind

variable {container : k.Container} {call : k.Call}

/-- With the contents as they were, nothing came and nothing left. -/
theorem Answered.nothing {reply : k.Reply} {after : k.Container} (oneWay : k.OneWay)
    (answered : k.Answered container call reply after)
    (same : k.entries after = k.entries container) :
    k.entered call reply = [] ∧ k.left (k.entries container) call reply = [] := by
  have count := answered.balance.length_eq
  simp only [List.length_append, same] at count
  rcases oneWay (k.entries container) call reply with none | none
  · rw [none, List.length_nil] at count
    exact ⟨none, List.eq_nil_of_length_eq_zero (by omega)⟩
  · rw [none, List.length_nil] at count
    exact ⟨List.eq_nil_of_length_eq_zero (by omega), none⟩

/-- A call that leaves the contents as they are leaves the container as it is. -/
theorem Answered.unchanged {reply : k.Reply} {after : k.Container} (oneWay : k.OneWay)
    (answered : k.Answered container call reply after)
    (same : k.entries after = k.entries container) : after = container := by
  obtain ⟨nothing, nobody⟩ := answered.nothing oneWay same
  exact answered.same nothing nobody

end Kind

theorem Stock.tells_call {stock : Stock k.Container k.Entry} {call : k.Call} {reply : k.Reply}
    {container : k.Container} (oneWay : k.OneWay)
    (answered : k.Answered stock.container call reply container) :
    stock.Tells (stock.after container (k.entered call reply)
      (k.left (k.entries stock.container) call reply)) where
  le := by
    rw [changes_after]
    omega
  same_iff := by
    rw [changes_after]
    constructor
    · intro same
      obtain ⟨nothing, nobody⟩ := answered.nothing oneWay same
      rw [nothing, nobody]
      rfl
    · intro count
      have nothing := List.eq_nil_of_length_eq_zero (l := k.entered call reply) (by omega)
      have nobody := List.eq_nil_of_length_eq_zero
        (l := k.left (k.entries stock.container) call reply) (by omega)
      exact congrArg k.entries (answered.same nothing nobody)

theorem Stock.tells_removal {stock : Stock k.Container k.Entry} {container : k.Container}
    {place : Nat} {entry : k.Entry} (found : (k.entries stock.container)[place]? = some entry)
    (entries : k.entries container = (k.entries stock.container).eraseIdx place) :
    stock.Tells (stock.after container [] [entry]) where
  le := by
    rw [changes_after]
    omega
  same_iff := by
    obtain ⟨inside, _⟩ := List.getElem?_eq_some_iff.1 found
    have fewer := congrArg List.length entries
    rw [List.length_eraseIdx_of_lt inside] at fewer
    rw [changes_after]
    constructor
    · intro same
      have length : (k.entries container).length = (k.entries stock.container).length :=
        congrArg List.length same
      omega
    · intro count
      simp at count

namespace Shelf

variable {s : Shelf k} {op : Operation k} {i j : Nat} {stock : Stock k.Container k.Entry}
  {mark : Bookmark k.Container k.Entry}

/-- What an operation does to a shelf. -/
inductive Moves (s : Shelf k) : Operation k → Shelf k → Prop
  | still (op : Operation k) : Moves s op s
  | made (op : Operation k) (stock : Stock k.Container k.Entry) : Moves s op (s.addStock stock)
  | called {i : Nat} (call : k.Call) {stock after : Stock k.Container k.Entry}
      (here : s.stocks[i]? = some stock) (tells : stock.Tells after) :
      Moves s (.call i call) (s.setStock i after)
  | pointed {i : Nat} {stock : Stock k.Container k.Entry} (here : s.stocks[i]? = some stock)
      (cursor : Cursor) :
      Moves s (.cursor i) (s.addBookmark ⟨cursor, i, stock.changes, stock.container, none⟩)
  | copied {j : Nat} {mark : Bookmark k.Container k.Entry} (there : s.bookmarks[j]? = some mark) :
      Moves s (.copyCursor j) (s.addBookmark mark)
  | advanced (i : Nat) {j : Nat} {mark : Bookmark k.Container k.Entry}
      (there : s.bookmarks[j]? = some mark) (cursor : Cursor) (latest : Option (Nat × k.Entry)) :
      Moves s (.advance i j) (s.setBookmark j { mark with cursor := cursor, latest := latest })
  /-- The cursor was in step with its container, and is again. -/
  | taken {j : Nat} {mark : Bookmark k.Container k.Entry} {stock after : Stock k.Container k.Entry}
      (here : s.stocks[mark.home]? = some stock) (there : s.bookmarks[j]? = some mark)
      (fresh : mark.since = stock.changes) (tells : stock.Tells after) (cursor : Cursor) :
      Moves s (.removeAt mark.home j) ((s.setStock mark.home after).setBookmark j
        { mark with cursor := cursor, since := after.changes, seen := after.container })

theorem moves_call (law : k.Lawful) (oneWay : k.OneWay) (valid : s.Valid) {call : k.Call}
    (may : ∀ stock ∈ s.stocks[i]?, k.may stock.container call) :
    Moves s (.call i call) (s.call i call).2 := by
  unfold Shelf.call
  split
  · exact .still _
  · rename_i stock here
    have answered := law.answered stock.container call (valid.of_stock here).sound (may stock here)
    exact .called call here (Stock.tells_call oneWay answered)

theorem moves_removeAt (law : k.Lawful) (valid : s.Valid) (own : Own s (.removeAt i j)) :
    Moves s (.removeAt i j) (s.removeAt i j).2 := by
  unfold Shelf.removeAt
  split
  · exact .still _
  · rename_i stock here
    split
    · exact .still _
    · rename_i mark there
      obtain ⟨rfl, young⟩ := own stock here mark there
      have inStep := valid.seen_eq here there young
      rcases (valid.of_bookmark there).removeAt_cases law inStep with nothing |
        ⟨place, _, entry, after, c', _, removes, _, found, entries, _⟩
      · have unmoved := removeAt_of_nothing here there nothing
        simp only [Shelf.removeAt, here, there, nothing] at unmoved
        rw [nothing]
        simp only [(Prod.mk.inj unmoved).2]
        exact .still _
      · have fresh : mark.cursor.stamp = k.stamp stock.container := by
          by_contra stale
          rw [law.removeAt_stale stale] at removes
          cases removes
        have since := valid.since_eq here there young fresh
        have changes : stock.changes + 1 = (stock.after after [] [entry]).changes :=
          (stock.changes_after after [] [entry]).symm
        simp only [removes, changes]
        exact .taken here there since (Stock.tells_removal found entries) c'

/-- What an operation through cursors of its own does. -/
theorem moves_step (law : k.Lawful) (oneWay : k.OneWay) (valid : s.Valid) (own : Own s op) :
    Moves s op (s.step op).2 := by
  cases op with
  | create plan => exact .made _ _
  | copy i =>
    simp only [step, copy]
    split
    · exact .still _
    · exact .made _ _
  | call i call => exact moves_call law oneWay valid own
  | cursor i =>
    simp only [step, cursor]
    split
    · exact .still _
    · rename_i stock here
      exact .pointed here _
  | copyCursor j =>
    simp only [step, copyCursor]
    split
    · exact .still _
    · rename_i mark there
      exact .copied there
  | advance i j =>
    simp only [step, advance]
    split
    · exact .still _
    · split
      · exact .still _
      · rename_i mark there
        exact .advanced i there _ _
  | removeAt i j => exact moves_removeAt law valid own

/-- What stands in a list after one place was written. -/
theorem of_getElem?_set {β : Type} {l : List β} {n : Nat} {new b : β}
    (found : (l.set n new)[i]? = some b) : n = i ∧ b = new ∨ n ≠ i ∧ l[i]? = some b := by
  by_cases same : n = i
  · subst same
    obtain ⟨inside, rfl⟩ := List.getElem?_eq_some_iff.1 found
    exact .inl ⟨rfl, List.getElem_set_self inside⟩
  · rw [List.getElem?_set_ne same] at found
    exact .inr ⟨same, found⟩

/-- What stands in a list after one more came. -/
theorem of_getElem?_concat {β : Type} {l : List β} {new b : β}
    (found : (l ++ [new])[i]? = some b) : l[i]? = some b ∨ l[i]? = none ∧ b = new := by
  by_cases inside : i < l.length
  · rw [List.getElem?_append_left inside] at found
    exact .inl found
  · rw [List.getElem?_append_right (Nat.le_of_not_lt inside)] at found
    exact .inr ⟨List.getElem?_eq_none (Nat.le_of_not_lt inside),
      List.mem_singleton.1 (List.mem_of_getElem? found)⟩

/-- The entries of a container. -/
def contents (s : Shelf k) (i : Nat) : Option (List k.Entry) :=
  s.stocks[i]?.map fun stock => k.entries stock.container

end Shelf

/-! ### Cursors whose container was changed behind their back -/

namespace Shelf

/-- The cursor that an operation passes to a container. -/
def Operation.through? : Operation k → Option Nat
  | .create _ => none
  | .copy _ => none
  | .call _ _ => none
  | .cursor _ => none
  | .copyCursor _ => none
  | .advance _ j => some j
  | .removeAt _ j => some j

/-- How many entries a cursor has passed after an answer: one more if it yielded one, and one
less if that was taken out. -/
def Answer.passed (before : Nat) : Answer k → Nat
  | .yielded (some _) _ _ => before + 1
  | .removed (some _) _ _ => before - 1
  | .yielded none _ _ => before
  | .removed none _ _ => before
  | .nowhere => before
  | .done => before
  | .reply _ => before
  | .pointed _ _ => before
  | .noSlot _ => before

end Shelf

/-- A shelf, with a note of its cursors. -/
structure Watch (k : Kind) where
  shelf : Shelf k
  /-- The contents of the cursor's container have changed otherwise than by what was taken out
  through the cursor itself. -/
  disturbed : Nat → Prop
  /-- How many entries the cursor has yielded that were not taken out through it. -/
  passed : Nat → Nat

namespace Watch

open Custody.Shelf

def start : Watch k := ⟨Shelf.empty, fun _ => False, fun _ => 0⟩

/-- The operation changes container `home`, and does not take out through cursor `j`. -/
def Disturbs (s : Shelf k) (op : Operation k) (j home : Nat) : Prop :=
  (∀ i, op ≠ .removeAt i j) ∧ (s.step op).2.contents home ≠ s.contents home

/-- A new cursor is undisturbed and has passed nothing, and a copy is as its original. -/
def next (w : Watch k) (op : Operation k) : Watch k where
  shelf := (w.shelf.step op).2
  disturbed j :=
    match w.shelf.bookmarks[j]?, op with
    | some mark, op => w.disturbed j ∨ Disturbs w.shelf op j mark.home
    | none, .copyCursor original => w.disturbed original
    | none, _ => False
  passed j :=
    match w.shelf.bookmarks[j]?, op with
    | some _, op =>
      if op.through? = some j then (w.shelf.step op).1.passed (w.passed j) else w.passed j
    | none, .copyCursor original => w.passed original
    | none, _ => 0

/-- What is noted after operations. -/
def after (ops : List (Operation k)) : Watch k := ops.foldl next start

theorem shelf_foldl (w : Watch k) (ops : List (Operation k)) :
    (ops.foldl next w).shelf = (w.shelf.run ops).2 := by
  induction ops generalizing w with
  | nil => rfl
  | cons op rest ih => exact ih (w.next op)

/-- The count of changes tells the cursors that are noted. -/
def Faithful (w : Watch k) : Prop :=
  ∀ j mark stock, w.shelf.bookmarks[j]? = some mark → w.shelf.stocks[mark.home]? = some stock →
    (¬ w.disturbed j ↔ mark.since = stock.changes)

variable {w : Watch k} {op : Operation k} {j : Nat} {mark : Bookmark k.Container k.Entry}
  {stock stock' : Stock k.Container k.Entry}

theorem disturbed_next (there : w.shelf.bookmarks[j]? = some mark) :
    (w.next op).disturbed j ↔ w.disturbed j ∨ Disturbs w.shelf op j mark.home := by
  simp only [next, there]

/-- A cursor stays noted, and comes to be if its container changes and it did not do it. -/
theorem Faithful.keeps (h : w.Faithful) (valid : w.shelf.Valid)
    (there : w.shelf.bookmarks[j]? = some mark) (here : w.shelf.stocks[mark.home]? = some stock)
    (here' : (w.next op).shelf.stocks[mark.home]? = some stock') (tells : stock.Tells stock')
    (own : (∀ i, op ≠ .removeAt i j) ∨ stock'.changes = stock.changes) :
    ¬ (w.next op).disturbed j ↔ mark.since = stock'.changes := by
  have faithful := h j mark stock there here
  obtain ⟨home, found, since, _⟩ := (valid.of_bookmark there).home
  obtain rfl : stock = home := Option.some.inj (here.symm.trans found)
  have later := tells.le
  have disturbs : Disturbs w.shelf op j mark.home ↔
      (∀ i, op ≠ .removeAt i j) ∧ stock'.changes ≠ stock.changes := by
    have now : (w.shelf.step op).2.stocks[mark.home]? = some stock' := here'
    simp only [Disturbs, contents, here, now, Option.map_some, Ne, Option.some.injEq,
      tells.same_iff]
  rw [disturbed_next there, disturbs, not_or, faithful]
  by_cases same : stock'.changes = stock.changes
  · simp [same]
  · have others := own.resolve_right same
    constructor
    · intro both
      exact absurd ⟨others, same⟩ both.2
    · intro now
      omega

/-- One operation keeps the note faithful. -/
theorem Faithful.next (h : w.Faithful) (valid : w.shelf.Valid)
    (moves : Moves w.shelf op (w.shelf.step op).2) : (w.next op).Faithful := by
  intro j mark' stock' there' here'
  obtain ⟨s', hs⟩ : ∃ s', (w.next op).shelf = s' := ⟨_, rfl⟩
  have moves : Moves w.shelf op s' := hs ▸ moves
  have keeps : ∀ {mark stock}, w.shelf.bookmarks[j]? = some mark →
      w.shelf.stocks[mark.home]? = some stock → s'.stocks[mark.home]? = some stock' →
      stock.Tells stock' → ((∀ i, op ≠ .removeAt i j) ∨ stock'.changes = stock.changes) →
      (¬ (w.next op).disturbed j ↔ mark.since = stock'.changes) :=
    fun there here here' => h.keeps valid there here (hs ▸ here')
  rw [hs] at there' here'
  cases moves with
  | still => exact keeps there' here' here' (.refl stock') (.inr rfl)
  | made _ stock =>
    obtain ⟨home, found, _⟩ := (valid.of_bookmark there').home
    obtain ⟨inside, _⟩ := List.getElem?_eq_some_iff.1 found
    have same : w.shelf.stocks[mark'.home]? = some stock' := by
      simpa only [addStock, List.getElem?_append_left inside] using here'
    exact keeps there' same here' (.refl stock') (.inr rfl)
  | called call here tells =>
    rcases of_getElem?_set here' with ⟨rfl, rfl⟩ | ⟨_, same⟩
    · exact keeps there' here here' tells (.inl (by simp))
    · exact keeps there' same here' (.refl stock') (.inr rfl)
  | pointed here cursor =>
    rcases of_getElem?_concat there' with there | ⟨nobody, rfl⟩
    · exact keeps there here' here' (.refl stock') (.inr rfl)
    · obtain rfl := Option.some.inj (here.symm.trans here')
      simp [Watch.next, nobody]
  | copied original =>
    rcases of_getElem?_concat there' with there | ⟨nobody, rfl⟩
    · exact keeps there here' here' (.refl stock') (.inr rfl)
    · simpa only [Watch.next, nobody] using h _ _ stock' original here'
  | advanced i there cursor latest =>
    rcases of_getElem?_set there' with ⟨rfl, rfl⟩ | ⟨_, there⟩
    · exact (keeps there here' here' (.refl stock') (.inr rfl) :)
    · exact keeps there here' here' (.refl stock') (.inr rfl)
  | @taken n mark stock after here there fresh tells cursor =>
    rcases of_getElem?_set there' with ⟨rfl, rfl⟩ | ⟨other, there⟩
    · rcases of_getElem?_set here' with ⟨_, rfl⟩ | ⟨elsewhere, _⟩
      · rw [disturbed_next there]
        have undisturbed := (h n mark stock there here).2 fresh
        simp [undisturbed, Disturbs]
      · exact absurd rfl elsewhere
    · rcases of_getElem?_set here' with ⟨home, rfl⟩ | ⟨_, same⟩
      · exact keeps there (home ▸ here) here' tells (.inl (by simp [other]))
      · exact keeps there same here' (.refl stock') (.inr rfl)

/-- Operations keep the note faithful. -/
theorem Faithful.run (law : k.Lawful) (oneWay : k.OneWay) (h : w.Faithful) (valid : w.shelf.Valid)
    {ops : List (Operation k)} (own : Keeps Own w.shelf ops) :
    (ops.foldl Watch.next w).Faithful := by
  induction ops generalizing w with
  | nil => exact h
  | cons op rest ih =>
    have valid' := valid.step law (valid.inStep own.1.recognised)
    exact ih (h.next valid (moves_step law oneWay valid own.1)) valid' own.2

theorem faithful_after (law : k.Lawful) (oneWay : k.OneWay) {ops : List (Operation k)}
    (own : Keeps Own Shelf.empty ops) : (after ops).Faithful :=
  Faithful.run law oneWay (by simp [Faithful, start, Shelf.empty]) valid_empty own

end Watch

/-- The container takes the cursor for one that is in step with it and has passed `place` entries:
it yields what comes next, and what it yielded last can be taken out. -/
structure Kind.Honours (k : Kind) (container : k.Container)
    (mark : Bookmark k.Container k.Entry) (place : Nat) : Prop where
  advance : mark.cursor.isExhausted = false → ∃ entry c',
    k.advance container mark.cursor = (some entry, c') ∧
      (k.entries container)[place + mark.cursor.hasCurrent.toNat]? = some entry
  isExhausted : mark.cursor.isExhausted = true →
    (k.entries container).length = place + mark.cursor.hasCurrent.toNat
  removeAt : mark.cursor.hasCurrent = true → ∃ entry after c',
    k.removeAt? container mark.cursor = .ok (some entry, after, c') ∧
      mark.latest.map Prod.snd = some entry ∧ (k.entries container)[place]? = some entry ∧
      k.entries after = (k.entries container).eraseIdx place

/-- The cursor stands in what it was in step with, past so many entries. The last of them, if it
is still there, is the one that it yielded last. -/
def Bookmark.Passed (mark : Bookmark k.Container k.Entry) (count : Nat) : Prop :=
  ∃ place on ahead, k.Stands mark.seen mark.cursor place on ahead ∧ place + on.toNat = count ∧
    (on = true → (k.entries mark.seen)[place]? = mark.latest.map Prod.snd)

namespace Bookmark.Passed

variable {mark : Bookmark k.Container k.Entry} {container : k.Container} {count : Nat}

/-- An entry that is yielded has been passed. -/
theorem advance (law : k.Lawful) (passed : mark.Passed count)
    (inStep : mark.cursor.stamp = k.stamp container → container = mark.seen) (i : Nat)
    (current exhausted : Bool) :
    Bookmark.Passed (k := k) { mark with
      cursor := (k.advance container mark.cursor).2,
      latest := ((k.advance container mark.cursor).1.map (i, ·)).or mark.latest }
      ((Shelf.Answer.yielded (k.advance container mark.cursor).1 current exhausted).passed
        count) := by
  obtain ⟨place, on, ahead, stands, rfl, latest⟩ := passed
  rcases stands.advance_cases law inStep with refused |
    ⟨entry, c', rest, rfl, yields, found, stands'⟩
  · rw [refused]
    exact ⟨place, on, ahead, stands, rfl, latest⟩
  · rw [yields]
    exact ⟨_, true, rest, stands', rfl, fun _ => found⟩

/-- An entry that goes has not been passed. -/
theorem removeAt (law : k.Lawful) (passed : mark.Passed count)
    (inStep : mark.cursor.stamp = k.stamp container → container = mark.seen) :
    k.removeAt? container mark.cursor = .ok (none, container, mark.cursor) ∨
    ∃ entry after c', k.removeAt? container mark.cursor = .ok (some entry, after, c') ∧
      ∀ home since, Bookmark.Passed (k := k)
        { mark with cursor := c', home := home, since := since, seen := after } (count - 1) := by
  obtain ⟨place, on, ahead, stands, rfl, _⟩ := passed
  rcases stands.removeAt_cases law inStep with nothing |
    ⟨entry, after, c', rfl, rfl, removes, _, _, _, stands'⟩
  · exact .inl nothing
  · refine .inr ⟨entry, after, c', removes, fun _ _ => ⟨place, false, ahead, stands', rfl, ?_⟩⟩
    intro gap
    cases gap

/-- What a cursor was in step with honours it, from where it stands. -/
theorem honours (law : k.Lawful) (passed : mark.Passed count) :
    ∃ place, place + mark.cursor.hasCurrent.toNat = count ∧ k.Honours mark.seen mark place := by
  obtain ⟨place, on, ahead, stands, rfl, latest⟩ := passed
  rw [stands.hasCurrent]
  refine ⟨place, rfl, ?_, ?_, ?_⟩
  · intro more
    rw [stands.isExhausted, decide_eq_false_iff_not] at more
    obtain ⟨ahead, rfl⟩ := Nat.exists_eq_succ_of_ne_zero more
    obtain ⟨entry, c', yields, found, _⟩ := stands.advance law
    rw [stands.hasCurrent]
    exact ⟨entry, c', yields, found⟩
  · intro exhausted
    rw [stands.isExhausted, decide_eq_true_iff] at exhausted
    rw [stands.length_entries law, stands.hasCurrent, exhausted, Nat.add_zero]
  · intro current
    rw [stands.hasCurrent] at current
    subst current
    obtain ⟨entry, after, c', removes, found, entries, _⟩ := stands.removeAt law
    exact ⟨entry, after, c', removes, (latest rfl).symm.trans found, found, entries⟩

end Bookmark.Passed

namespace Watch

open Custody.Shelf

variable {w : Watch k} {op : Operation k} {j : Nat} {mark : Bookmark k.Container k.Entry}

/-- Where the cursors stand is as was noted. -/
def Counted (w : Watch k) : Prop :=
  ∀ j (mark : Bookmark k.Container k.Entry), w.shelf.bookmarks[j]? = some mark →
    mark.Passed (w.passed j)

theorem passed_next (there : w.shelf.bookmarks[j]? = some mark) :
    (w.next op).passed j =
      if op.through? = some j then (w.shelf.step op).1.passed (w.passed j) else w.passed j := by
  simp only [next, there]

/-- Where nothing is yielded or taken out through it, a cursor stays where it stands. -/
theorem Counted.keeps (h : w.Counted) (there : w.shelf.bookmarks[j]? = some mark)
    (still : op.through? = some j → (w.shelf.step op).1.passed (w.passed j) = w.passed j) :
    mark.Passed ((w.next op).passed j) := by
  have same : (w.next op).passed j = w.passed j := by
    rw [passed_next there]
    split
    · rename_i own
      exact still own
    · rfl
  rw [same]
  exact h j mark there

theorem Counted.cursor (law : k.Lawful) (h : w.Counted) (valid : w.shelf.Valid) (i : Nat) :
    (w.next (.cursor i)).Counted := by
  intro j mark' there'
  have cursor : (w.next (.cursor i)).shelf = (w.shelf.cursor i).2 := rfl
  rw [cursor] at there'
  unfold Shelf.cursor at there'
  split at there'
  · exact h.keeps there' (by simp [Operation.through?])
  · rename_i stock here
    rcases of_getElem?_concat there' with there | ⟨nobody, rfl⟩
    · exact h.keeps there (by simp [Operation.through?])
    · have stands := law.stands_cursor (valid.of_stock here).sound
      simp only [Watch.next, nobody]
      exact ⟨0, false, _, stands, rfl, by simp⟩

theorem Counted.copyCursor (h : w.Counted) (n : Nat) : (w.next (.copyCursor n)).Counted := by
  intro j mark' there'
  have copied : (w.next (.copyCursor n)).shelf = (w.shelf.copyCursor n).2 := rfl
  rw [copied] at there'
  unfold Shelf.copyCursor at there'
  split at there'
  · exact h.keeps there' (by simp [Operation.through?])
  · rename_i mark original
    rcases of_getElem?_concat there' with there | ⟨nobody, rfl⟩
    · exact h.keeps there (by simp [Operation.through?])
    · simp only [Watch.next, nobody]
      exact h n mark' original

theorem Counted.advance (law : k.Lawful) (h : w.Counted) {i n : Nat}
    (inStep : InStep w.shelf (.advance i n)) : (w.next (.advance i n)).Counted := by
  intro j mark' there'
  have advanced : (w.next (.advance i n)).shelf = (w.shelf.advance i n).2 := rfl
  rw [advanced] at there'
  unfold Shelf.advance at there'
  split at there'
  · rename_i nowhere
    exact h.keeps there' (by simp [Shelf.step, Shelf.advance, nowhere, Answer.passed])
  · rename_i stock here
    split at there'
    · rename_i nobody
      exact h.keeps there' (by simp [Shelf.step, Shelf.advance, here, nobody, Answer.passed])
    · rename_i mark there
      rcases of_getElem?_set there' with ⟨rfl, rfl⟩ | ⟨other, same⟩
      · have own : (Operation.advance i n : Operation k).through? = some n := rfl
        rw [passed_next there, if_pos own]
        simp only [Shelf.step, Shelf.advance, here, there]
        exact (h n mark there).advance law (inStep stock here mark there) i _ _
      · exact h.keeps same (by simp [Operation.through?, other])

theorem Counted.removeAt (law : k.Lawful) (h : w.Counted) {i n : Nat}
    (inStep : InStep w.shelf (.removeAt i n)) : (w.next (.removeAt i n)).Counted := by
  intro j mark' there'
  have taken : (w.next (.removeAt i n)).shelf = (w.shelf.removeAt i n).2 := rfl
  rw [taken] at there'
  cases here : w.shelf.stocks[i]? with
  | none =>
    simp only [Shelf.removeAt, here] at there'
    exact h.keeps there' (by simp [Shelf.step, Shelf.removeAt, here, Answer.passed])
  | some stock =>
    cases there : w.shelf.bookmarks[n]? with
    | none =>
      simp only [Shelf.removeAt, here, there] at there'
      exact h.keeps there' (by simp [Shelf.step, Shelf.removeAt, here, there, Answer.passed])
    | some mark =>
      rcases (h n mark there).removeAt law (inStep stock here mark there) with nothing |
        ⟨entry, after, c', removes, passed⟩
      · have unmoved := removeAt_of_nothing here there nothing
        rw [unmoved] at there'
        exact h.keeps there' (by simp [Shelf.step, unmoved, Answer.passed])
      · simp only [Shelf.removeAt, here, there, removes] at there'
        rcases of_getElem?_set there' with ⟨rfl, rfl⟩ | ⟨other, same⟩
        · have own : (Operation.removeAt i n : Operation k).through? = some n := rfl
          rw [passed_next there, if_pos own]
          simp only [Shelf.step, Shelf.removeAt, here, there, removes]
          exact passed _ _
        · exact h.keeps same (by simp [Operation.through?, other])

/-- One operation keeps the count. -/
theorem Counted.next (law : k.Lawful) (h : w.Counted) (valid : w.shelf.Valid)
    (inStep : InStep w.shelf op) : (w.next op).Counted := by
  cases op with
  | create plan => exact fun j mark there => h.keeps there (by simp [Operation.through?])
  | copy i =>
    have same : (w.shelf.copy i).2.bookmarks = w.shelf.bookmarks := by
      unfold copy
      split <;> rfl
    exact fun j mark there => h.keeps (same ▸ there) (by simp [Operation.through?])
  | call i call =>
    have same : (w.shelf.call i call).2.bookmarks = w.shelf.bookmarks := by
      unfold Shelf.call
      split <;> rfl
    exact fun j mark there => h.keeps (same ▸ there) (by simp [Operation.through?])
  | cursor i => exact h.cursor law valid i
  | copyCursor n => exact h.copyCursor n
  | advance i n => exact h.advance law inStep
  | removeAt i n => exact h.removeAt law inStep

/-- Operations keep the count. -/
theorem Counted.run (law : k.Lawful) (h : w.Counted) (valid : w.shelf.Valid)
    {ops : List (Operation k)} (inStep : Keeps InStep w.shelf ops) :
    (ops.foldl Watch.next w).Counted := by
  induction ops generalizing w with
  | nil => exact h
  | cons op rest ih => exact ih (h.next law valid inStep.1) (valid.step law inStep.1) inStep.2

theorem counted_after (law : k.Lawful) {ops : List (Operation k)}
    (inStep : Keeps InStep Shelf.empty ops) : (after ops).Counted :=
  Counted.run law (by simp [Counted, start, Shelf.empty]) valid_empty inStep

end Watch

namespace Shelf

/-- A container refuses just the cursors that are stale. As long as it has not changed 2^64 times
since the cursor was in step with it, it refuses the cursor if its contents have changed since
the cursor was taken, or copied from one that was not stale, otherwise than by what was taken out
through the cursor itself; and it honours the cursor if they have not, past as many entries as
the cursor has yielded and not taken out. A call that leaves the contents as they are leaves the
container as it is. -/
theorem stale_exactly {α σ : Type} [BEq α] {k : Kind}
    (bounded : k = Queue.kind α σ ∨ k = RankedQueue.kind α σ) {ops : List (Operation k)}
    (own : Keeps Own empty ops) :
    (Watch.after ops).shelf = (empty.run ops).2 ∧
    (∀ j, ∀ mark ∈ (empty.run ops).2.bookmarks[j]?,
      ∀ stock ∈ (empty.run ops).2.stocks[mark.home]?, stock.changes < mark.since + 2 ^ 64 →
        ((Watch.after ops).disturbed j → k.Refuses stock.container mark.cursor) ∧
        (¬ (Watch.after ops).disturbed j → ∃ place,
          place + mark.cursor.hasCurrent.toNat = (Watch.after ops).passed j ∧
          k.Honours stock.container mark place)) ∧
    ∀ stock ∈ (empty.run ops).2.stocks, ∀ call, k.may stock.container call →
      k.entries (k.answer stock.container call).2 = k.entries stock.container →
        (k.answer stock.container call).2 = stock.container := by
  obtain ⟨law, oneWay⟩ : k.Lawful ∧ k.OneWay := by
    rcases bounded with rfl | rfl
    · exact ⟨Queue.lawful, Queue.oneWay α σ⟩
    · exact ⟨RankedQueue.lawful, RankedQueue.oneWay α σ⟩
  have shelf : (Watch.after ops).shelf = (empty.run ops).2 := Watch.shelf_foldl _ ops
  have faithful := Watch.faithful_after law oneWay own
  have inStep := valid_empty.keeps_inStep law own.recognised
  have counted := Watch.counted_after law inStep
  have valid := valid_empty.run law inStep
  refine ⟨shelf, ?_, ?_⟩
  · intro j mark there stock here young
    have told := faithful j mark stock (by rwa [shelf]) (by rwa [shelf])
    constructor
    · intro disturbed
      apply law.refuses_stale
      intro fresh
      exact told.2 (valid.since_eq here there young fresh) disturbed
    · intro undisturbed
      obtain ⟨home, found, _, still⟩ := (valid.of_bookmark there).home
      obtain rfl : stock = home := Option.some.inj (Option.mem_def.1 here ▸ found)
      rw [still (told.1 undisturbed)]
      exact (counted j mark (by rwa [shelf])).honours law
  · intro stock mem call may same
    have answered := law.answered stock.container call (valid.stocks stock mem).sound may
    exact answered.unchanged oneWay same

/-- A cursor is copied, a push finds the queue full, a search finds nothing, and then the first
element goes through the cursor. -/
def aliased : List (Operation (Queue.kind Nat Unit)) :=
  [.create 2, .call 0 (.push 1), .call 0 (.push 2), .cursor 0, .advance 0 0, .copyCursor 0,
    .call 0 (.push 3), .call 0 (.erase 3), .removeAt 0 0]

theorem stale_exactly_aliased :
    ∃ stock mark copied, (empty.run aliased).2.stocks = [stock] ∧
      (empty.run aliased).2.bookmarks = [mark, copied] ∧
      (Queue.kind Nat Unit).Honours stock.container mark 0 ∧
      (Queue.kind Nat Unit).Refuses stock.container copied.cursor := by
  have own : Keeps Own empty aliased := by decide
  obtain ⟨_, cursors, _⟩ := stale_exactly (.inl rfl) own
  have faithful := Watch.faithful_after Queue.lawful (Queue.oneWay Nat Unit) own
  have undisturbed : ¬ (Watch.after aliased).disturbed 0 :=
    (faithful 0 _ _ rfl rfl).2 (by decide)
  have disturbed : (Watch.after aliased).disturbed 1 := by
    by_contra other
    exact absurd ((faithful 1 _ _ rfl rfl).1 other) (by decide)
  refine ⟨_, _, _, rfl, rfl, ?_, ?_⟩
  · obtain ⟨place, passed, honours⟩ := (cursors 0 _ rfl _ rfl (by decide)).2 undisturbed
    obtain rfl : place = 0 := passed
    exact honours
  · exact (cursors 1 _ rfl _ rfl (by decide)).1 disturbed

end Shelf

end Custody
