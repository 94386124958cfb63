import Custody.Proofs.Shelf.Valid

/-!
# Operations on a shelf

No operation does damage as long as no container mistakes a cursor, and none does if each
cursor is refused by all containers but the one that it was taken from.

* `Shelf.Valid.step`, `Shelf.Valid.run`: operations keep the invariant, if cursors are in step;
* `Shelf.Valid.step_answer`, `Shelf.Valid.run_answers`: and no slot is looked for in vain;
* `Shelf.Valid.inStep`, `Shelf.Valid.keeps_inStep`: cursors that no other container takes for its
  own are in step.
-/

namespace Custody

variable {k : Kind}

namespace Bookmark

variable {s : Shelf k} {mark : Bookmark k.Container k.Entry}

/-- A cursor that is advanced is refused, or stands where it stood, or is on the entry that it
yields. -/
theorem Valid.advance (law : k.Lawful) (valid : mark.Valid s) {container : k.Container}
    (inStep : mark.cursor.stamp = k.stamp container → container = mark.seen) (i : Nat) :
    Bookmark.Valid s { mark with
      cursor := (k.advance container mark.cursor).2,
      latest := ((k.advance container mark.cursor).1.map (i, ·)).or mark.latest } := by
  obtain ⟨place, on, ahead, stands, latest⟩ := valid.stands
  rcases stands.advance_cases law inStep with refused |
    ⟨entry, c', rest, rfl, yields, found, stands'⟩
  · rw [refused]
    exact valid
  · rw [yields]
    constructor
    · exact ⟨_, true, rest, stands', fun _ => found⟩
    · rw [← valid.stamp]
      exact stands'.stamp.trans stands.stamp.symm
    · exact valid.home

/-- What a container makes of a cursor that it does not mistake: nothing goes, or the entry
that the cursor yielded last goes from its place. -/
theorem Valid.removeAt_cases (law : k.Lawful) (valid : mark.Valid s) {container : k.Container}
    (inStep : mark.cursor.stamp = k.stamp container → container = mark.seen) :
    k.removeAt? container mark.cursor = .ok (none, container, mark.cursor) ∨
    ∃ place ahead entry after c', container = mark.seen ∧
      k.removeAt? container mark.cursor = .ok (some entry, after, c') ∧
      mark.latest.map Prod.snd = some entry ∧ (k.entries container)[place]? = some entry ∧
      k.entries after = (k.entries container).eraseIdx place ∧
      k.stamp after = k.stamp container + 1 ∧ k.Stands after c' place false ahead := by
  obtain ⟨place, on, ahead, stands, latest⟩ := valid.stands
  rcases stands.removeAt_cases law inStep with nothing |
    ⟨entry, after, c', rfl, rfl, removes, found, entries, stamp, stands'⟩
  · exact .inl nothing
  · have yielded : mark.latest.map Prod.snd = some entry := (latest rfl).symm.trans found
    exact .inr ⟨place, ahead, entry, after, c', rfl, removes, yielded, found, entries, stamp,
      stands'⟩

end Bookmark

namespace Shelf

variable {s : Shelf k} {i j : Nat}

namespace Valid

theorem create (law : k.Lawful) (h : s.Valid) (plan : k.Plan) :
    (s.addStock ⟨k.make plan, [], []⟩).Valid := by
  apply h.addStock
  constructor
  · exact law.sound_make plan
  · exact law.stamp_make plan
  · rw [law.entries_make]
    exact .nil

theorem copy (h : s.Valid) : (s.copy i).2.Valid := by
  unfold Shelf.copy
  split
  · exact h
  · rename_i stock here
    exact h.addStock (h.of_stock here)

theorem call (law : k.Lawful) (h : s.Valid) {call : k.Call}
    (may : ∀ stock ∈ s.stocks[i]?, k.may stock.container call) : (s.call i call).2.Valid := by
  unfold Shelf.call
  split
  · exact h
  · rename_i stock here
    have valid := h.of_stock here
    have answered := law.answered stock.container call valid.sound (may stock here)
    exact h.setStock here (stock.onward_after answered.same) (valid.answered answered)

theorem cursor (law : k.Lawful) (h : s.Valid) : (s.cursor i).2.Valid := by
  unfold Shelf.cursor
  split
  · exact h
  · rename_i stock here
    have valid := h.of_stock here
    have stands := law.stands_cursor valid.sound
    apply h.addBookmark
    constructor
    · exact ⟨0, false, _, stands, nofun⟩
    · exact stands.stamp.trans valid.stamp
    · exact ⟨stock, here, Nat.le_refl _, fun _ => rfl⟩

theorem copyCursor (h : s.Valid) : (s.copyCursor j).2.Valid := by
  unfold Shelf.copyCursor
  split
  · exact h
  · rename_i mark there
    exact h.addBookmark (h.of_bookmark there)

theorem advance (law : k.Lawful) (h : s.Valid) (inStep : InStep s (.advance i j)) :
    (s.advance i j).2.Valid := by
  unfold Shelf.advance
  split
  · exact h
  · rename_i stock here
    split
    · exact h
    · rename_i mark there
      exact h.setBookmark ((h.of_bookmark there).advance law (inStep stock here mark there) i)

theorem removeAt (law : k.Lawful) (h : s.Valid) (inStep : InStep s (.removeAt i j)) :
    (s.removeAt i j).2.Valid := by
  unfold Shelf.removeAt
  split
  · exact h
  · rename_i stock here
    have valid := h.of_stock here
    split
    · exact h
    · rename_i mark there
      have marked := h.of_bookmark there
      rcases marked.removeAt_cases law (inStep stock here mark there) with removes |
        ⟨place, ahead, entry, after, c', _, removes, yielded, found, entries, stamp, stands⟩
      · rw [removes]
        exact (h.setStock here (.refl stock) valid).setBookmark
          ((onward_setStock here (.refl stock)).bookmark_valid marked)
      · rw [removes]
        have onward : stock.Onward (stock.after after [] [entry]) :=
          stock.onward_after (fun _ none => absurd none (by simp))
        have removed := valid.removed stands.sound stamp found entries
        obtain ⟨inside, _⟩ := List.getElem?_eq_some_iff.1 here
        apply (h.setStock here onward removed).setBookmark
        constructor
        · exact ⟨place, false, ahead, stands, nofun⟩
        · rw [stands.stamp, stamp, valid.stamp, UInt64.ofNat_add]
          rfl
        · have changes := stock.changes_after after [] [entry]
          exact ⟨stock.after after [] [entry], by simp [Shelf.setStock, inside],
            Nat.le_of_eq changes.symm, fun _ => rfl⟩

/-- Operations keep the invariant as long as no container mistakes a cursor. -/
theorem step (law : k.Lawful) (h : s.Valid) {op : Operation k} (inStep : InStep s op) :
    (s.step op).2.Valid := by
  cases op with
  | create plan => exact h.create law plan
  | copy i => exact h.copy
  | call i call => exact h.call law inStep
  | cursor i => exact h.cursor law
  | copyCursor j => exact h.copyCursor
  | advance i j => exact h.advance law inStep
  | removeAt i j => exact h.removeAt law inStep

theorem run (law : k.Lawful) (h : s.Valid) {ops : List (Operation k)}
    (inStep : Keeps InStep s ops) : (s.run ops).2.Valid := by
  induction ops generalizing s with
  | nil => exact h
  | cons op rest ih => exact ih (h.step law inStep.1) inStep.2

/-- No operation looks for a slot that is not there. -/
theorem step_answer (law : k.Lawful) (h : s.Valid) {op : Operation k} (inStep : InStep s op)
    (missing : NoSuchSlot) : (s.step op).1 ≠ .noSlot missing := by
  cases op with
  | create plan => simp [Shelf.step]
  | copy i =>
    simp only [Shelf.step, Shelf.copy]
    split <;> simp
  | call i call =>
    simp only [Shelf.step, Shelf.call]
    split <;> simp
  | cursor i =>
    simp only [Shelf.step, Shelf.cursor]
    split <;> simp
  | copyCursor j =>
    simp only [Shelf.step, Shelf.copyCursor]
    split <;> simp
  | advance i j =>
    simp only [Shelf.step, Shelf.advance]
    split
    · simp
    · split <;> simp
  | removeAt i j =>
    simp only [Shelf.step, Shelf.removeAt]
    split
    · simp
    · rename_i stock here
      split
      · simp
      · rename_i mark there
        have cases := (h.of_bookmark there).removeAt_cases law (inStep stock here mark there)
        rcases cases with removes | ⟨_, _, _, _, _, _, removes, _⟩
        · simp [removes]
        · simp [removes]

theorem run_answers (law : k.Lawful) (h : s.Valid) {ops : List (Operation k)}
    (inStep : Keeps InStep s ops) (missing : NoSuchSlot) : .noSlot missing ∉ (s.run ops).1 := by
  induction ops generalizing s with
  | nil => simp [Shelf.run]
  | cons op rest ih =>
    intro mem
    rcases List.mem_cons.1 mem with now | later
    · exact h.step_answer law inStep.1 missing now.symm
    · exact ih (h.step law inStep.1) inStep.2 later

/-- Before a container has changed 2^64 times, its stamp tells whether it has changed. -/
theorem since_eq (h : s.Valid) {stock : Stock k.Container k.Entry}
    {mark : Bookmark k.Container k.Entry} (here : s.stocks[mark.home]? = some stock)
    (there : s.bookmarks[j]? = some mark) (young : stock.changes < mark.since + 2 ^ 64)
    (fresh : mark.cursor.stamp = k.stamp stock.container) : mark.since = stock.changes := by
  obtain ⟨home, here', since, _⟩ := (h.of_bookmark there).home
  obtain rfl : stock = home := Option.some.inj (here.symm.trans here')
  rw [(h.of_bookmark there).stamp, (h.of_stock here).stamp] at fresh
  have same := congrArg UInt64.toNat fresh
  simp only [UInt64.toNat_ofNat'] at same
  omega

/-- Before then, a container that still has the stamp is as the cursor knows it. -/
theorem seen_eq (h : s.Valid) {stock : Stock k.Container k.Entry}
    {mark : Bookmark k.Container k.Entry} (here : s.stocks[mark.home]? = some stock)
    (there : s.bookmarks[j]? = some mark) (young : stock.changes < mark.since + 2 ^ 64)
    (fresh : mark.cursor.stamp = k.stamp stock.container) : stock.container = mark.seen := by
  have since := h.since_eq here there young fresh
  obtain ⟨home, here', _, still⟩ := (h.of_bookmark there).home
  obtain rfl : stock = home := Option.some.inj (here.symm.trans here')
  exact still since

/-- Cursors that no other container takes for its own are in step. -/
theorem inStep (h : s.Valid) {op : Operation k} (known : Recognised s op) : InStep s op := by
  have passed : ∀ i j, s.Meets i j (fun stock mark => mark.cursor.stamp = k.stamp stock.container →
        mark.home = i ∧ stock.changes < mark.since + 2 ^ 64) →
      s.Meets i j (fun stock mark =>
        mark.cursor.stamp = k.stamp stock.container → stock.container = mark.seen) := by
    intro i j known stock here mark there fresh
    obtain ⟨rfl, young⟩ := known stock here mark there fresh
    exact h.seen_eq here there young fresh
  cases op with
  | call i call => exact known
  | advance i j => exact passed i j known
  | removeAt i j => exact passed i j known
  | create | copy | cursor | copyCursor => trivial

theorem keeps_inStep (law : k.Lawful) (h : s.Valid) {ops : List (Operation k)}
    (known : Keeps Recognised s ops) : Keeps InStep s ops := by
  induction ops generalizing s with
  | nil => trivial
  | cons op rest ih =>
    have now := h.inStep known.1
    exact ⟨now, ih (h.step law now) known.2⟩

end Valid

end Shelf

end Custody
