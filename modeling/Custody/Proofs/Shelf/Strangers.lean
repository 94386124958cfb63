import Custody.Proofs.Ring.Cycle
import Custody.Proofs.Shelf.Queues
import Custody.Proofs.Shelf.RankedQueues

/-!
# Cursors of other containers

A container knows its cursors by their stamp alone. Where a stamp is not shared by chance, or by
copies that went different ways, no cursor does damage, to whichever container it is passed.

* `Shelf.AtHome`: what cursors yielded last they yielded from the container they belong to;
* `Shelf.cursors_do_no_damage`: no operations do damage as long as no container mistakes a cursor;
* `Shelf.stranger_damages`: a container that mistakes a cursor may be damaged;
* `Shelf.overdue_mistaken`: it may mistake even one of its own, when it has changed as often as
  there are stamps.
-/

namespace Custody

namespace Shelf

variable {k : Kind} {s : Shelf k} {i j : Nat}

/-- What the cursors yielded last is from the containers that they belong to. -/
def AtHome (s : Shelf k) : Prop :=
  ∀ mark ∈ s.bookmarks, ∀ latest ∈ mark.latest, latest.1 = mark.home

theorem AtHome.addBookmark (h : s.AtHome) {mark : Bookmark k.Container k.Entry}
    (home : ∀ latest ∈ mark.latest, latest.1 = mark.home) : (s.addBookmark mark).AtHome := by
  intro other mem
  rcases List.mem_append.1 mem with mem | mem
  · exact h other mem
  · rwa [List.mem_singleton.1 mem]

theorem AtHome.setBookmark (h : s.AtHome) {mark : Bookmark k.Container k.Entry}
    (home : ∀ latest ∈ mark.latest, latest.1 = mark.home) : (s.setBookmark j mark).AtHome := by
  intro other mem
  rcases List.mem_or_eq_of_mem_set mem with mem | rfl
  · exact h other mem
  · exact home

theorem AtHome.step (law : k.Lawful) (h : s.AtHome) {op : Operation k}
    (known : Recognised s op) : (s.step op).2.AtHome := by
  cases op with
  | create plan => exact h
  | copy i =>
    simp only [Shelf.step, copy]
    split <;> exact h
  | call i call =>
    simp only [Shelf.step, Shelf.call]
    split <;> exact h
  | cursor i =>
    simp only [Shelf.step, cursor]
    split
    · exact h
    · exact h.addBookmark (by simp)
  | copyCursor j =>
    simp only [Shelf.step, copyCursor]
    split
    · exact h
    · rename_i mark there
      exact h.addBookmark (h mark (List.mem_of_getElem? there))
  | advance i j =>
    simp only [Shelf.step, Shelf.advance]
    split
    · exact h
    · rename_i stock here
      split
      · exact h
      · rename_i mark there
        have before := h mark (List.mem_of_getElem? there)
        apply h.setBookmark
        intro latest mem
        change latest ∈ ((k.advance stock.container mark.cursor).1.map (i, ·)).or mark.latest at mem
        -- Only a container with the stamp yields anything, and that is the home.
        by_cases fresh : mark.cursor.stamp = k.stamp stock.container
        · obtain ⟨rfl, _⟩ := known stock here mark there fresh
          cases yields : (k.advance stock.container mark.cursor).1 with
          | none =>
            rw [yields] at mem
            exact before latest mem
          | some entry =>
            rw [yields] at mem
            obtain rfl := Option.some.inj mem
            rfl
        · rw [law.advance_stale fresh] at mem
          exact before latest mem
  | removeAt i j =>
    simp only [Shelf.step, Shelf.removeAt]
    split
    · exact h
    · rename_i stock here
      split
      · exact h
      · rename_i mark there
        have before := h mark (List.mem_of_getElem? there)
        split
        · exact h
        · exact AtHome.setBookmark h before
        · rename_i entry after c' removes
          have fresh : mark.cursor.stamp = k.stamp stock.container := by
            by_contra stale
            rw [law.removeAt_stale stale] at removes
            cases removes
          obtain ⟨rfl, _⟩ := known stock here mark there fresh
          exact AtHome.setBookmark h before

theorem AtHome.run (law : k.Lawful) (h : s.AtHome) {ops : List (Operation k)}
    (known : Keeps Recognised s ops) : (s.run ops).2.AtHome := by
  induction ops generalizing s with
  | nil => exact h
  | cons op rest ih => exact ih (h.step law known.1) known.2

/-- No operations do damage as long as no container mistakes a cursor for one that is in step
with it. Where each cursor is known at most to the container that it was taken from, every other
container refuses it, and what that one takes out through it is what it yielded last. -/
theorem cursors_do_no_damage {α σ : Type} [BEq α] {k : Kind}
    (bounded : k = Queue.kind α σ ∨ k = RankedQueue.kind α σ) (ops : List (Operation k)) :
    (Keeps InStep empty ops →
      (∀ missing, .noSlot missing ∉ (empty.run ops).1) ∧
      ∀ stock ∈ (empty.run ops).2.stocks, (k.ring stock.container).Whole) ∧
    (Keeps Recognised empty ops → Keeps InStep empty ops ∧
      ∀ i j, Recognised (empty.run ops).2 (.removeAt i j) →
        (empty.run ops).2.Meets i j fun stock mark =>
          (mark.home ≠ i → k.Refuses stock.container mark.cursor) ∧
          (k.removeAt? stock.container mark.cursor = .ok (none, stock.container, mark.cursor) ∨
          ∃ place entry after c',
            k.removeAt? stock.container mark.cursor = .ok (some entry, after, c') ∧
            mark.latest = some (i, entry) ∧ (k.entries stock.container)[place]? = some entry ∧
            k.entries after = (k.entries stock.container).eraseIdx place)) := by
  have law : k.Lawful := by
    rcases bounded with rfl | rfl
    · exact Queue.lawful
    · exact RankedQueue.lawful
  constructor
  · intro inStep
    have valid := valid_empty.run law inStep
    refine ⟨valid_empty.run_answers law inStep, ?_⟩
    intro stock mem
    exact (valid.stocks stock mem).sound.whole
  · intro known
    have inStep := valid_empty.keeps_inStep law known
    have valid := valid_empty.run law inStep
    have atHome : AtHome (empty.run ops).2 := AtHome.run law (by simp [AtHome, empty]) known
    refine ⟨inStep, ?_⟩
    intro i j now stock here mark there
    have fresh := now stock here mark there
    constructor
    · intro stranger
      exact law.refuses_stale fun stamp => stranger (fresh stamp).1
    · have marked := valid.of_bookmark there
      rcases marked.removeAt_cases law (valid.inStep now stock here mark there) with nothing |
        ⟨place, ahead, entry, after, c', _, removes, yielded, found, entries, stamp, stands⟩
      · exact .inl nothing
      · obtain ⟨⟨source, _⟩, latest, rfl⟩ := Option.map_eq_some_iff.1 yielded
        obtain ⟨home, _⟩ : mark.home = i ∧ _ := by
          apply fresh
          by_contra stale
          rw [law.removeAt_stale stale] at removes
          cases removes
        have here : source = mark.home := atHome mark (List.mem_of_getElem? there) _ latest
        rw [here, home] at latest
        exact .inr ⟨place, _, after, c', removes, latest, found, entries⟩

/-- A cursor is on the first element of a queue, and was passed to a copy that has changed. -/
def visits : List (Operation (Queue.kind Nat Unit)) :=
  [.create 2, .call 0 (.push 1), .call 0 (.push 2), .copy 0, .call 1 .pull, .cursor 0,
    .advance 0 0, .advance 1 0, .removeAt 1 0]

theorem cursors_do_no_damage_visits :
    (∀ stock ∈ (empty.run visits).2.stocks, stock.container.ring.Whole) ∧
    ∃ home copied mark, (empty.run visits).2.stocks = [home, copied] ∧
      (empty.run visits).2.bookmarks = [mark] ∧ mark.latest = some (0, 1) ∧
      (Queue.kind Nat Unit).Refuses copied.container mark.cursor ∧
      ∃ after c', home.container.removeAt? mark.cursor = .ok (some 1, after, c') := by
  obtain ⟨sound, known⟩ := cursors_do_no_damage (.inl rfl) visits
  obtain ⟨inStep, faithful⟩ := known (by decide)
  obtain ⟨refuses, _⟩ := faithful 1 0 (by decide) _ rfl _ rfl
  obtain ⟨_, nothing | ⟨_, entry, after, c', removes, latest, _⟩⟩ :=
    faithful 0 0 (by decide) _ rfl _ rfl
  · have taken := congrArg (fun result => result.toOption.bind Prod.fst) nothing
    cases taken
  · obtain rfl : 1 = entry := congrArg Prod.snd (Option.some.inj latest)
    exact ⟨(sound inStep).2, _, _, _, rfl, rfl, latest, refuses (by decide), after, c', removes⟩

/-- A queue and its copy each lose an element, another one each. A cursor of the one is then
passed to the other. -/
def strayed : List (Operation (Queue.kind Nat Unit)) :=
  [.create 4, .call 0 (.push 1), .call 0 (.push 2), .call 0 (.push 3), .call 0 (.push 4),
    .copy 0, .call 0 .pull, .call 1 (.erase 2), .cursor 0, .advance 0 0, .advance 0 0,
    .call 1 .snapshot, .removeAt 1 0, .call 1 .snapshot, .call 1 .measure]

/-- A queue of one slot and one of more have changed equally often. -/
def confined : List (Operation (Queue.kind Nat Unit)) :=
  [.create 2, .call 0 (.push 1), .call 0 (.push 2), .cursor 0, .advance 0 0, .advance 0 0,
    .create 1, .call 1 (.push 5), .call 1 .pull, .removeAt 1 0]

/-- A queue that mistakes a cursor gives an element that the cursor did not yield from it, loses
another one, and its slots are no longer one cycle; or it looks for a slot that it does not
have. -/
theorem stranger_damages :
    (empty.run strayed).1.drop 9 =
      [.yielded (some 2) true false, .yielded (some 3) true false, .reply (.listed [1, 3, 4]),
        .removed (some 3) false false, .reply (.listed [1]),
        .reply (.measured 2 2 4 false false)] ∧
    (∃ stock, (empty.run strayed).2.stocks[1]? = some stock ∧ ¬ stock.container.ring.Whole) ∧
    .noSlot ⟨1, 1⟩ ∈ (empty.run confined).1 := by
  refine ⟨rfl, ⟨_, rfl, ?_⟩, ?_⟩
  · intro whole
    exact absurd whole.walked.1 (by decide)
  · exact List.mem_of_getElem? (i := 9) rfl

/-! ### Stamps that come round -/

/-- A queue of two slots, both in use. -/
def full (first second : Nat) (stamp : UInt64) : Queue Nat :=
  ⟨⟨#[⟨some first, (), 1⟩, ⟨some second, (), 0⟩], 0, 1, 2, stamp⟩⟩

/-- The cursor of such a queue that has yielded both elements. -/
def spent : Bookmark (Queue Nat) Nat := ⟨⟨some 0, some 1, none, 2⟩, 0, 2, full 1 2 2, some (0, 2)⟩

/-- Both elements of the queue make room for others. -/
def turn (n : Nat) : List (Operation (Queue.kind Nat Unit)) :=
  [.call 0 .pull, .call 0 (.push (2 * n + 3)), .call 0 .pull, .call 0 (.push (2 * n + 4))]

/-- A cursor has yielded both elements of a queue, which then makes so many turns. -/
def turns : Nat → List (Operation (Queue.kind Nat Unit))
  | 0 => [.create 2, .call 0 (.push 1), .call 0 (.push 2), .cursor 0, .advance 0 0, .advance 0 0]
  | n + 1 => turns n ++ turn n

/-- A turn leaves the slots as they are linked, and the stamp four changes further. -/
theorem run_turn (n first second : Nat) (stamp : UInt64) (entered left : List Nat)
    (marks : List (Bookmark (Queue Nat) Nat)) :
    let s : Shelf (Queue.kind Nat Unit) := ⟨[⟨full first second stamp, entered, left⟩], marks⟩
    ∃ entered' left', (s.run (turn n)).2 =
      ⟨[⟨full (2 * n + 3) (2 * n + 4) (stamp + 1 + 1 + 1 + 1), entered', left'⟩], marks⟩ ∧
    entered'.length + left'.length = entered.length + left.length + 4 := by
  refine ⟨entered ++ [] ++ [2 * n + 3] ++ [] ++ [2 * n + 4],
    left ++ [first] ++ [] ++ [second] ++ [], rfl, ?_⟩
  simp only [List.length_append, List.length_cons, List.length_nil]
  omega

theorem run_turns (n : Nat) : ∃ entered left, (empty.run (turns n)).2 =
      ⟨[⟨full (2 * n + 1) (2 * n + 2) (2 + UInt64.ofNat (4 * n)), entered, left⟩], [spent]⟩ ∧
    entered.length + left.length = 2 + 4 * n := by
  induction n with
  | zero => exact ⟨[1, 2], [], rfl, rfl⟩
  | succ n ih =>
    obtain ⟨entered, left, runs, count⟩ := ih
    obtain ⟨entered', left', turned, count'⟩ :=
      run_turn n (2 * n + 1) (2 * n + 2) (2 + UInt64.ofNat (4 * n)) entered left [spent]
    have stamp : 2 + UInt64.ofNat (4 * n) + 1 + 1 + 1 + 1 = 2 + UInt64.ofNat (4 * (n + 1)) := by
      rw [Nat.mul_succ, UInt64.ofNat_add, ← UInt64.add_assoc]
      simp only [UInt64.add_assoc]
      rfl
    rw [stamp] at turned
    refine ⟨entered', left', ?_, by omega⟩
    rw [turns, run_append, runs]
    exact turned

theorem turns_kept (n : Nat) :
    Keeps (Cares fun i _ mark => mark.home = i) empty (turns n) := by
  induction n with
  | zero => decide
  | succ n ih =>
    refine keeps_append.2 ⟨ih, ?_⟩
    simp [turn, Keeps, Cares]

/-- Without the bound on the changes a container may mistake a cursor of its own. When it has
changed as often as there are stamps, it takes out through the cursor what that never yielded. -/
theorem overdue_mistaken :
    ∃ (ops : List (Operation (Queue.kind Nat Unit))) (stock : Stock (Queue Nat) Nat)
      (mark : Bookmark (Queue Nat) Nat),
      Keeps (Cares fun i _ mark => mark.home = i) empty (ops ++ [.removeAt 0 0]) ∧
      (empty.run ops).2 = ⟨[stock], [mark]⟩ ∧ stock.changes = mark.since + 2 ^ 64 ∧
      mark.latest = some (0, 2) ∧ 2 ∉ stock.container.toList ∧
      ∃ entry after c', stock.container.removeAt? mark.cursor = .ok (some entry, after, c') := by
  obtain ⟨n, round⟩ : ∃ n, 4 * n = 2 ^ 64 := ⟨2 ^ 62, rfl⟩
  obtain ⟨entered, left, runs, count⟩ := run_turns n
  have stamp : 2 + UInt64.ofNat (2 ^ 64) = 2 := rfl
  rw [round, stamp] at runs
  rw [round] at count
  refine ⟨turns n, _, spent, keeps_append.2 ⟨turns_kept n, ?_⟩, runs, count, rfl, ?_, _, _, _, rfl⟩
  · rw [runs]
    simp [Keeps, Cares, Meets, spent]
  · show 2 ∉ [2 * n + 1, 2 * n + 2]
    simp only [List.mem_cons, List.not_mem_nil, or_false]
    omega

end Shelf

end Custody
