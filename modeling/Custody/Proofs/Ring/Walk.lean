import Custody.Proofs.Ring.Cursor

/-!
# Walks through a ring

What a cursor takes out, a search that ends there would take out, and a whole walk sorts the
entries by the answers of its test.

* `Ring.Stands.removeFirst_eq`: the search leaves the ring slot for slot as the cursor does;
* `Ring.sift`: a list sorted by the answers of a test;
* `Ring.Sifted.keep`, `Ring.Sifted.take`: one step of a walk;
* `Ring.walkFor_eq`, `Ring.walk_eq`: what a walk sees, takes out and leaves.
-/

namespace Custody

namespace Ring

variable {κ α σ : Type} {r : Ring κ α} {c : Cursor} {passed ahead free : List Nat}
  {on? : Option Nat} {i : Nat}

/-- A search that ends where the cursor is takes out the same entry and leaves the same ring. -/
theorem Stands.removeFirst_eq (h : r.Stands c passed (some i) ahead free)
    {test : κ → α → σ → Bool × σ} {s s' : σ}
    (hit : search test r.entries s = (some passed.length, s')) :
    ∃ entry, r.entryAt? i = some entry ∧
      r.removeFirst test s = (some (entry, r.dropLinked passed.getLast? i), s') := by
  have laid : r.Laid (passed ++ i :: ahead) free := by simpa using h.laid
  have found := locate_eq laid test s
  simp only [hit] at found
  obtain ⟨front, stop, back, split, length, locate⟩ := found
  obtain ⟨rfl, rest⟩ := List.append_inj split length.symm
  obtain ⟨rfl, rfl⟩ := List.cons.inj rest
  obtain ⟨entry, hentry⟩ := Option.isSome_iff_exists.1 (laid.held i (by simp))
  exact ⟨entry, hentry, by simp [removeFirst, locate, unlink?, linked?_eq laid, hentry]⟩

/-- The elements that the test asks for, those that it does not ask for, and the state of the
test behind them. -/
def sift {ε : Type} (test : ε → σ → Bool × σ) : List ε → σ → List ε × List ε × σ
  | [], s => ([], [], s)
  | first :: rest, s =>
    match test first s with
    | (true, s) =>
      let (taken, kept, s) := sift test rest s
      (first :: taken, kept, s)
    | (false, s) =>
      let (taken, kept, s) := sift test rest s
      (taken, first :: kept, s)

/-- A test without state sorts the elements that it holds of from the others. -/
theorem sift_pure {ε : Type} (p : ε → Bool) (elements : List ε) :
    sift (fun element (_ : Unit) => (p element, ())) elements () =
      (elements.filter p, elements.filter (!p ·), ()) := by
  induction elements with
  | nil => rfl
  | cons first rest ih =>
    rw [sift]
    cases hp : p first with
    | true => simp [ih, hp]
    | false => simp [ih, hp]

/-- What a walk comes to that has some entries behind it and others ahead. -/
structure Sifted (test : κ × α → σ → Bool × σ) (behind others : List (κ × α)) (s : σ)
    (w : Walk (Ring κ α) (κ × α) σ) : Prop where
  seen : w.seen = others
  removed : w.removed = (sift test others s).1.map some
  left : w.container.entries = behind ++ (sift test others s).2.1
  state : w.state = (sift test others s).2.2
  isExhausted : w.cursor.isExhausted = true

namespace Sifted

variable {test : κ × α → σ → Bool × σ} {behind others : List (κ × α)} {entry : κ × α} {s t : σ}
  {w : Walk (Ring κ α) (κ × α) σ}

/-- The first entry ahead stays. -/
theorem keep (answer : test entry s = (false, t)) (h : Sifted test (behind ++ [entry]) others t w) :
    Sifted test behind (entry :: others) s { w with seen := entry :: w.seen } where
  seen := by simp [h.seen]
  removed := by simp [sift, answer, h.removed]
  left := by simp [sift, answer, h.left]
  state := by simp [sift, answer, h.state]
  isExhausted := h.isExhausted

/-- The first entry ahead goes. -/
theorem take (answer : test entry s = (true, t)) (h : Sifted test behind others t w) :
    Sifted test behind (entry :: others) s
      { w with seen := entry :: w.seen, removed := some entry :: w.removed } where
  seen := by simp [h.seen]
  removed := by simp [sift, answer, h.removed]
  left := by simp [sift, answer, h.left]
  state := by simp [sift, answer, h.state]
  isExhausted := h.isExhausted

end Sifted

/-- A walk with steps enough sees what is ahead, takes out what its test asks for and leaves
the rest. -/
theorem walkFor_eq (test : α → σ → Bool × σ) {n : Nat} {behind others : List (κ × α)}
    (h : r.Stands c passed on? ahead free) (enough : ahead.length < n)
    (split : r.entries = behind ++ others)
    (place : behind.length = (passed ++ on?.toList).length) (s : σ) :
    ∃ w, walkFor test n r c s = .ok w ∧
      Sifted (fun entry => test entry.2) behind others s w := by
  have count : others.length = ahead.length := by
    have size := h.laid.size
    have length := congrArg List.length split
    simp only [length_entries h.sound, size, List.length_append] at length place
    omega
  induction ahead generalizing n r c passed on? free behind others s with
  | nil =>
    obtain ⟨n, rfl⟩ := Nat.exists_eq_add_of_lt enough
    obtain rfl := List.eq_nil_of_length_eq_zero count
    refine ⟨⟨[], [], r, c, s⟩, ?_, rfl, rfl, split, rfl, ?_⟩
    · simp [walkFor, h.advance_end]
    · simp [Cursor.isExhausted, h.upcoming]
  | cons i ahead ih =>
    obtain ⟨n, rfl⟩ : ∃ m, n = m + 1 := ⟨n - 1, by omega⟩
    have fewer : ahead.length < n := Nat.lt_of_succ_lt_succ enough
    cases others with
    | nil => cases count
    | cons first others =>
      have count : others.length = ahead.length := Nat.succ.inj count
      obtain ⟨entry, c', yields, _, found, stands⟩ := h.advance
      obtain rfl : first = entry := by simpa [split, ← place] using found
      rcases answer : test first.2 s with ⟨_ | _, t⟩
      · have further : (behind ++ [first]).length =
            (passed ++ on?.toList ++ (some i).toList).length := by
          simp [place, Nat.add_assoc]
        obtain ⟨w, walked, sifted⟩ := ih stands fewer (split.trans (List.append_cons _ _ _))
          further t count
        exact ⟨_, by simp only [walkFor, yields, answer, walked], sifted.keep answer⟩
      · obtain ⟨entry, c'', free', removes, _, found', entries, stands'⟩ := stands.removeAt
        obtain rfl : first = entry := by simpa [split, ← place] using found'
        rw [split, ← place, List.eraseIdx_append_of_length_le (Nat.le_refl _), Nat.sub_self,
          List.eraseIdx_cons_zero] at entries
        obtain ⟨w, walked, sifted⟩ := ih stands' fewer entries (by simpa using place) t count
        exact ⟨_, by simp only [walkFor, yields, answer, removes, walked], sifted.take answer⟩

/-- A walk from the beginning sees all entries. -/
theorem walk_eq (h : r.Sound) (test : α → σ → Bool × σ) (settled : Nat) (s : σ) :
    ∃ w, r.walk r.cursor test settled s = .ok w ∧
      Sifted (fun entry => test entry.2) [] r.entries s w := by
  have bound := size_le_capacity h
  obtain ⟨live, free, laid⟩ := h
  have size := laid.size
  refine walkFor_eq test (stands_cursor laid) ?_ rfl rfl s
  have laps : r.capacity + 1 ≤ r.laps := Nat.le_mul_of_pos_right _ (by omega)
  omega

end Ring

end Custody
