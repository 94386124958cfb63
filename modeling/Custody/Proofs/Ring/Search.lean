import Custody.Proofs.Ring.Contents
import Mathlib.Data.List.Perm.Basic

/-!
# Searching a ring

A search asks its test of the entries in order, up to the first that passes.

* `Ring.search`: the same on a list of entries;
* `Ring.takeFirst`: what a list gives and keeps when it is searched;
* `Ring.popFront?_eq`: the first entry goes;
* `Ring.removeFirst_eq`: an entry is taken out exactly where the search ends;
* `Ring.unlink_of_removeFirst`, `Ring.removeFirst_front`: it is taken as any other entry of its
  slot, and at the front of the ring as the first entry is;
* `Ring.position?_eq`: the slot at which an ordered insertion stops.
-/

namespace Custody

namespace Ring

variable {κ α σ : Type}

/-- Asks the test of the entries in order and gives the place of the first that
passes, with the state of the test. -/
def search (test : κ → α → σ → Bool × σ) : List (κ × α) → σ → Option Nat × σ
  | [], s => (none, s)
  | (key, value) :: rest, s =>
    match test key value s with
    | (true, s) => (some 0, s)
    | (false, s) =>
      match search test rest s with
      | (place?, s) => (place?.map (· + 1), s)

/-- Asks the test of the elements in order and takes out the first that passes. Gives it
with the other elements and the state of the test. -/
def takeFirst {ε : Type} (test : ε → σ → Bool × σ) : List ε → σ → Option ε × List ε × σ
  | [], s => (none, [], s)
  | first :: rest, s =>
    match test first s with
    | (true, s) => (some first, rest, s)
    | (false, s) =>
      let (taken?, rest, s) := takeFirst test rest s
      (taken?, first :: rest, s)

/-- Under a test without state that is the first element that it holds of. -/
theorem takeFirst_pure {ε : Type} (p : ε → Bool) (elements : List ε) :
    takeFirst (fun element (_ : Unit) => (p element, ())) elements () =
      (elements.find? p, elements.eraseP p, ()) := by
  induction elements with
  | nil => rfl
  | cons first rest ih =>
    rw [takeFirst, List.find?_cons, List.eraseP_cons]
    cases p first with
    | true => rfl
    | false => simp [ih]

theorem takeFirst_eq {ε : Type} (view : κ × α → ε) (test : ε → σ → Bool × σ)
    (entries : List (κ × α)) (s : σ) :
    takeFirst test (entries.map view) s =
      match search (fun key value => test (view (key, value))) entries s with
      | (none, s) => (none, entries.map view, s)
      | (some n, s) => (entries[n]?.map view, (entries.eraseIdx n).map view, s) := by
  induction entries generalizing s with
  | nil => rfl
  | cons entry rest ih =>
    rw [List.map_cons, takeFirst, search]
    rcases htest : test (view entry) s with ⟨_ | _, t⟩
    · simp only [ih]
      rcases search (fun key value => test (view (key, value))) rest t with ⟨_ | n, u⟩ <;> rfl
    · simp

/-- A test without state finds the first entry that it holds of. -/
theorem search_pure (p : κ → α → Bool) (entries : List (κ × α)) :
    (search (fun key value (_ : Unit) => (p key value, ())) entries ()).1 =
      entries.findIdx? fun entry => p entry.1 entry.2 := by
  induction entries with
  | nil => rfl
  | cons entry rest ih =>
    rw [List.findIdx?_cons, search]
    cases hp : p entry.1 entry.2
    · simp [← ih]
    · simp

variable {r : Ring κ α} {live free : List Nat}

/-- A walk that locates an entry stops at its slot and knows the slot before it. -/
theorem locateFrom_eq (test : κ → α → σ → Bool × σ) {ks : List Nat} {i j : Nat}
    (walk : Leads r.next i ks j) (bound : ∀ k ∈ ks, k < r.capacity)
    (held : ∀ k ∈ ks, (r.entryAt? k).isSome) (before? : Option Nat) (s : σ) :
    match search test (ks.filterMap r.entryAt?) s with
    | (none, s') => r.locateFrom test ks.length before? i s = (none, s')
    | (some n, s') => ∃ front k back, ks = front ++ k :: back ∧ front.length = n ∧
        r.locateFrom test ks.length before? i s = (some (front.getLast?.or before?, k), s') := by
  induction ks generalizing i before? s with
  | nil => rfl
  | cons k ks ih =>
    obtain ⟨rfl, walk⟩ := walk
    have hk : k < r.slots.size := bound k List.mem_cons_self
    have hnext : r.next k = r.slots[k].next := by simp [next, hk]
    rw [hnext] at walk
    obtain ⟨entry, hentry⟩ := Option.isSome_iff_exists.1 (held k List.mem_cons_self)
    obtain ⟨value, hvalue, rfl⟩ : ∃ value, r.slots[k].value = some value ∧
        (r.slots[k].key, value) = entry := by
      simpa [entryAt?, hk] using hentry
    have rest := ih walk (fun m hm => bound m (List.mem_cons_of_mem _ hm))
      (fun m hm => held m (List.mem_cons_of_mem _ hm)) (some k)
    rw [List.filterMap_cons_some hentry, search]
    rcases htest : test r.slots[k].key value s with ⟨_ | _, t⟩
    · have later := rest t
      have here : r.locateFrom test (k :: ks).length before? k s =
          r.locateFrom test ks.length (some k) r.slots[k].next t := by
        simp [locateFrom, hk, hvalue, htest]
      simp only [here]
      rcases hs : search test (ks.filterMap r.entryAt?) t with ⟨_ | n, u⟩
      · simpa [hs] using later
      · simp only [hs, Option.map_some] at later ⊢
        obtain ⟨front, m, back, rfl, hlen, hfound⟩ := later
        refine ⟨k :: front, m, back, rfl, by simp [hlen], ?_⟩
        rw [hfound]
        cases hlast : front.getLast? <;> simp [List.getLast?_cons, hlast]
    · exact ⟨[], k, ks, rfl, rfl, by simp [locateFrom, hk, hvalue, htest]⟩

theorem locate_eq (h : r.Laid live free) (test : κ → α → σ → Bool × σ) (s : σ) :
    match search test r.entries s with
    | (none, s') => r.locate test s = (none, s')
    | (some n, s') => ∃ front k back, live = front ++ k :: back ∧ front.length = n ∧
        r.locate test s = (some (front.getLast?, k), s') := by
  obtain ⟨m, walk, _⟩ := leads_append.1 h.cycle
  have found := locateFrom_eq test walk
    (fun k hk => h.lt_capacity (List.mem_append_left _ hk)) h.held none s
  rw [← entries_eq h, ← h.size] at found
  simpa only [Option.or_none, locate] using found

theorem popFront?_eq (h : r.Sound) :
    match r.entries with
    | [] => r.popFront? = none
    | entry :: rest => ∃ r', r.popFront? = some (entry, r') ∧ r'.Sound ∧
        r'.capacity = r.capacity ∧ r'.entries = rest := by
  obtain ⟨live, free, h⟩ := h
  have front := front?_eq h
  cases hentries : r.entries with
  | nil => simp [popFront?, front, hentries]
  | cons entry rest =>
    cases live with
    | nil => simp [entries_eq h] at hentries
    | cons i live =>
      refine ⟨r.dropFront, ?_, sound_dropFront h, capacity_dropFront r, ?_⟩
      · simp [popFront?, front, hentries]
      · simp [entries_dropFront h, hentries]

theorem removeFirst_eq (h : r.Sound) (test : κ → α → σ → Bool × σ) (s : σ) :
    match search test r.entries s with
    | (none, s') => r.removeFirst test s = (none, s')
    | (some n, s') => ∃ entry r', r.removeFirst test s = (some (entry, r'), s') ∧
        r.entries[n]? = some entry ∧ r'.Sound ∧ r'.capacity = r.capacity ∧
        r'.entries = r.entries.eraseIdx n := by
  obtain ⟨live, free, h⟩ := h
  have found := locate_eq h test s
  rcases hs : search test r.entries s with ⟨_ | n, s'⟩
  · simp only [hs] at found
    simp [removeFirst, found]
  · simp only [hs] at found
    obtain ⟨front, k, back, rfl, hlen, hlocate⟩ := found
    obtain ⟨entry, hentry⟩ := Option.isSome_iff_exists.1 (h.held k (by simp))
    obtain ⟨free', laid⟩ := laid_dropLinked h
    refine ⟨entry, r.dropLinked front.getLast? k, ?_, ?_, ⟨_, _, laid⟩,
      capacity_dropLinked r front.getLast? k, ?_⟩
    · simp [removeFirst, hlocate, unlink?, linked?_eq h, hentry]
    · rw [← hlen, getElem?_entries h, hentry]
    · rw [entries_dropLinked h, hlen]

/-- A search that takes something out does so where it ended. -/
theorem unlink_of_removeFirst {r' : Ring κ α} {test : κ → α → σ → Bool × σ} {s : σ}
    {entry : κ × α} (taken : (r.removeFirst test s).1 = some (entry, r')) :
    ∃ before? i, (r.locate test s).1 = some (before?, i) ∧
      r.unlink? before? i = some (entry, r') := by
  unfold removeFirst at taken
  split at taken
  · cases taken
  · rename_i before? i _ located
    exact ⟨before?, i, by rw [located], taken⟩

/-- A search that ends at the first entry takes it as `popFront?` does, slot for slot. -/
theorem removeFirst_front (h : r.Sound) {test : κ → α → σ → Bool × σ} {entry : κ × α}
    {rest : List (κ × α)} {s s' : σ} (first : r.entries = entry :: rest)
    (passes : test entry.1 entry.2 s = (true, s')) : r.removeFirst test s = (r.popFront?, s') := by
  obtain ⟨live, free, h⟩ := h
  have found := locate_eq h test s
  rw [first, search, passes] at found
  obtain ⟨front, k, back, -, hlen, located⟩ := found
  obtain rfl : front = [] := List.length_eq_zero_iff.1 hlen
  rw [removeFirst, located]
  rfl

/-- A ring gives and keeps what the list of its entries does. -/
theorem removeFirst_cases {ε : Type} (h : r.Sound) (view : κ × α → ε) (test : ε → σ → Bool × σ)
    (s : σ) :
    (∃ s', takeFirst test (r.entries.map view) s = (none, r.entries.map view, s') ∧
      r.removeFirst (fun key value => test (view (key, value))) s = (none, s')) ∨
    ∃ entry r' s',
      takeFirst test (r.entries.map view) s = (some (view entry), r'.entries.map view, s') ∧
      r.removeFirst (fun key value => test (view (key, value))) s = (some (entry, r'), s') ∧
      r'.Sound ∧ r'.capacity = r.capacity ∧ r.entries.Perm (entry :: r'.entries) := by
  have found := removeFirst_eq h (fun key value => test (view (key, value))) s
  rw [takeFirst_eq]
  rcases hs : search (fun key value => test (view (key, value))) r.entries s with ⟨_ | n, s'⟩
  · simp only [hs] at found
    exact .inl ⟨s', rfl, found⟩
  · simp only [hs] at found
    obtain ⟨entry, r', found, place, sound, capacity, entries⟩ := found
    obtain ⟨inside, rfl⟩ := List.getElem?_eq_some_iff.1 place
    refine .inr ⟨_, r', s', ?_, found, sound, capacity, ?_⟩
    · simp [entries, inside]
    · rw [entries]
      exact (List.getElem_cons_eraseIdx_perm inside).symm

/-- Taking out under a test without state takes the first entry that it holds of. -/
theorem removeFirst_pure (h : r.Sound) (p : κ → α → Bool) :
    match r.entries.find? fun entry => p entry.1 entry.2 with
    | none => (r.removeFirst (fun key value (_ : Unit) => (p key value, ())) ()).1 = none
    | some entry => ∃ r',
        (r.removeFirst (fun key value (_ : Unit) => (p key value, ())) ()).1 = some (entry, r') ∧
        r'.Sound ∧ r'.capacity = r.capacity ∧
        r'.entries = r.entries.eraseP fun entry => p entry.1 entry.2 := by
  have cases := removeFirst_cases h id (fun entry (_ : Unit) => (p entry.1 entry.2, ())) ()
  have pure := takeFirst_pure (fun entry : κ × α => p entry.1 entry.2) r.entries
  simp only [List.map_id, id_eq, pure, Prod.mk.injEq] at cases
  rcases cases with ⟨_, ⟨list, _⟩, found⟩ |
    ⟨entry, r', _, ⟨list, others, _⟩, found, sound, capacity, _⟩
  · rw [list, found]
  · rw [list, found]
    exact ⟨r', rfl, sound, capacity, others.symm⟩

/-- The slot of the first entry whose key passes the test, which is the place of the
entry in the order. -/
theorem position?_eq (h : r.Laid live free) (test : κ → Bool) :
    match r.entries.findIdx? fun entry => test entry.1 with
    | none => r.position? test = none
    | some n => ∃ front stop back, live = front ++ stop :: back ∧ front.length = n ∧
        r.position? test = some stop := by
  have found := locate_eq h (fun key _ (_ : Unit) => (test key, ())) ()
  have place := search_pure (fun key _ => test key) r.entries
  rw [← place]
  unfold position?
  rcases hs : search (fun key _ (_ : Unit) => (test key, ())) r.entries () with ⟨_ | n, u⟩
  · simp only [hs] at found
    simp [found]
  · simp only [hs] at found
    obtain ⟨front, stop, back, rfl, hlen, hlocate⟩ := found
    exact ⟨front, stop, back, rfl, hlen, by simp [hlocate]⟩

end Ring

end Custody
