import Custody.Proofs.Ring.Walk
import Custody.Proofs.Shelf.Queues
import Custody.Proofs.Shelf.RankedQueues

/-!
# Walks along a container

A cursor that is taken from a container and alone changes it. Whatever it takes out on its way, it
yields what the container had when it was taken, in order.

* `Trail`: a list that is walked along and taken from;
* `Kind.stroll`: calls through one cursor;
* `Kind.Follows.stroll`: the container answers as its list does;
* `Kind.Searches.walks`: what a walk yields, takes out and leaves, against searches and lists;
* `Shelf.cursor_walks`: of every container that is reached, of both kinds.
-/

namespace Custody

/-- A call through a cursor. -/
inductive Stride
  | advance
  | remove
  deriving DecidableEq

/-- A list on the way: what was passed and is still there, what was yielded last unless it was
taken out, and what is to come. -/
structure Trail (ε : Type) where
  kept : List ε
  on? : Option ε
  ahead : List ε

namespace Trail

variable {ε : Type}

def start (entries : List ε) : Trail ε := ⟨[], none, entries⟩

/-- All that is still there. -/
def entries (trail : Trail ε) : List ε := trail.kept ++ trail.on?.toList ++ trail.ahead

/-- One call. -/
def stride (trail : Trail ε) : Stride → Option ε × Trail ε
  | .advance =>
    match trail.ahead with
    | [] => (none, trail)
    | next :: ahead => (some next, ⟨trail.kept ++ trail.on?.toList, some next, ahead⟩)
  | .remove => (trail.on?, { trail with on? := none })

/-- Calls one after the other, with what each gives. -/
def run (trail : Trail ε) : List Stride → List (Stride × Option ε) × Trail ε
  | [] => ([], trail)
  | stride :: rest =>
    let (item?, trail) := trail.stride stride
    let (steps, trail) := trail.run rest
    ((stride, item?) :: steps, trail)

end Trail

/-- What the advances yielded, in order. -/
def yielded {ε : Type} (steps : List (Stride × Option ε)) : List (Option ε) :=
  (steps.filter fun step => step.1 == .advance).map Prod.snd

/-- What was yielded last, unless it was taken out since, or what was before if nothing was
yielded. -/
def designated {ε : Type} (before? : Option ε) : List (Stride × Option ε) → Option ε
  | [] => before?
  | (.advance, item?) :: rest => designated (item?.or before?) rest
  | (.remove, _) :: rest => designated none rest

namespace Trail

variable {ε : Type} (trail : Trail ε)

/-- The advances yield what is ahead, in order, and then nothing. -/
theorem yielded_run (strides : List Stride) :
    yielded (trail.run strides).1 =
      (List.range (strides.count .advance)).map (trail.ahead[·]?) := by
  induction strides generalizing trail with
  | nil => rfl
  | cons stride rest ih =>
    cases stride with
    | remove => simpa [yielded, run, stride] using ih { trail with on? := none }
    | advance =>
      rw [List.count_cons_self, List.range_succ_eq_map, List.map_cons, List.map_map]
      obtain ⟨kept, on?, ahead⟩ := trail
      cases ahead with
      | nil =>
        have later := ih ⟨kept, on?, []⟩
        simpa [yielded, run, stride, Function.comp_def] using later
      | cons next ahead =>
        have later := ih ⟨kept ++ on?.toList, some next, ahead⟩
        simpa [yielded, run, stride, Function.comp_def] using later

/-- Each advance passes one, as long as there is one. -/
theorem ahead_run (strides : List Stride) :
    (trail.run strides).2.ahead = trail.ahead.drop (strides.count .advance) := by
  induction strides generalizing trail with
  | nil => rfl
  | cons stride rest ih =>
    cases stride with
    | remove => simpa [run, stride] using ih { trail with on? := none }
    | advance =>
      obtain ⟨kept, on?, ahead⟩ := trail
      cases ahead with
      | nil => simpa [run, stride] using ih ⟨kept, on?, []⟩
      | cons next ahead => simpa [run, stride] using ih ⟨kept ++ on?.toList, some next, ahead⟩

theorem on?_run (strides : List Stride) :
    (trail.run strides).2.on? = designated trail.on? (trail.run strides).1 := by
  induction strides generalizing trail with
  | nil => rfl
  | cons stride rest ih =>
    cases stride with
    | remove => exact ih { trail with on? := none }
    | advance =>
      obtain ⟨kept, on?, ahead⟩ := trail
      cases ahead with
      | nil => exact ih ⟨kept, on?, []⟩
      | cons next ahead => exact ih ⟨kept ++ on?.toList, some next, ahead⟩

end Trail

namespace Kind

variable {k : Kind} {container : k.Container} {c : Cursor} {trail : Trail k.Entry}

/-- One call through the cursor. -/
def stride (k : Kind) (container : k.Container) (c : Cursor) :
    Stride → Except NoSuchSlot (Option k.Entry × k.Container × Cursor)
  | .advance => .ok ((k.advance container c).1, container, (k.advance container c).2)
  | .remove => k.removeAt? container c

/-- Calls through one cursor, one after the other, with what each gives. -/
def stroll (k : Kind) (container : k.Container) (c : Cursor) :
    List Stride → Except NoSuchSlot (List (Stride × Option k.Entry) × k.Container × Cursor)
  | [] => .ok ([], container, c)
  | stride :: rest =>
    match k.stride container c stride with
    | .error missing => .error missing
    | .ok (item?, container, c) =>
      (k.stroll container c rest).map fun (steps, container, c) =>
        ((stride, item?) :: steps, container, c)

/-- The cursor is where the trail is, and the container has what the trail has. -/
structure Follows (k : Kind) (container : k.Container) (c : Cursor) (trail : Trail k.Entry) :
    Prop where
  stands : k.Stands container c trail.kept.length trail.on?.isSome trail.ahead.length
  entries : k.entries container = trail.entries

theorem Lawful.follows_cursor (law : k.Lawful) (sound : (k.ring container).Sound) :
    k.Follows container (k.cursor container) (.start (k.entries container)) where
  stands := law.stands_cursor sound
  entries := rfl

namespace Follows

/-- What the cursor is on can be taken out. -/
theorem removeAt (law : k.Lawful) (h : k.Follows container c trail) {entry : k.Entry}
    (here : trail.on? = some entry) :
    ∃ after c', k.removeAt? container c = .ok (some entry, after, c') ∧
      (k.entries container)[trail.kept.length]? = some entry ∧
      k.entries after = (k.entries container).eraseIdx trail.kept.length ∧
      k.Stands after c' trail.kept.length false trail.ahead.length := by
  obtain ⟨stands, entries⟩ := h
  rw [here] at stands
  rw [Trail.entries, here] at entries
  obtain ⟨taken, after, c', removes, found, rest, _, _, stands'⟩ := stands.removeAt law
  obtain rfl : taken = entry := by simpa [entries] using found.symm
  exact ⟨after, c', removes, found, rest, stands'⟩

/-- A call is answered as the list answers it, which then has what the container has. -/
theorem stride (law : k.Lawful) (h : k.Follows container c trail) (stride : Stride) :
    ∃ after c', k.stride container c stride = .ok ((trail.stride stride).1, after, c') ∧
      k.Follows after c' (trail.stride stride).2 := by
  obtain ⟨kept, on?, ahead⟩ := trail
  obtain ⟨stands, entries⟩ := h
  simp only [Trail.entries] at stands entries
  cases stride with
  | advance =>
    cases ahead with
    | nil =>
      refine ⟨container, c, ?_, stands, entries⟩
      simp only [Kind.stride, stands.advance_end law]
      rfl
    | cons next ahead =>
      obtain ⟨entry, c', yields, found, stands'⟩ := stands.advance law
      have place : kept.length + on?.isSome.toNat = (kept ++ on?.toList).length := by
        cases on? <;> simp
      have here : entry = next := by
        rw [place, entries] at found
        simpa using found.symm
      refine ⟨container, c', ?_, ?_, ?_⟩
      · simp only [Kind.stride, yields, here]
        rfl
      · rw [place] at stands'
        exact stands'
      · simpa [Trail.entries, Trail.stride] using entries
  | remove =>
    cases on? with
    | none => exact ⟨container, c, stands.removeAt_gap law, stands, entries⟩
    | some entry =>
      have follows : k.Follows container c ⟨kept, some entry, ahead⟩ := ⟨stands, entries⟩
      obtain ⟨after, c', removes, _, rest, stands'⟩ := follows.removeAt law rfl
      refine ⟨after, c', removes, stands', ?_⟩
      rw [rest, entries]
      simp [Trail.entries, Trail.stride, List.eraseIdx_append_of_length_le]

/-- The next entry is the first one ahead. -/
theorem advance_fst (law : k.Lawful) (h : k.Follows container c trail) :
    (k.advance container c).1 = trail.ahead.head? := by
  obtain ⟨_, _, answer, _⟩ := h.stride law .advance
  have yielded : (k.advance container c).1 = (trail.stride .advance).1 :=
    congrArg Prod.fst (Except.ok.inj answer)
  rw [yielded, Trail.stride]
  cases trail.ahead <;> rfl

/-- Calls are answered as the list answers them. -/
theorem stroll (law : k.Lawful) (h : k.Follows container c trail) (strides : List Stride) :
    ∃ after c', k.stroll container c strides = .ok ((trail.run strides).1, after, c') ∧
      k.Follows after c' (trail.run strides).2 := by
  induction strides generalizing container c trail with
  | nil => exact ⟨container, c, rfl, h⟩
  | cons first rest ih =>
    obtain ⟨after, c', answer, follows⟩ := h.stride law first
    obtain ⟨after', c'', answers, follows'⟩ := ih follows
    refine ⟨after', c'', ?_, follows'⟩
    simp only [Kind.stroll, answer, answers]
    rfl

end Follows

/-- What a search that ends where the cursor is takes out and leaves, the cursor does. -/
theorem Stands.removeFirst_eq (law : k.Lawful) {place ahead : Nat}
    (h : k.Stands container c place true ahead) {entry : k.Entry} {after : k.Container}
    {c' : Cursor} (removes : k.removeAt? container c = .ok (some entry, after, c')) {τ : Type}
    {test : k.Value → τ → Bool × τ} {s s' : τ}
    (hit : Ring.search (fun _ => test) (k.ring container).entries s = (some place, s')) :
    ∃ found ring, (k.ring container).removeFirst (fun _ => test) s = (some (found, ring), s') ∧
      k.view found = entry ∧ k.withRing container ring = after := by
  obtain ⟨passed, on?, rest, free, stands, rfl, onEntry, _⟩ := h
  obtain ⟨i, rfl⟩ := Option.isSome_iff_exists.1 onEntry
  obtain ⟨found, search, removed⟩ := stands.removeFirst_eq hit
  obtain ⟨taken, c'', _, taking, here, _⟩ := stands.removeAt
  obtain rfl : taken = found := Option.some.inj (here.symm.trans search)
  rw [law.removeAt_eq, taking] at removes
  obtain ⟨view, container', _⟩ : k.view taken = entry ∧
      k.withRing container ((k.ring container).dropLinked passed.getLast? i) = after ∧
        c'' = c' := by
    simpa [Except.map] using removes
  exact ⟨taken, _, removed, view, container'⟩

/-! ### Searches and whole walks -/

/-- The searches and walks of a kind, which look only at what is stored. -/
structure Searches (k : Kind) where
  value : k.Entry → k.Value
  removeFirst {τ : Type} : k.Container → (k.Value → τ → Bool × τ) → τ →
    Option (k.Entry × k.Container) × τ
  walk {τ : Type} : k.Container → Cursor → (k.Value → τ → Bool × τ) → Nat → τ →
    Except NoSuchSlot (Walk k.Container k.Entry τ)

namespace Searches

/-- They are those of the ring. -/
structure Lawful (t : k.Searches) : Prop where
  value_view (entry : k.Key × k.Value) : t.value (k.view entry) = entry.2
  removeFirst_eq {τ : Type} (container : k.Container) (test : k.Value → τ → Bool × τ) (s : τ) :
    t.removeFirst container test s =
      (((k.ring container).removeFirst (fun _ => test) s).1.map
          fun (entry, ring) => (k.view entry, k.withRing container ring),
        ((k.ring container).removeFirst (fun _ => test) s).2)
  walk_eq {τ : Type} (container : k.Container) (c : Cursor) (test : k.Value → τ → Bool × τ)
    (settled : Nat) (s : τ) : t.walk container c test settled s =
      ((k.ring container).walk c test settled s).map (Walk.map (k.withRing container) k.view)

/-- What calls through a cursor of a container come to. -/
structure Strolled (t : k.Searches) (container : k.Container) (strides : List Stride)
    (steps : List (Stride × Option k.Entry)) (trail : Trail k.Entry) (after : k.Container)
    (c : Cursor) : Prop where
  told : (Trail.start (k.entries container)).run strides = (steps, trail)
  entries : k.entries after = trail.entries
  /-- The advances yield all there was, in order, and then nothing. -/
  yields : yielded steps =
    (List.range (strides.count .advance)).map ((k.entries container)[·]?)
  next : (k.advance after c).1 = (k.entries container)[strides.count .advance]?
  isExhausted : c.isExhausted = true ↔ (k.entries container).length ≤ strides.count .advance
  hasCurrent : c.hasCurrent = (designated none steps).isSome
  gap : designated none steps = none → k.removeAt? after c = .ok (none, after, c)
  /-- What was yielded last goes, as the search takes it that first hits there. -/
  removal (entry : k.Entry) : designated none steps = some entry →
    ∃ rest c', k.removeAt? after c = .ok (some entry, rest, c') ∧
      (k.entries after)[trail.kept.length]? = some entry ∧
      k.entries rest = (k.entries after).eraseIdx trail.kept.length ∧
      ∀ {τ : Type} (test : k.Value → τ → Bool × τ) (s s' : τ),
        Ring.search (fun _ => test) (k.ring after).entries s = (some trail.kept.length, s') →
          t.removeFirst after test s = (some (entry, rest), s')

/-- What walks along a container come to. -/
structure Walks (t : k.Searches) (container : k.Container) : Prop where
  strolls (strides : List Stride) : ∃ steps trail after c,
    k.stroll container (k.cursor container) strides = .ok (steps, after, c) ∧
      t.Strolled container strides steps trail after c
  sifts (p : k.Value → Bool) (settled : Nat) : ∃ w,
    t.walk container (k.cursor container) (fun value (_ : Unit) => (p value, ())) settled () =
        .ok w ∧
      w.seen = k.entries container ∧
      w.removed = ((k.entries container).filter fun entry => p (t.value entry)).map some ∧
      k.entries w.container = (k.entries container).filter (fun entry => !p (t.value entry)) ∧
      w.cursor.isExhausted = true

variable {t : k.Searches}

theorem strolled (law : k.Lawful) (lawful : t.Lawful) (sound : (k.ring container).Sound)
    (strides : List Stride) :
    ∃ steps trail after c,
      k.stroll container (k.cursor container) strides = .ok (steps, after, c) ∧
      t.Strolled container strides steps trail after c := by
  obtain ⟨after, c, answers, follows⟩ := (law.follows_cursor sound).stroll law strides
  have yields := (Trail.start (k.entries container)).yielded_run strides
  have ahead := (Trail.start (k.entries container)).ahead_run strides
  have on? := (Trail.start (k.entries container)).on?_run strides
  generalize hrun : (Trail.start (k.entries container)).run strides = told at *
  obtain ⟨steps, trail⟩ := told
  simp only [Trail.start] at yields ahead on?
  refine ⟨steps, trail, after, c, answers, hrun, follows.entries, yields, ?_, ?_, ?_, ?_, ?_⟩
  · rw [follows.advance_fst law, ahead, List.head?_drop]
  · rw [follows.stands.isExhausted, ahead, decide_eq_true_iff, List.length_drop,
      Nat.sub_eq_zero_iff_le]
  · rw [follows.stands.hasCurrent, on?]
  · intro none
    have stands := follows.stands
    rw [on?, none] at stands
    exact stands.removeAt_gap law
  · intro entry here
    have stands := follows.stands
    rw [on?, here] at stands
    obtain ⟨rest, c', removes, found, entries, _⟩ := follows.removeAt law (on?.trans here)
    refine ⟨rest, c', removes, found, entries, ?_⟩
    intro τ test s s' hit
    obtain ⟨found, ring, search, view, left⟩ := stands.removeFirst_eq law removes hit
    rw [lawful.removeFirst_eq, search, ← view, ← left]
    rfl

/-- A container is walked along as its list is. -/
theorem walks (law : k.Lawful) (lawful : t.Lawful) (sound : (k.ring container).Sound) :
    t.Walks container where
  strolls := strolled law lawful sound
  sifts p settled := by
    obtain ⟨w, walked, sifted⟩ :=
      Ring.walk_eq sound (fun value (_ : Unit) => (p value, ())) settled ()
    have sorted := Ring.sift_pure (fun entry : k.Key × k.Value => p entry.2)
      (k.ring container).entries
    have others (q : k.Value → Bool) :
        (k.entries container).filter (fun entry => q (t.value entry)) =
          ((k.ring container).entries.filter fun entry => q entry.2).map k.view := by
      rw [law.entries_eq, List.filter_map]
      simp only [Function.comp_def, lawful.value_view]
    refine ⟨w.map (k.withRing container) k.view, ?_, ?_, ?_, ?_, sifted.isExhausted⟩
    · rw [lawful.walk_eq, law.cursor_eq, walked]
      rfl
    · rw [Walk.map, sifted.seen, law.entries_eq]
    · rw [others, Walk.map, sifted.removed, sorted, List.map_map, List.map_map]
      rfl
    · rw [others fun value => !p value, Walk.map, law.entries_eq, law.ring_withRing, sifted.left,
        sorted]
      rfl

end Searches

end Kind

/-- The searches and walks of queues. -/
def Queue.searches (α σ : Type) [BEq α] : (Queue.kind α σ).Searches where
  value value := value
  removeFirst := Queue.removeFirst
  walk := Queue.walk

theorem Queue.lawful_searches (α σ : Type) [BEq α] : (Queue.searches α σ).Lawful where
  value_view _ := rfl
  removeFirst_eq _ _ _ := rfl
  walk_eq _ _ _ _ _ := rfl

/-- The searches and walks of ranked queues, which do not look at priorities. -/
def RankedQueue.searches (α σ : Type) [BEq α] : (RankedQueue.kind α σ).Searches where
  value := Prod.snd
  removeFirst := RankedQueue.removeFirst
  walk := RankedQueue.walk

theorem RankedQueue.lawful_searches (α σ : Type) [BEq α] : (RankedQueue.searches α σ).Lawful where
  value_view _ := rfl
  removeFirst_eq _ _ _ := rfl
  walk_eq _ _ _ _ _ := rfl

namespace Shelf

/-- A cursor that alone changes its container yields what the container had, in order and once,
whatever it takes out; it takes out what it yielded last, and leaves what the search would leave
that first hits there; and a walk that takes out where a test holds leaves the rest in order. The
container is any that operations reach, on it, its copies and its other cursors. -/
theorem cursor_walks {α σ : Type} [BEq α] {ops : List (Operation (Queue.kind α σ))}
    {ops' : List (Operation (RankedQueue.kind α σ))} (inStep : Keeps InStep empty ops)
    (inStep' : Keeps InStep empty ops') :
    (∀ stock ∈ (empty.run ops).2.stocks, (Queue.searches α σ).Walks stock.container) ∧
    ∀ stock ∈ (empty.run ops').2.stocks, (RankedQueue.searches α σ).Walks stock.container := by
  constructor
  · intro stock mem
    have valid := (valid_empty.run Queue.lawful inStep).stocks stock mem
    exact Kind.Searches.walks Queue.lawful (Queue.lawful_searches α σ) valid.sound
  · intro stock mem
    have valid := (valid_empty.run RankedQueue.lawful inStep').stocks stock mem
    exact Kind.Searches.walks RankedQueue.lawful (RankedQueue.lawful_searches α σ) valid.sound

/-- A queue of three whose elements go round the end of its slots. -/
def turned : List (Operation (Queue.kind Nat Unit)) :=
  [.create 3, .call 0 (.push 5), .call 0 (.push 7), .call 0 .pull, .call 0 (.push 5),
    .call 0 (.push 9)]

/-- The first element goes and nothing goes twice, and then the cursor is on the last one. -/
def stumbles : List Stride := [.remove, .advance, .remove, .remove, .advance, .advance]

theorem cursor_walks_turned :
    ∃ stock, (empty.run turned).2.stocks[0]? = some stock ∧ ∃ after c,
      (Queue.kind Nat Unit).stroll stock.container stock.container.cursor stumbles =
        .ok ([(.remove, none), (.advance, some 7), (.remove, some 7), (.remove, none),
          (.advance, some 5), (.advance, some 9)], after, c) ∧
      c.isExhausted = true ∧ after.toList = [5, 9] ∧
      ∃ rest c', after.removeAt? c = .ok (some 9, rest, c') ∧
        after.removeFirst (fun value (_ : Unit) => (value == 9, ())) () = (some (9, rest), ()) := by
  have inStep : Keeps InStep empty turned := by decide
  have inStep' : Keeps InStep empty ([] : List (Operation (RankedQueue.kind Nat Unit))) := trivial
  have walks := (cursor_walks inStep inStep').1 _ (List.mem_of_getElem? (i := 0) rfl)
  obtain ⟨steps, trail, after, c, stroll, strolled⟩ := walks.strolls stumbles
  have told : (Trail.start [7, 5, 9]).run stumbles = _ := rfl
  obtain ⟨rfl, rfl⟩ := Prod.mk.inj (told.symm.trans strolled.told)
  have left : after.toList = [5, 9] := strolled.entries
  have held : after.ring.entries = [5, 9].map (Prod.mk ()) := by
    rw [← left, Queue.toList, List.map_map]
    exact (List.map_id _).symm
  obtain ⟨rest, c', removes, _, _, search⟩ := strolled.removal 9 rfl
  have hit := search (fun value (_ : Unit) => (value == 9, ())) () () (by rw [held]; rfl)
  exact ⟨_, rfl, after, c, stroll, strolled.isExhausted.2 (by decide), left, rest, c', removes, hit⟩

end Shelf

end Custody
