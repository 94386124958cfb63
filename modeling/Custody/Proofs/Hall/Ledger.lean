import Custody.Proofs.Hall.Enrolment

/-!
# The idle ranking over a run

Which ids are idle, and in which order they are served, is decided by what clients did. The
ranking is read off the enrolments so far, and the priority at which abandoned ownership is
enrolled is read off the registrations and releases.

* `Ledger`: a run with the marks that its operations left, and the terms of what is registered;
* `Ledger.next_posts`: an operation leaves the mark that the ledger says, if it does;
* `Ledger.Agrees`, `Ledger.Reachable.agrees`: the ranking and the terms are those of the ledger;
* `Ledger.Withdrawn`: what holds of an id that was taken out of the ranking;
* `Ledger.idle_ranking`: the idle ids, in order, after every run.
-/

namespace Custody

open Hall (Operation Answer)

/-- A run so far, what its operations did to the ranking, and the terms of what is
registered. -/
structure Ledger (ι ρ : Type) where
  hall : Hall ι ρ
  history : List (Mark ι)
  terms : ι → Option (Terms ρ)

namespace Ledger

variable {ι ρ : Type} [DecidableEq ι] {settings : Settings} {l : Ledger ι ρ} {x : ι}

def opening (settings : Settings) : Ledger ι ρ where
  hall := .opening (.empty settings)
  history := []
  terms := fun _ => none

/-- What an operation that got the answer does to the ranking. An id is enrolled when it is
registered, at the priority given or that of the settings; when it is given up and nobody waits
for it; and when it is abandoned and nobody waits for it, at the priority of its terms. -/
def mark? (l : Ledger ι ρ) (op : Operation ι ρ) (answer : Answer ι ρ) : Option (Mark ι) :=
  match op, answer with
  | .register id _ priority?, .verdict (.ok _) =>
    some (.enrolled (priority?.getD l.hall.broker.settings.defaultPriority) id)
  | .release priority id, .verdict (.ok _) =>
    if l.hall.attended id then none else some (.enrolled priority id)
  | .drop k, _ =>
    (l.hall.abandons? k).bind fun id =>
      if l.hall.attended id then none
      else (l.terms id).map fun terms => .enrolled terms.priority id
  | .poll k _, .outcome result => (l.hall.takes? k (some result)).map .undone
  | .takeAny, .taken taken? => taken?.map fun taken => .undone taken.1
  | .withdraw id, _ => some (.undone id)
  | .unregister id, .outcome (.ok _) => some (.undone id)
  | _, _ => none

/-- The terms of an id after an operation that got the answer. -/
def termsAfter (l : Ledger ι ρ) (op : Operation ι ρ) (answer : Answer ι ρ) (x : ι) :
    Option (Terms ρ) :=
  match op, answer with
  | .register id resource priority?, .verdict (.ok _) =>
    if x = id then some ⟨resource, priority?.getD l.hall.broker.settings.defaultPriority⟩
    else l.terms x
  | .release priority id, .verdict (.ok _) =>
    if x = id then (l.terms id).map fun terms => { terms with priority := priority }
    else l.terms x
  | .unregister id, .outcome (.ok _) => if x = id then none else l.terms x
  | _, _ => l.terms x

/-- The ledger with one more operation. -/
def next (l : Ledger ι ρ) (op : Operation ι ρ) : Ledger ι ρ where
  hall := (l.hall.step op).2
  history := l.history ++ (l.mark? op (l.hall.step op).1).toList
  terms := l.termsAfter op (l.hall.step op).1

/-- The ledger with more operations, one after the other. -/
def run (l : Ledger ι ρ) (ops : List (Operation ι ρ)) : Ledger ι ρ := ops.foldl next l

/-- The ledgers of all runs. -/
inductive Reachable (settings : Settings) : Ledger ι ρ → Prop
  | start : Reachable settings (opening settings)
  | next {l : Ledger ι ρ} (op : Operation ι ρ) :
      Reachable settings l → Reachable settings (l.next op)

theorem Reachable.hall (reachable : l.Reachable settings) : l.hall.Reachable settings := by
  induction reachable with
  | start => exact .start
  | next op _ ih => exact .next op ih

/-- The ranking and the terms of the broker are those of the ledger. -/
structure Agrees (settings : Settings) (l : Ledger ι ρ) : Prop where
  ranking : l.hall.broker.ranking =
    RankedQueue.inOrder settings.order (Mark.inForce l.history)
  terms : l.hall.broker.terms? = l.terms

/-- An operation leaves the mark and the terms that the ledger says. -/
theorem next_posts (coherent : l.hall.Coherent) (same : l.hall.broker.terms? = l.terms)
    (op : Operation ι ρ) :
    l.hall.broker.Posts (l.next op).hall.broker (l.mark? op (l.hall.step op).1)
      (l.next op).terms := by
  obtain ⟨h, history, terms⟩ := l
  obtain rfl : h.broker.terms? = terms := same
  have valid : h.broker.Valid := coherent.broker
  cases op with
  | register id resource priority? =>
    simp only [next, Hall.step, Hall.register]
    cases registered : h.broker.register id resource
      (priority?.getD h.broker.settings.defaultPriority) with
    | error refusal => exact .refl _
    | ok b => exact Broker.register_posts valid registered
  | unregister id =>
    cases known : h.broker.onRecord? id with
    | none =>
      have refused := Broker.unregister_of_unknown valid known
      simp only [next, Hall.step, Hall.unregister, refused]
      exact .refl _
    | some entry =>
      have posts := Broker.unregister_posts valid (Broker.isBusy?_of_onRecord? known)
      obtain ⟨record, -, answer, -⟩ := Broker.unregister_edit valid known
      rcases gone : h.broker.unregister id with ⟨result, b⟩
      rw [gone] at answer posts
      cases answer
      simp only [next, Hall.step, Hall.unregister, gone]
      exact posts
  | start k id patience =>
    simp only [next, Hall.step, Hall.start]
    split <;> exact .refl _
  | cancel | elapse => exact .refl _
  | poll k tie =>
    have posts := Hall.poll_posts coherent tie k
    rcases polled : h.poll tie k with ⟨_ | outcome, h'⟩
    · rw [polled, Hall.takes?_pending] at posts
      simp only [next, Hall.step, polled]
      exact posts
    · rw [polled] at posts
      simp only [next, Hall.step, polled]
      exact posts
  | drop k => exact Hall.drop_posts valid k
  | takeAny =>
    have posts := Broker.takeAny_posts valid
    rcases taken : h.broker.takeAny? with ⟨_ | _, b⟩
    · rw [taken] at posts
      simp only [next, Hall.step, Hall.takeAny, taken]
      exact posts
    · rw [taken] at posts
      simp only [next, Hall.step, Hall.takeAny, taken]
      exact posts
  | release priority id =>
    by_cases held : h.broker.isBusy? id = some true
    · obtain ⟨answer, posts⟩ := Hall.release_held_posts valid held priority
      rcases released : h.release priority id with ⟨result, h'⟩
      rw [released] at answer posts
      cases answer
      simp only [next, Hall.step, released]
      exact posts
    · obtain ⟨⟨refusal, answer⟩, posts⟩ := Hall.release_refused_posts valid held priority
      rcases released : h.release priority id with ⟨result, h'⟩
      rw [released] at answer posts
      cases answer
      simp only [next, Hall.step, released]
      exact posts
  | withdraw id => exact Broker.withdraw_posts valid id

theorem Agrees.next (agrees : l.Agrees settings) (reachable : l.Reachable settings)
    (op : Operation ι ρ) : (l.next op).Agrees settings := by
  have regular := reachable.hall.regular
  have posts := next_posts reachable.hall.coherent agrees.terms op
  exact ⟨posts.inOrder regular.valid regular.order agrees.ranking, funext posts.terms⟩

theorem Reachable.agrees (reachable : l.Reachable settings) : l.Agrees settings := by
  induction reachable with
  | start => exact ⟨List.mergeSort_nil.symm, rfl⟩
  | next op reachable ih => exact ih.next reachable op

theorem Reachable.run (reachable : l.Reachable settings) (ops : List (Operation ι ρ)) :
    (l.run ops).Reachable settings := by
  induction ops generalizing l with
  | nil => exact reachable
  | cons op rest ih => exact ih (.next op reachable)

/-! ### What is listed -/

/-- An id is listed if its latest enrolment was not undone. -/
theorem Agrees.mem_idleIds_iff (agrees : l.Agrees settings) :
    x ∈ l.hall.broker.idleIds ↔
      ∃ priority before later, l.history = before ++ .enrolled priority x :: later ∧
        ∀ mark ∈ later, mark.id ≠ x := by
  rw [Broker.idleIds_eq, agrees.ranking, List.mem_map]
  constructor
  · rintro ⟨⟨priority, _⟩, mem, rfl⟩
    exact ⟨priority, Mark.mem_inForce.1 ((RankedQueue.inOrder_perm _ _).mem_iff.1 mem)⟩
  · rintro ⟨priority, standing⟩
    exact ⟨_, (RankedQueue.inOrder_perm _ _).mem_iff.2 (Mark.mem_inForce.2 standing), rfl⟩

/-- Whoever takes any resource gets the first id that is listed, if there is one. -/
theorem Agrees.takeAny (agrees : l.Agrees settings) (valid : l.hall.broker.Valid) :
    match l.hall.broker.idleIds with
    | [] => (l.hall.step .takeAny).1 = .taken none
    | x :: _ => ∃ terms, l.terms x = some terms ∧
        (l.hall.step .takeAny).1 = .taken (some (x, terms.resource)) := by
  have edited := Broker.takeAny_edit valid
  rw [Broker.idleIds_eq]
  split at edited
  · rename_i empty
    rw [empty]
    simp [Hall.step, Hall.takeAny, edited]
  · rename_i ranked rest first
    obtain ⟨entry, known, -, taken, -⟩ := edited
    rcases answered : l.hall.broker.takeAny? with ⟨found, b⟩
    rw [answered] at taken
    obtain rfl : found = some (ranked.2, entry.resource) := taken
    rw [first, List.map_cons]
    refine ⟨entry.terms, ?_, ?_⟩
    · rw [← agrees.terms, Broker.terms?, known, Option.map_some]
    · simp [Hall.step, Hall.takeAny, answered, Entry.terms]

/-! ### Coming back -/

/-- Of what is registered, only what is given back is enrolled. -/
theorem Agrees.back_of_enrolled (agrees : l.Agrees settings) (coherent : l.hall.Coherent)
    (registered : l.terms x ≠ none) {op : Operation ι ρ} {priority : Priority}
    (marked : l.mark? op (l.hall.step op).1 = some (.enrolled priority x)) :
    l.hall.GivesBack x op := by
  cases op with
  | register id resource priority? =>
    rcases Hall.register_cases coherent id resource priority? with
      ⟨refusal, heq⟩ | ⟨_, _, heq, _, unknown, _⟩
    · simp [Hall.step, heq, mark?] at marked
    · obtain rfl : id = x := by
        simp only [Hall.step, heq, mark?, Option.some.injEq, Mark.enrolled.injEq] at marked
        exact marked.2
      rw [← agrees.terms, Ne, Broker.terms?_eq_none_iff] at registered
      exact absurd unknown registered
  | release given id =>
    rcases released : l.hall.release given id with ⟨_ | _, h'⟩
    · simp [Hall.step, released, mark?] at marked
    · simp only [Hall.step, released, mark?] at marked
      split at marked
      · cases marked
      · rename_i nobody
        obtain ⟨-, rfl⟩ := Mark.enrolled.inj (Option.some.inj marked)
        exact .released (by rw [released]) (by simpa using nobody)
  | drop k =>
    simp only [mark?] at marked
    obtain ⟨id, abandoned, marked⟩ := Option.bind_eq_some_iff.1 marked
    split at marked
    · cases marked
    · rename_i nobody
      obtain ⟨terms, -, marked⟩ := Option.map_eq_some_iff.1 marked
      obtain ⟨-, rfl⟩ := Mark.enrolled.inj marked
      exact .dropped abandoned (by simpa using nobody)
  | poll k tie =>
    rcases polled : l.hall.poll tie k with ⟨_ | outcome, h'⟩
    · simp [Hall.step, polled, mark?] at marked
    · simp [Hall.step, polled, mark?] at marked
  | takeAny =>
    simp [Hall.step, mark?] at marked
  | unregister id =>
    rcases gone : l.hall.unregister id with ⟨_ | _, h'⟩
    · simp [Hall.step, gone, mark?] at marked
    · simp [Hall.step, gone, mark?] at marked
  | start | cancel | elapse | withdraw => simp [mark?] at marked

/-- What is given back is enrolled. -/
theorem Agrees.enrolled_of_back (agrees : l.Agrees settings) {op : Operation ι ρ}
    (back : l.hall.GivesBack x op) :
    ∃ priority, l.mark? op (l.hall.step op).1 = some (.enrolled priority x) := by
  cases back with
  | @released priority given nobody =>
    refine ⟨priority, ?_⟩
    rcases released : l.hall.release priority x with ⟨result, h'⟩
    rw [released] at given
    simp [Hall.step, released, given, mark?, nobody]
  | @dropped k abandoned nobody =>
    obtain ⟨terms, known⟩ := Broker.exists_terms (Hall.held_of_abandons? abandoned)
    rw [agrees.terms] at known
    exact ⟨terms.priority, by simp [mark?, abandoned, nobody, known]⟩

/-- What is registered stays registered, with its resource, until it is unregistered. -/
theorem Agrees.registered_next (agrees : l.Agrees settings) (coherent : l.hall.Coherent)
    {terms : Terms ρ} (known : l.terms x = some terms) {op : Operation ι ρ}
    (kept : op ≠ .unregister x) :
    ∃ terms', (l.next op).terms x = some terms' ∧ terms'.resource = terms.resource := by
  have still : ∀ {terms? : Option (Terms ρ)}, terms? = l.terms x →
      ∃ terms', terms? = some terms' ∧ terms'.resource = terms.resource :=
    fun same => ⟨terms, same.trans known, rfl⟩
  cases op with
  | register id resource priority? =>
    rcases Hall.register_cases coherent id resource priority? with
      ⟨refusal, heq⟩ | ⟨_, _, heq, _, unknown, _⟩
    · simp only [Ledger.next, Hall.step, heq]
      exact still rfl
    · have other : x ≠ id := by
        rintro rfl
        rw [← agrees.terms, Broker.terms?_eq_none_iff.2 unknown] at known
        cases known
      simp only [Ledger.next, Hall.step, heq]
      exact still (if_neg other)
  | unregister id =>
    have other : x ≠ id := fun heq => kept (by rw [heq])
    rcases gone : l.hall.unregister id with ⟨_ | _, h'⟩
    · simp only [Ledger.next, Hall.step, gone]
      exact still rfl
    · simp only [Ledger.next, Hall.step, gone]
      exact still (if_neg other)
  | release priority id =>
    rcases released : l.hall.release priority id with ⟨_ | _, h'⟩
    · simp only [Ledger.next, Hall.step, released]
      exact still rfl
    · simp only [Ledger.next, Hall.step, released, termsAfter]
      split
      · rename_i heq
        refine ⟨{ terms with priority := priority }, ?_, rfl⟩
        rw [← heq, known, Option.map_some]
      · exact ⟨terms, known, rfl⟩
  | poll k tie => exact still rfl
  | start | drop | cancel | elapse | takeAny | withdraw => exact still rfl

theorem Reachable.registered_run (reachable : l.Reachable settings) {terms : Terms ρ}
    (known : l.terms x = some terms) {ops : List (Operation ι ρ)} (kept : .unregister x ∉ ops) :
    ∃ terms', (l.run ops).terms x = some terms' ∧ terms'.resource = terms.resource := by
  induction ops generalizing l terms with
  | nil => exact ⟨terms, known, rfl⟩
  | cons op rest ih =>
    rw [List.mem_cons, not_or] at kept
    obtain ⟨terms', known', same⟩ :=
      reachable.agrees.registered_next reachable.hall.coherent known (Ne.symm kept.1)
    obtain ⟨terms'', known'', same'⟩ := ih (.next op reachable) known' kept.2
    exact ⟨terms'', known'', same'.trans same⟩

/-- What is registered and not listed comes back by being given back. -/
theorem Reachable.back_of_listed (reachable : l.Reachable settings) {terms : Terms ρ}
    (known : l.terms x = some terms) (absent : x ∉ l.hall.broker.idleIds)
    {ops : List (Operation ι ρ)} (kept : .unregister x ∉ ops)
    (listed : x ∈ (l.run ops).hall.broker.idleIds) :
    ∃ before op after, ops = before ++ op :: after ∧ (l.run before).hall.GivesBack x op := by
  induction ops generalizing l terms with
  | nil => exact absurd listed absent
  | cons op rest ih =>
    have agrees := reachable.agrees
    have coherent := reachable.hall.coherent
    rw [List.mem_cons, not_or] at kept
    by_cases now : x ∈ (l.next op).hall.broker.idleIds
    · obtain ⟨priority, marked⟩ := (next_posts coherent agrees.terms op).enrolled absent now
      refine ⟨[], op, rest, rfl, agrees.back_of_enrolled coherent ?_ marked⟩
      simp [known]
    · obtain ⟨terms', known', _⟩ := agrees.registered_next coherent known (Ne.symm kept.1)
      obtain ⟨before, last, after, rfl, back⟩ := ih (.next op reachable) known' now kept.2 listed
      exact ⟨op :: before, last, after, rfl, back⟩

/-- What is given back is listed. -/
theorem Reachable.listed_of_back (reachable : l.Reachable settings) {op : Operation ι ρ}
    (back : l.hall.GivesBack x op) : x ∈ (l.next op).hall.broker.idleIds := by
  obtain ⟨priority, marked⟩ := reachable.agrees.enrolled_of_back back
  rw [(Reachable.next op reachable).agrees.mem_idleIds_iff]
  refine ⟨priority, l.history, [], ?_, by simp⟩
  simp [Ledger.next, marked]

/-- An id was taken out of the ranking and nothing else. As long as it is not unregistered, it
is registered with its resource, which anyone gets who asks for it while it is free, and it is
not listed before it is given back with nobody waiting, and then it is. -/
structure Withdrawn (l : Ledger ι ρ) (x : ι) (resource : ρ) : Prop where
  free : l.hall.broker.isBusy? x = some false
  unlisted : x ∉ l.hall.broker.idleIds
  registered : ∀ ops, .unregister x ∉ ops →
    ∃ terms, (l.run ops).terms x = some terms ∧ terms.resource = resource
  acquirable : ∀ ops, .unregister x ∉ ops → (l.run ops).hall.broker.isBusy? x = some false →
    ∀ k patience tie, (l.run ops).hall.nextRequest ≤ k →
      (((l.run ops).next (.start k x patience)).hall.step (.poll k tie)).1 = .outcome (.ok resource)
  returns : ∀ ops op, (l.run ops).hall.GivesBack x op →
    x ∈ ((l.run ops).next op).hall.broker.idleIds
  only : ∀ ops, .unregister x ∉ ops → x ∈ (l.run ops).hall.broker.idleIds →
    ∃ before op after, ops = before ++ op :: after ∧ (l.run before).hall.GivesBack x op

theorem Reachable.withdrawn (reachable : l.Reachable settings)
    (listed : x ∈ l.hall.broker.idleIds) :
    ∃ terms, l.terms x = some terms ∧ (l.hall.step (.withdraw x)).1 = .flag true ∧
      (l.next (.withdraw x)).Withdrawn x terms.resource := by
  have valid := reachable.hall.coherent.broker
  have next := Reachable.next (.withdraw x) reachable
  have free := valid.ranked_free x listed
  obtain ⟨terms, known⟩ := Broker.exists_terms free
  rw [reachable.agrees.terms] at known
  have unlisted : x ∉ (l.next (.withdraw x)).hall.broker.idleIds := valid.not_mem_unrank x
  refine ⟨terms, known, ?_, free, unlisted, ?_, ?_, ?_, ?_⟩
  · simp [Hall.step, Hall.withdraw, (Broker.withdraw_edit valid x).1, listed]
  · intro ops kept
    exact next.registered_run known kept
  · intro ops kept free k patience tie new
    obtain ⟨terms', known', same⟩ := next.registered_run known kept
    have reached := next.run ops
    rw [← reached.agrees.terms] at known'
    rw [← same]
    exact Hall.start_poll_free reached.hall.coherent.broker free known' new patience tie
  · intro ops op back
    exact (next.run ops).listed_of_back back
  · intro ops kept back
    exact next.back_of_listed known unlisted kept back

/-- The idle ids are those whose latest enrolment was not undone since, in the order of their
priorities, and of their enrolments where priorities are equal. That holds after every run,
whatever clients do: an id is enrolled when it is registered, when it is given up at a priority
with nobody waiting, and when a request is dropped that was sent it, with nobody waiting, and
then at the priority that it was last given up at since it was registered, however many requests
passed it on in between. That is undone when the id is taken, withdrawn or unregistered. Whoever
takes any resource gets the first of these ids with the resource it was registered with, and
nothing just when there is none. And an id that is withdrawn stays registered, can be asked for,
and is not listed again before it is given back with nobody waiting. -/
theorem idle_ranking (reachable : l.Reachable settings) :
    l.hall.broker.idleIds =
      (RankedQueue.inOrder settings.order (Mark.inForce l.history)).map Prod.snd ∧
    l.hall.broker.idleIds.Nodup ∧
    (∀ x, x ∈ l.hall.broker.idleIds ↔
      ∃ priority before later, l.history = before ++ .enrolled priority x :: later ∧
        ∀ mark ∈ later, mark.id ≠ x) ∧
    (match l.hall.broker.idleIds with
      | [] => (l.hall.step .takeAny).1 = .taken none
      | x :: _ => ∃ terms, l.terms x = some terms ∧
          (l.hall.step .takeAny).1 = .taken (some (x, terms.resource))) ∧
    ∀ x ∈ l.hall.broker.idleIds, ∃ terms, l.terms x = some terms ∧
      (l.hall.step (.withdraw x)).1 = .flag true ∧
      (l.next (.withdraw x)).Withdrawn x terms.resource := by
  have agrees := reachable.agrees
  have valid := reachable.hall.coherent.broker
  refine ⟨?_, valid.ranked_nodup, fun x => agrees.mem_idleIds_iff, agrees.takeAny valid,
    fun x listed => reachable.withdrawn listed⟩
  rw [Broker.idleIds_eq, agrees.ranking]

/-- The first of two waiters was sent the resource, which was given up at 4, and dropped; the
second was sent it then, and dropped. -/
def passedDown : Ledger Nat Nat :=
  (opening { Settings.standard with maxResources := 3, order := .descending }).run
    [.register 1 10 (some 5), .register 2 20 none, .register 3 30 (some 5), .takeAny,
      .start 0 1 .unlimited, .start 1 1 .unlimited, .poll 0 .cancelFirst, .poll 1 .cancelFirst,
      .release 4 1, .drop 0, .drop 1]

theorem idle_ranking_passedDown :
    (RankedQueue.inOrder .descending (Mark.inForce passedDown.history)).map Prod.snd =
      [3, 1, 2] ∧
    (passedDown.hall.step .takeAny).1 = .taken (some (3, 30)) ∧
    (passedDown.next (.withdraw 1)).Withdrawn 1 10 := by
  have reachable : passedDown.Reachable
      { Settings.standard with maxResources := 3, order := .descending } := Reachable.start.run _
  have ids : passedDown.hall.broker.idleIds = [3, 1, 2] := by decide
  obtain ⟨ranked, -, -, any, withdrawn⟩ := idle_ranking reachable
  rw [ids] at ranked any
  obtain ⟨terms, known, answer⟩ := any
  obtain ⟨terms', known', -, out⟩ := withdrawn 1 (by rw [ids]; decide)
  obtain rfl : (⟨30, 5⟩ : Terms Nat) = terms := Option.some.inj known
  obtain rfl : (⟨10, 4⟩ : Terms Nat) = terms' := Option.some.inj known'
  exact ⟨ranked.symm, answer, out⟩

end Ledger

end Custody
