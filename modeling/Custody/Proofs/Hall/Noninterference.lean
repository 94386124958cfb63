import Custody.Proofs.Hall.Alongside
import Custody.Proofs.Hall.Wraparound
import Mathlib

/-!
# Ids do not interfere

What is done with one id makes no difference to the others, although a waiting queue that
gets room is announced to the callers parked for any id, and all ids share the ranking and
the tickets.

* `Hall.step_apart`, `Hall.Alongside.step`: an operation on the id is not noticed from the
  others, and any other operation has the same answer without it;
* `Hall.Purged.run`: so operations on the id can be left out of a run;
* `Hall.noninterference`: a run compared with the one without them;
* `Hall.interference`: a run that has issued all tickets, where it makes a difference.
-/

namespace Custody

namespace Hall

variable {ι ρ : Type} [DecidableEq ι] {h h' g : Hall ι ρ} {x y : ι} {k : RequestId}
  {r r' : Request ι ρ} {lead : Nat} {settings : Settings} {op : Operation ι ρ}
  {ops : List (Operation ι ρ)}

/-! ### Numbers and targets of requests -/

/-- The number of the request that an operation starts. -/
def Operation.started? : Operation ι ρ → Option RequestId
  | .start k _ _ => some k
  | .register _ _ _ => none
  | .unregister _ => none
  | .poll _ _ => none
  | .drop _ => none
  | .cancel _ => none
  | .elapse _ => none
  | .takeAny => none
  | .release _ _ => none
  | .withdraw _ => none

/-- Numbers are given only to requests that start. -/
theorem nextRequest_step (h : Hall ι ρ) (op : Operation ι ρ) :
    (h.step op).2.nextRequest = h.nextRequest ∨
      ∃ k, op.started? = some k ∧ (h.step op).2.nextRequest = k + 1 := by
  cases op with
  | start k y patience =>
    simp only [step, start]
    split
    · exact .inl rfl
    · exact .inr ⟨k, rfl, rfl⟩
  | poll k tie =>
    rw [step_poll]
    exact .inl ((lasts_nextRequest _).poll rfl tie k)
  | drop k => exact .inl ((lasts_nextRequest _).drop rfl k)
  | register y resource priority? =>
    simp only [step, register]
    split <;> exact .inl rfl
  | unregister y =>
    simp only [step, unregister]
    split <;> exact .inl rfl
  | takeAny =>
    simp only [step, takeAny]
    split <;> exact .inl rfl
  | release priority y =>
    simp only [step, release]
    split
    · exact .inl rfl
    · exact .inl (nextRequest_deliver _ _)
  | cancel | elapse | withdraw => exact .inl rfl

theorem Moves.was_live {actor : Option RequestId} {transfers : List (Transfer ι)}
    (moves : Moves actor h transfers h') (known : k < h.nextRequest)
    (live' : h'.requests.get? k = some r') : ∃ r, h.requests.get? k = some r := by
  induction moves with
  | done => exact ⟨r', live'⟩
  | next move _ ih =>
    obtain ⟨r, live⟩ := ih (Nat.lt_of_lt_of_le known move.nextRequest_le) live'
    exact move.was_live known live

/-- A request stays with its target. -/
theorem step_target (coherent : h.Coherent) (live : h.requests.get? k = some r)
    (live' : (h.step op).2.requests.get? k = some r') : r'.target = r.target := by
  by_cases acts : op.actor = some k
  · cases op with
    | poll j tie =>
      obtain rfl : j = k := Option.some.inj acts
      rw [step_poll] at live'
      have polled := (poll_moves coherent tie live).2
      split at polled
      · rw [polled] at live'
        cases live'
      · obtain ⟨stage, _, polled, _⟩ := polled
        rw [polled, Option.some.injEq] at live'
        rw [← live', Request.target_polledAt]
    | drop j =>
      obtain rfl : j = k := Option.some.inj acts
      have gone : (h.step (.drop j)).2.requests.get? j = none := requests_drop h j
      rw [gone] at live'
      cases live'
    | _ => cases acts
  · obtain ⟨_, moves⟩ := step_moves coherent op.isBy_actor
    obtain ⟨r'', live'', told, _⟩ := moves.bystander coherent acts live
    rw [live', Option.some.injEq] at live''
    rw [live'', told.target]

/-- Each request was there before an operation, or the operation started it. -/
theorem step_before (coherent : h.Coherent) (live' : (h.step op).2.requests.get? k = some r') :
    (∃ r, h.requests.get? k = some r ∧ r'.target = r.target) ∨
      ∃ patience, op = .start k r'.target patience := by
  obtain ⟨_, moves⟩ := step_moves coherent op.isBy_actor
  rcases nextRequest_step h op with same | ⟨j, started, next⟩
  · have known := same ▸ (moves.coherent coherent).numbered k r' live'
    obtain ⟨r, live⟩ := moves.was_live known live'
    exact .inl ⟨r, live, step_target coherent live live'⟩
  · cases op with
    | start j' y patience =>
      simp only [step, start] at live'
      split at live'
      · exact .inl ⟨r', live', rfl⟩
      · rw [requests_setRequest] at live'
        split at live'
        · rename_i heq
          rw [Option.some.injEq] at live'
          subst heq live'
          exact .inr ⟨patience, rfl⟩
        · exact .inl ⟨r', live', rfl⟩
    | _ => cases started

/-! ### One operation -/

/-- The id that an operation is on: the one that it names, or that of the request that it is
about. -/
def subject? (h : Hall ι ρ) : Operation ι ρ → Option ι
  | .register id _ _ => some id
  | .unregister id => some id
  | .start _ id _ => some id
  | .release _ id => some id
  | .withdraw id => some id
  | .poll k _ => (h.requests.get? k).map Request.target
  | .drop k => (h.requests.get? k).map Request.target
  | .cancel _ => none
  | .elapse _ => none
  | .takeAny => none

/-- What is done with an id changes nothing off it. -/
theorem step_apart (coherent : h.Coherent) (on : h.subject? op = some x) :
    AgreeOff x h (h.step op).2 := by
  have own : ∀ k, (h.requests.get? k).map Request.target = some x →
      ∀ r, h.requests.get? k = some r → r.target = x := by
    intro k on r live
    rw [live] at on
    exact Option.some.inj on
  cases op with
  | register id resource priority? =>
    obtain rfl := Option.some.inj on
    exact register_apart coherent id resource priority?
  | unregister id =>
    obtain rfl := Option.some.inj on
    exact unregister_apart coherent id
  | start k id patience =>
    obtain rfl := Option.some.inj on
    exact start_apart coherent k id patience
  | release priority id =>
    obtain rfl := Option.some.inj on
    exact release_apart coherent priority id
  | withdraw id =>
    obtain rfl := Option.some.inj on
    exact withdraw_apart coherent id
  | poll k tie =>
    rw [step_poll]
    exact poll_apart coherent (own k on) tie
  | drop k => exact drop_apart coherent (own k on)
  | cancel | elapse | takeAny => cases on

theorem answer_poll (h : Hall ι ρ) (tie : Tie) (k : RequestId) :
    (h.step (.poll k tie)).1 = ((h.poll tie k).1.map Answer.outcome).getD .pending := by
  rcases polled : h.poll tie k with ⟨_ | _, _⟩ <;> simp [step, polled]

/-- An operation that is not on the id has the same answer in both halls. -/
theorem Alongside.step (along : Alongside x lead h g) (sound : h.Sound settings)
    (sound' : g.Sound settings) (off : h.subject? op ≠ some x) (off' : g.subject? op ≠ some x)
    (named : op ≠ .takeAny) (fewer : g.broker.records.size ≤ h.broker.records.size)
    (roomy : ∀ n, (h.step op).1 ≠ .verdict (.error (.capacityExhausted n)))
    (new : ∀ k, op.started? = some k → h.nextRequest ≤ k ∧ g.nextRequest ≤ k)
    (bound : (h.step op).2.ticketsIssued < 2 ^ 64) :
    (g.step op).1 = (h.step op).1 ∧ Alongside x lead (h.step op).2 (g.step op).2 := by
  have elsewhere : ∀ {i : Hall ι ρ} {k}, (i.requests.get? k).map Request.target ≠ some x →
      ∀ r, i.requests.get? k = some r → r.target ≠ x := by
    intro i k off r live target
    rw [live] at off
    exact off (congrArg some target)
  cases op with
  | register id resource priority? =>
    have other : id ≠ x := fun heq => off (congrArg some heq)
    obtain ⟨answer, later⟩ := along.register sound sound' other fewer resource priority?
      fun n exhausted => roomy n (congrArg Answer.verdict exhausted)
    exact ⟨congrArg Answer.verdict answer, later⟩
  | unregister id =>
    have other : id ≠ x := fun heq => off (congrArg some heq)
    obtain ⟨answer, later⟩ := along.unregister sound sound' other
    exact ⟨congrArg Answer.outcome answer, later⟩
  | start k id patience =>
    obtain ⟨new, new'⟩ := new k rfl
    obtain ⟨answer, later⟩ := along.start new new' id patience
    exact ⟨congrArg Answer.flag answer, later⟩
  | release priority id =>
    have other : id ≠ x := fun heq => off (congrArg some heq)
    obtain ⟨answer, later⟩ := along.release sound sound' other priority
    exact ⟨congrArg Answer.verdict answer, later⟩
  | withdraw id =>
    have other : id ≠ x := fun heq => off (congrArg some heq)
    obtain ⟨answer, later⟩ := along.withdraw sound sound' other
    exact ⟨congrArg Answer.flag answer, later⟩
  | poll k tie =>
    rw [step_poll] at bound
    obtain ⟨answer, later⟩ := along.poll sound sound' (elsewhere off) (elsewhere off') tie bound
    rw [answer_poll, answer_poll, answer, step_poll, step_poll]
    exact ⟨rfl, later⟩
  | drop k => exact ⟨rfl, along.drop sound sound' (elsewhere off) (elsewhere off')⟩
  | cancel token => exact ⟨rfl, along.cancel token⟩
  | elapse milliseconds => exact ⟨rfl, along.elapse milliseconds⟩
  | takeAny => exact absurd rfl named

/-! ### Runs -/

/-- The operation is on the id, if the given requests are those for it. -/
def Operation.isOn (x : ι) (mine : RequestId → Bool) : Operation ι ρ → Bool
  | .register id _ _ => id = x
  | .unregister id => id = x
  | .start _ id _ => id = x
  | .release _ id => id = x
  | .withdraw id => id = x
  | .poll k _ => mine k
  | .drop k => mine k
  | .cancel _ => false
  | .elapse _ => false
  | .takeAny => false

/-- The given requests are those for the id. -/
def Marks (h : Hall ι ρ) (x : ι) (mine : RequestId → Bool) : Prop :=
  ∀ k r, h.requests.get? k = some r → (r.target = x ↔ mine k = true)

variable {mine : RequestId → Bool}

/-- An operation is on the id, or about a request that is over. -/
theorem Marks.subject_of_on (marks : h.Marks x mine) (on : op.isOn x mine = true) :
    h.subject? op = some x ∨ (h.step op).2 = h := by
  cases op with
  | register id | unregister id | start _ id | release _ id | withdraw id =>
    have heq : id = x := by simpa [Operation.isOn] using on
    exact .inl (congrArg some heq)
  | poll k tie =>
    cases live : h.requests.get? k with
    | none =>
      simp only [step_poll, poll, live]
      exact .inr trivial
    | some r =>
      have target := (marks k r live).2 on
      exact .inl (by simp [subject?, live, target])
  | drop k =>
    cases live : h.requests.get? k with
    | none =>
      simp only [step, drop, live]
      exact .inr trivial
    | some r =>
      have target := (marks k r live).2 on
      exact .inl (by simp [subject?, live, target])
  | cancel | elapse | takeAny => cases on

theorem Marks.subject_of_off (marks : h.Marks x mine) (off : op.isOn x mine = false) :
    h.subject? op ≠ some x := by
  intro on
  cases op with
  | register id | unregister id | start _ id | release _ id | withdraw id =>
    have heq : id = x := Option.some.inj on
    simp [Operation.isOn, heq] at off
  | poll k | drop k =>
    obtain ⟨r, live, target⟩ := Option.map_eq_some_iff.1 on
    have same : mine k = true := (marks k r live).1 target
    simp [Operation.isOn, same] at off
  | cancel | elapse | takeAny => cases on

theorem Marks.step (marks : h.Marks x mine) (coherent : h.Coherent)
    (started : ∀ k y patience, op = .start k y patience → (y = x ↔ mine k = true)) :
    (h.step op).2.Marks x mine := by
  intro k r live'
  rcases step_before coherent live' with ⟨r₀, live, target⟩ | ⟨patience, start⟩
  · rw [target]
    exact marks k r₀ live
  · exact started k r.target patience start

/-- An id that is not registered does not become so by what is done with others. -/
theorem unknown_step (coherent : h.Coherent) (off : h.subject? op ≠ some x)
    (named : op ≠ .takeAny) (unknown : h.broker.onRecord? x = none) :
    (h.step op).2.broker.onRecord? x = none := by
  cases subject : h.subject? op with
  | some y =>
    have other : x ≠ y := by
      rintro rfl
      exact off subject
    have same := (step_apart coherent subject).broker.entry x other
    rw [unknown] at same
    simpa using same
  | none =>
    cases op with
    | poll k tie =>
      have gone : h.requests.get? k = none := by simpa [subject?] using subject
      simpa [step_poll, poll, gone] using unknown
    | drop k =>
      have gone : h.requests.get? k = none := by simpa [subject?] using subject
      simpa [step, drop, gone] using unknown
    | cancel | elapse => exact unknown
    | takeAny => exact absurd rfl named
    | _ => cases subject

/-- A hall, and one where everything on an id was left out. -/
structure Purged (x : ι) (mine : RequestId → Bool) (h g : Hall ι ρ) : Prop where
  along : ∃ lead, Alongside x lead h g
  unknown : g.broker.onRecord? x = none
  marks : h.Marks x mine
  marks' : g.Marks x mine

namespace Purged

/-- What is done with the id is left out. -/
theorem skip (purged : Purged x mine h g) (coherent : h.Coherent)
    (on : op.isOn x mine = true)
    (started : ∀ k y patience, op = .start k y patience → (y = x ↔ mine k = true)) :
    Purged x mine (h.step op).2 g := by
  refine ⟨?_, purged.unknown, purged.marks.step coherent started, purged.marks'⟩
  obtain ⟨lead, along⟩ := purged.along
  rcases purged.marks.subject_of_on on with subject | same
  · have apart := step_apart coherent subject
    obtain ⟨_, moves⟩ := step_moves coherent op.isBy_actor
    have issued := moves.issued_le
    have before := along.issued
    refine ⟨(h.step op).2.ticketsIssued - g.ticketsIssued, apart.symm.trans along.agree, ?_⟩
    omega
  · refine ⟨lead, ?_⟩
    rw [same]
    exact along

theorem size_le (purged : Purged x mine h g) :
    g.broker.records.size ≤ h.broker.records.size := by
  obtain ⟨_, along⟩ := purged.along
  rw [← Registry.length_keys, ← Registry.length_keys]
  refine (List.subperm_of_subset g.broker.records.nodup_keys fun y mem => ?_).length_le
  have known : g.broker.onRecord? y ≠ none := by
    intro unknown
    rw [Registry.mem_keys_iff] at mem
    simp only [Broker.onRecord?, Option.map_eq_none_iff] at unknown
    simp [unknown] at mem
  have other : y ≠ x := by
    rintro rfl
    exact known purged.unknown
  rcases along.agree.broker.entry_cases other with ⟨_, unknown⟩ | ⟨e, _, hb, _, _⟩
  · exact absurd unknown known
  · rw [Registry.mem_keys_iff]
    obtain ⟨record, hget, _⟩ := Option.map_eq_some_iff.1 hb
    simp [hget]

/-- What is not done with the id has the same answer. -/
theorem share (purged : Purged x mine h g) (sound : h.Sound settings)
    (sound' : g.Sound settings) (off : op.isOn x mine = false) (named : op ≠ .takeAny)
    (started : ∀ k y patience, op = .start k y patience → (y = x ↔ mine k = true))
    (roomy : ∀ n, (h.step op).1 ≠ .verdict (.error (.capacityExhausted n)))
    (new : ∀ k, op.started? = some k → h.nextRequest ≤ k ∧ g.nextRequest ≤ k)
    (bound : (h.step op).2.ticketsIssued < 2 ^ 64) :
    (g.step op).1 = (h.step op).1 ∧ Purged x mine (h.step op).2 (g.step op).2 := by
  obtain ⟨lead, along⟩ := purged.along
  have subject := purged.marks.subject_of_off off
  have subject' := purged.marks'.subject_of_off off
  obtain ⟨answer, later⟩ := along.step sound sound' subject subject' named purged.size_le roomy
    new bound
  exact ⟨answer, ⟨lead, later⟩, unknown_step sound'.coherent subject' named purged.unknown,
    purged.marks.step sound.coherent started, purged.marks'.step sound'.coherent started⟩

end Purged

/-- Requests are numbered upwards. -/
def Numbered (ops : List (Operation ι ρ)) : Prop :=
  (ops.filterMap Operation.started?).Pairwise (· < ·)

instance (ops : List (Operation ι ρ)) : Decidable (Numbered ops) :=
  inferInstanceAs (Decidable (List.Pairwise _ _))

omit [DecidableEq ι] in
theorem numbered_iff : Numbered ops ↔ ops.Pairwise fun op later =>
    ∀ k, op.started? = some k → ∀ j, later.started? = some j → k < j :=
  List.pairwise_filterMap

/-- The operations that are to come start requests with new numbers, those for the id being
the given ones. None takes the best ranked resource, whichever it is. -/
structure Expects (h : Hall ι ρ) (x : ι) (mine : RequestId → Bool)
    (ops : List (Operation ι ρ)) : Prop where
  numbered : Numbered ops
  new : ∀ op ∈ ops, ∀ k, op.started? = some k → h.nextRequest ≤ k
  started : ∀ op ∈ ops, ∀ k y patience, op = .start k y patience → (y = x ↔ mine k = true)
  named : ∀ op ∈ ops, op ≠ .takeAny

namespace Expects

variable {rest : List (Operation ι ρ)}

omit [DecidableEq ι] in
theorem tail (expects : h.Expects x mine (op :: rest)) : h.Expects x mine rest where
  numbered := numbered_iff.2 (numbered_iff.1 expects.numbered).of_cons
  new op' mem := expects.new op' (List.mem_cons_of_mem _ mem)
  started op' mem := expects.started op' (List.mem_cons_of_mem _ mem)
  named op' mem := expects.named op' (List.mem_cons_of_mem _ mem)

theorem next (expects : h.Expects x mine (op :: rest)) :
    (h.step op).2.Expects x mine rest where
  numbered := expects.tail.numbered
  new op' mem k later := by
    rcases nextRequest_step h op with same | ⟨j, own, next⟩
    · rw [same]
      exact expects.tail.new op' mem k later
    · rw [next]
      exact List.rel_of_pairwise_cons (numbered_iff.1 expects.numbered) mem j own k later
  started := expects.tail.started
  named := expects.tail.named

end Expects

/-- The operations without those on the id. -/
def without (x : ι) (mine : RequestId → Bool) (ops : List (Operation ι ρ)) :
    List (Operation ι ρ) := ops.filter fun op => !op.isOn x mine

/-- The answers but for those to operations on the id. -/
def answersOff (x : ι) (mine : RequestId → Bool) (ops : List (Operation ι ρ))
    (answers : List (Answer ι ρ)) : List (Answer ι ρ) :=
  ((ops.zip answers).filter fun done => !done.1.isOn x mine).map Prod.snd

section Purging

variable {rest : List (Operation ι ρ)}

theorem run_cons (h : Hall ι ρ) (op : Operation ι ρ) (rest : List (Operation ι ρ)) :
    h.run (op :: rest) =
      ((h.step op).1 :: ((h.step op).2.run rest).1, ((h.step op).2.run rest).2) := rfl

theorem without_cons_of_on (on : op.isOn x mine = true) :
    without x mine (op :: rest) = without x mine rest := by
  simp [without, on]

theorem without_cons_of_off (off : op.isOn x mine = false) :
    without x mine (op :: rest) = op :: without x mine rest := by
  simp [without, off]

theorem answersOff_cons_of_on (on : op.isOn x mine = true) (answer : Answer ι ρ)
    (answers : List (Answer ι ρ)) :
    answersOff x mine (op :: rest) (answer :: answers) = answersOff x mine rest answers := by
  simp [answersOff, on]

theorem answersOff_cons_of_off (off : op.isOn x mine = false) (answer : Answer ι ρ)
    (answers : List (Answer ι ρ)) :
    answersOff x mine (op :: rest) (answer :: answers) =
      answer :: answersOff x mine rest answers := by
  simp [answersOff, off]

theorem answersOff_concat (off : op.isOn x mine = false) {answers : List (Answer ι ρ)}
    (length : answers.length = ops.length) (answer : Answer ι ρ) :
    answersOff x mine (ops ++ [op]) (answers ++ [answer]) =
      answersOff x mine ops answers ++ [answer] := by
  simp [answersOff, List.zip_append length.symm, off]

end Purging

theorem run_issued_le (coherent : h.Coherent) (ops : List (Operation ι ρ)) :
    h.ticketsIssued ≤ (h.run ops).2.ticketsIssued := by
  induction ops generalizing h with
  | nil => exact Nat.le_refl _
  | cons op rest ih =>
    obtain ⟨_, moves⟩ := step_moves coherent op.isBy_actor
    exact Nat.le_trans moves.issued_le (ih (moves.coherent coherent))

/-- Everything on the id is left out of a run, and the others get the same answers. -/
theorem Purged.run (purged : Purged x mine h g) (reachable : Reachable settings h)
    (reachable' : Reachable settings g) (expects : h.Expects x mine ops)
    (expects' : g.Expects x mine ops)
    (roomy : ∀ answer ∈ (h.run ops).1, ∀ n, answer ≠ .verdict (.error (.capacityExhausted n)))
    (bound : (h.run ops).2.ticketsIssued < 2 ^ 64) :
    (g.run (without x mine ops)).1 = answersOff x mine ops (h.run ops).1 ∧
      Purged x mine (h.run ops).2 (g.run (without x mine ops)).2 := by
  -- The second hall stands still while the first does something on the id.
  induction ops generalizing h g with
  | nil => exact ⟨rfl, purged⟩
  | cons op rest ih =>
    have coherent := reachable.coherent
    have next := Reachable.next op reachable
    have started := expects.started op (List.mem_cons_self ..)
    have roomy₁ : ∀ answer ∈ ((h.step op).2.run rest).1, ∀ n,
        answer ≠ .verdict (.error (.capacityExhausted n)) :=
      fun answer mem => roomy answer (List.mem_cons_of_mem _ mem)
    have bound₁ := Nat.lt_of_le_of_lt (run_issued_le next.coherent rest) bound
    rw [run_cons]
    cases on : op.isOn x mine with
    | true =>
      have purged₁ := purged.skip coherent on started
      obtain ⟨answers, after⟩ :=
        ih purged₁ next reachable' expects.next expects'.tail roomy₁ bound
      rw [without_cons_of_on on, answersOff_cons_of_on on]
      exact ⟨answers, after⟩
    | false =>
      have sound := reachable.sound (Nat.lt_of_le_of_lt (run_issued_le coherent [op]) bound₁)
      -- Tickets have not come round in the second hall either, which issued no more.
      have sound' : g.Sound settings := by
        obtain ⟨lead, along⟩ := purged.along
        have issued := along.issued
        have own := sound.bound
        exact reachable'.sound (by omega)
      have new := fun k first => And.intro (expects.new op (List.mem_cons_self ..) k first)
        (expects'.new op (List.mem_cons_self ..) k first)
      obtain ⟨answer, purged₁⟩ := purged.share sound sound' on
        (expects.named op (List.mem_cons_self ..)) started (roomy _ (List.mem_cons_self ..)) new
        bound₁
      obtain ⟨answers, after⟩ :=
        ih purged₁ next (.next op reachable') expects.next expects'.next roomy₁ bound
      rw [without_cons_of_off on, answersOff_cons_of_off on, run_cons, answer, answers]
      exact ⟨rfl, after⟩

/-! ### Noninterference -/

/-- The request is started for the id by one of the operations. -/
def startedFor (x : ι) (ops : List (Operation ι ρ)) (k : RequestId) : Bool :=
  ops.any fun op =>
    match op with
    | .start j id _ => decide (j = k ∧ id = x)
    | _ => false

theorem startedFor_iff : startedFor x ops k = true ↔ ∃ patience, .start k x patience ∈ ops := by
  rw [startedFor, List.any_eq_true]
  constructor
  · rintro ⟨op, mem, names⟩
    cases op with
    | start j y patience =>
      obtain ⟨rfl, rfl⟩ : j = k ∧ y = x := of_decide_eq_true names
      exact ⟨patience, mem⟩
    | _ => cases names
  · rintro ⟨patience, mem⟩
    exact ⟨_, mem, decide_eq_true ⟨rfl, rfl⟩⟩

/-- A number belongs to one request, and a request to one id. -/
theorem Numbered.target_iff (numbered : Numbered ops) {patience : Patience}
    (mem : .start k y patience ∈ ops) : y = x ↔ startedFor x ops k = true := by
  rw [startedFor_iff]
  constructor
  · rintro rfl
    exact ⟨patience, mem⟩
  · rintro ⟨patience', mem'⟩
    have later : ∀ {op later : Operation ι ρ}, (∀ k, op.started? = some k →
        ∀ j, later.started? = some j → k < j) → ∀ k, op.started? = some k →
        later.started? ≠ some k :=
      fun lt k own same => Nat.lt_irrefl k (lt k own k same)
    have apart := numbered_iff.1 numbered
    have one : ∀ op ∈ ops, ∀ op' ∈ ops, ∀ k, op.started? = some k → op'.started? = some k →
        op = op' :=
      List.Pairwise.forall_of_forall_of_flip (fun _ _ _ _ _ => rfl)
        (apart.imp fun lt k own same => absurd same (later lt k own))
        (apart.imp fun lt k own same => absurd own (later lt k same))
    have same := one _ mem _ mem' k rfl rfl
    exact (Operation.start.inj same).2.1

/-- Nothing of an id is ranked that is not registered. -/
theorem Purged.idleIds (purged : Purged x mine h g) (valid : g.broker.Valid) :
    g.broker.idleIds = h.broker.idleIds.filter fun y => y ≠ x := by
  obtain ⟨_, along⟩ := purged.along
  have unranked : ∀ ranked ∈ g.broker.ranking, ranked.2 ≠ x := by
    rintro ranked mem rfl
    have listed : ranked.2 ∈ g.broker.idleIds := by
      rw [Broker.idleIds_eq]
      exact List.mem_map_of_mem mem
    have free := valid.ranked_free ranked.2 listed
    simp [Broker.isBusy?_eq, purged.unknown] at free
  calc g.broker.idleIds
      = (g.broker.ranking.filter fun ranked => ranked.2 ≠ x).map Prod.snd := by
        rw [List.filter_eq_self.2 fun ranked mem => by simpa using unranked ranked mem,
          Broker.idleIds_eq]
    _ = (h.broker.ranking.filter fun ranked => ranked.2 ≠ x).map Prod.snd := by
        rw [along.agree.broker.ranking]
    _ = h.broker.idleIds.filter fun y => y ≠ x := by
        rw [Broker.idleIds_eq, List.filter_map]
        rfl

/-- Whatever is done with an id, operations on the others do not tell whether it was done. In
a run that never takes the best ranked resource, and in which no registration finds the
broker full, everything on the id is left out: what names it, and what is about a request
for it. Every other operation has the same answer. In the end the records of the other ids
are the same, but for tickets, and so are those of them that are retired, and the ranking
but for the id itself. -/
theorem noninterference (settings : Settings) (x : ι) {ops : List (Operation ι ρ)}
    (numbered : Numbered ops) (named : .takeAny ∉ ops)
    (roomy : ∀ answer ∈ ((opening (.empty settings)).run ops).1, ∀ n,
      answer ≠ .verdict (.error (.capacityExhausted n)))
    (bound : ((opening (.empty settings)).run ops).2.ticketsIssued < 2 ^ 64) :
    let full := (opening (.empty settings) : Hall ι ρ).run ops
    let rest := (opening (.empty settings) : Hall ι ρ).run (without x (startedFor x ops) ops)
    rest.1 = answersOff x (startedFor x ops) ops full.1 ∧
    (∀ y, y ≠ x →
      (rest.2.broker.onRecord? y).map Entry.outline =
        (full.2.broker.onRecord? y).map Entry.outline ∧
      (y ∈ rest.2.broker.retired ↔ y ∈ full.2.broker.retired)) ∧
    rest.2.broker.idleIds = full.2.broker.idleIds.filter fun y => y ≠ x := by
  intro full rest
  let start : Hall ι ρ := opening (.empty settings)
  let mine := startedFor x ops
  have nobody : start.Marks x mine := by
    intro k r live
    cases live
  have together : Purged x mine start start :=
    ⟨⟨0, .refl x _, rfl⟩, rfl, nobody, nobody⟩
  have expects : start.Expects x mine ops :=
    ⟨numbered, fun _ _ k _ => Nat.zero_le k,
      fun _ mem _ _ _ heq => numbered.target_iff (heq ▸ mem), fun _ mem heq => named (heq ▸ mem)⟩
  obtain ⟨answers, purged⟩ := together.run .start .start expects expects roomy bound
  have reachable : Reachable settings rest.2 := Reachable.start.run _
  obtain ⟨_, along⟩ := purged.along
  refine ⟨answers, fun y other => ?_, purged.idleIds reachable.regular.valid⟩
  exact ⟨along.agree.broker.entry y other, along.agree.broker.retired y other⟩

/-- Someone is parked for 8 when 7 is given up and its next holder never takes it. Both times
the caller who is parked is told to look again, and then it is cancelled. -/
def errands : List (Operation Nat Nat) :=
  [.register 7 70 none, .register 8 80 none, .start 0 8 .unlimited, .poll 0 .cancelFirst,
    .start 1 7 .unlimited, .poll 1 .cancelFirst, .start 2 8 .unlimited, .poll 2 .cancelFirst,
    .start 3 8 (.token "stop"), .poll 3 .cancelFirst, .start 4 7 .unlimited, .poll 4 .cancelFirst,
    .release 5 7, .poll 3 .cancelFirst, .drop 4, .cancel "stop", .poll 3 .retryFirst,
    .release 2 8, .poll 2 .cancelFirst]

/-- Room for the two, and for one caller to wait for each. -/
def scarce : Settings := { Settings.standard with maxResources := 2, waiterCapacity := 1 }

theorem noninterference_parked :
    ((opening (.empty scarce)).run (without 7 (startedFor 7 errands) errands)).1 =
      [.verdict (.ok ()), .flag true, .outcome (.ok 80), .flag true, .pending, .flag true,
        .pending, .pending, .nothing, .outcome (.error .cancelled), .verdict (.ok ()),
        .outcome (.ok 80)] ∧
    (((opening (.empty scarce)).run (without 7 (startedFor 7 errands) errands)).2.broker.onRecord?
      8).map Entry.outline = some ⟨80, true, [], 2⟩ ∧
    ((opening (.empty scarce)).run
      (without 7 (startedFor 7 errands) errands)).2.broker.idleIds = [] := by
  have roomy : ∀ answer ∈ ((opening (.empty scarce)).run errands).1, ∀ n,
      answer ≠ .verdict (.error (.capacityExhausted n)) := by
    have answers : ((opening (.empty scarce)).run errands).1 =
        [.verdict (.ok ()), .verdict (.ok ()), .flag true, .outcome (.ok 80), .flag true,
          .outcome (.ok 70), .flag true, .pending, .flag true, .pending, .flag true, .pending,
          .verdict (.ok ()), .pending, .nothing, .nothing, .outcome (.error .cancelled),
          .verdict (.ok ()), .outcome (.ok 80)] := by cbv
    simp [answers]
  have bound : ((opening (.empty scarce)).run errands).2.ticketsIssued < 2 ^ 64 := by
    have issued : ((opening (.empty scarce)).run errands).2.ticketsIssued = 2 := by cbv
    omega
  have numbered : Numbered errands := by decide
  have named : .takeAny ∉ errands := by decide
  obtain ⟨answers, others, ranking⟩ := noninterference scarce 7 numbered named roomy bound
  rw [answers, (others 8 (by decide)).1, ranking]
  refine ⟨?_, ?_, ?_⟩
  · cbv
  · cbv
  · cbv

/-! ### Tickets that come round -/

/-- Only registering finds the broker full. -/
theorem roomy_of_kept (h : Hall ι ρ)
    (kept : ∀ id resource priority?, op ≠ .register id resource priority?) (n : UInt64) :
    (h.step op).1 ≠ .verdict (.error (.capacityExhausted n)) := by
  cases op with
  | register id resource priority? => exact absurd rfl (kept id resource priority?)
  | release priority id =>
    intro full
    have refused : (h.release priority id).1 = .error (.capacityExhausted n) :=
      Answer.verdict.inj full
    simp only [release] at refused
    split at refused
    · rename_i refusal verdict
      obtain rfl : refusal = .capacityExhausted n := Except.error.inj refused
      unfold Broker.handOver at verdict
      split at verdict
      · cases verdict
      · split at verdict
        · split at verdict <;> cases verdict
        · cases verdict
    · cases refused
  | poll k tie =>
    rw [answer_poll]
    cases (h.poll tie k).1 <;> simp
  | unregister | start | drop | cancel | elapse | takeAny | withdraw => simp [step]

theorem run_roomy (h : Hall ι ρ)
    (kept : ∀ op ∈ ops, ∀ id resource priority?, op ≠ .register id resource priority?) :
    ∀ answer ∈ (h.run ops).1, ∀ n, answer ≠ .verdict (.error (.capacityExhausted n)) := by
  induction ops generalizing h with
  | nil => simp [run]
  | cons op rest ih =>
    intro answer mem n
    rcases List.mem_cons.1 mem with rfl | later
    · exact roomy_of_kept h (kept op List.mem_cons_self) n
    · exact ih (h.step op).2 (fun op mem => kept op (List.mem_cons_of_mem _ mem)) answer later n

/-- Both ids are held, and someone waits for 8 with the first ticket. -/
def bothHeld : List (Operation Nat Nat) :=
  [.register 7 70 none, .register 8 80 none, .start 0 7 .unlimited, .poll 0 .cancelFirst,
    .start 1 8 .unlimited, .poll 1 .cancelFirst, .start 2 8 .unlimited, .poll 2 .cancelFirst]

/-- Callers for 7 come and go, and each takes a ticket. Then 8 is given up, and the one it is
sent to is dropped when another has come to wait for it. -/
def crossing (n : Nat) : List (Operation Nat Nat) :=
  bothHeld ++ visits 7 3 n ++ relay 8 2 (n + 3) 3

/-- The other one is polled once more. -/
def crossed (n : Nat) : List (Operation Nat Nat) :=
  crossing n ++ [Operation.poll (n + 3) .cancelFirst]

omit [DecidableEq ι] in
theorem started_visits (n : Nat) :
    (visits x k n : List (Operation ι ρ)).filterMap Operation.started? = List.range' k n := by
  induction n with
  | zero => rfl
  | succ n ih =>
    rw [visits, List.filterMap_append, ih, List.range'_concat, Nat.one_mul]
    rfl

theorem numbered_crossed (n : Nat) : Numbered (crossed n) := by
  have started : (crossed n).filterMap Operation.started? = List.range' 0 (3 + n + 1) := by
    simp only [crossed, crossing, List.filterMap_append, started_visits]
    show List.range' 0 3 ++ List.range' (0 + 3) n ++ [n + 3] ++ [] = _
    rw [List.append_nil, List.range'_append_1, List.range'_1_concat, Nat.zero_add, Nat.add_comm 3 n]
  rw [Numbered, started]
  exact List.pairwise_lt_range'

theorem startedFor_crossed (n k : Nat) :
    startedFor 7 (crossed n) k = true ↔ k = 0 ∨ 3 ≤ k ∧ k < n + 3 := by
  rw [startedFor_iff]
  have starts : ∀ patience, .start k 7 patience ∈ crossed n ↔
      patience = .unlimited ∧ (k = 0 ∨ ∃ i < n, k = 3 + i) := by
    intro patience
    simp [crossed, crossing, bothHeld, relay, call, mem_visits, mem_visit]
    tauto
  constructor
  · rintro ⟨patience, mem⟩
    obtain ⟨_, first | ⟨i, lt, own⟩⟩ := (starts patience).1 mem <;> omega
  · intro own
    refine ⟨.unlimited, (starts _).2 ⟨rfl, own.imp_right fun between => ?_⟩⟩
    exact ⟨k - 3, by omega, by omega⟩

/-- What is left of that run without 7, when the last request has the given number. -/
def uncrossed (k : Nat) : List (Operation Nat Nat) :=
    [.register 8 80 none, .start 1 8 .unlimited, .poll 1 .cancelFirst, .start 2 8 .unlimited,
      .poll 2 .cancelFirst, .release 3 8, .start k 8 .unlimited, .poll k .cancelFirst, .drop 2,
      .poll k .cancelFirst]

theorem without_crossed (n : Nat) :
    without 7 (startedFor 7 (crossed n)) (crossed n) = uncrossed (n + 3) := by
  have mine : startedFor 7 (crossed n) 0 = true := (startedFor_crossed n 0).2 (.inl rfl)
  have others : ∀ k, k ≠ 0 → ¬(3 ≤ k ∧ k < n + 3) → startedFor 7 (crossed n) k = false := by
    intro k ne outside
    rw [← Bool.not_eq_true, startedFor_crossed]
    exact not_or.2 ⟨ne, outside⟩
  have gone : (visits 7 3 n : List (Operation Nat Nat)).filter
      (fun op => !op.isOn 7 (startedFor 7 (crossed n))) = [] := by
    rw [List.filter_eq_nil_iff]
    intro op mem
    obtain ⟨i, lt, mem⟩ := mem_visits.1 mem
    have own : startedFor 7 (crossed n) (3 + i) = true :=
      (startedFor_crossed n (3 + i)).2 (.inr (by omega))
    rcases mem_visit.1 mem with rfl | rfl | rfl <;> simp [Operation.isOn, own]
  have first : startedFor 7 (crossed n) 1 = false := others 1 (by omega) (by omega)
  have second : startedFor 7 (crossed n) 2 = false := others 2 (by omega) (by omega)
  have last : startedFor 7 (crossed n) (n + 3) = false := others (n + 3) (by omega) (by omega)
  simp only [without]
  nth_rewrite 2 [crossed]
  rw [crossing, List.filter_append, List.filter_append, List.filter_append, gone]
  simp [bothHeld, relay, call, Operation.isOn, mine, first, second, last, uncrossed]

/-- When all tickets have been issued, the other one has lost its signal to the one who was
dropped. -/
theorem crossing_unregistered {n : Nat} (round : n + 1 = 2 ^ 64) :
    (((opening (.empty scarce)).run (crossing n)).2.step (.poll (n + 3) .cancelFirst)).1 =
      .outcome (.error (.unregistered 8)) := by
  let h₀ := ((opening (.empty scarce)).run bothHeld).2
  have reachable : Reachable scarce h₀ := Reachable.start.run _
  have line : h₀.broker.line 7 = [] := rfl
  have calm : h₀.notifyParked = h₀ := rfl
  have apart : ∀ i < n, ∀ signal ∈ h₀.broker.line 7,
      signal.ticket ≠ h₀.broker.nextTicket + UInt64.ofNat i := by simp [line]
  obtain ⟨_, visited, next⟩ := visits_leave reachable (x := 7) (k := 3) rfl (by rw [line]; decide)
    (fun j => by rw [← requests_notifyParked, calm]) (by decide) n apart
  let h₁ := (h₀.run (visits 7 3 n)).2
  have ticket : h₁.broker.nextTicket = 0 := visited.comes_round rfl round
  have line₁ : h₁.broker.line 8 = [⟨h₁.broker.nextTicket, 2⟩] := by
    rw [visited.line.line_of_ne (by decide), ticket]
    rfl
  obtain ⟨_, _, ⟨s, own, target, stage⟩, _⟩ := relay_strands (reachable.run (visits 7 3 n))
    (fun i => by rw [visited.requests, ← requests_notifyParked, calm])
    (visited.requests 2) line₁ (Nat.add_comm 3 n ▸ next) 3
  have runs : ((opening (.empty scarce)).run (crossing n)).2 =
      (h₁.run (relay 8 2 (n + 3) 3)).2 := by
    rw [crossing, run_append, run_append]
  rw [runs, answer_poll, poll_discarded_eq own stage, target]
  rfl

theorem crossed_roomy (n : Nat) :
    ∀ answer ∈ ((opening (.empty scarce)).run (crossed n)).1, ∀ m,
      answer ≠ .verdict (.error (.capacityExhausted m)) := by
  let rest : List (Operation Nat Nat) :=
    visits 7 3 n ++ (relay 8 2 (n + 3) 3 ++ [Operation.poll (n + 3) .cancelFirst])
  have kept : ∀ op ∈ rest, ∀ id resource priority?, op ≠ .register id resource priority? := by
    intro op mem
    rcases List.mem_append.1 mem with among | after
    · obtain ⟨i, rfl | rfl | rfl⟩ := eq_of_mem_visits among <;> simp
    · simp only [relay, call, List.cons_append, List.nil_append, List.mem_cons,
        List.not_mem_nil, or_false] at after
      rcases after with rfl | rfl | rfl | rfl | rfl <;> simp
  have split : crossed n = bothHeld ++ rest := by simp [crossed, crossing, rest]
  have answers : ((opening (.empty scarce)).run bothHeld).1 =
      [.verdict (.ok ()), .verdict (.ok ()), .flag true, .outcome (.ok 70), .flag true,
        .outcome (.ok 80), .flag true, .pending] := rfl
  intro answer mem m
  rw [split, run_append] at mem
  rcases List.mem_append.1 mem with first | later
  · rintro rfl
    simp [answers] at first
  · exact run_roomy _ kept answer later m

theorem named_crossed (n : Nat) : .takeAny ∉ crossed n := by
  simp [crossed, crossing, bothHeld, relay, call, mem_visits, mem_visit]

theorem crossed_unregistered {n : Nat} (round : n + 1 = 2 ^ 64) :
    (answersOff 7 (startedFor 7 (crossed n)) (crossed n)
      ((opening (.empty scarce)).run (crossed n)).1).getLast? =
        some (.outcome (.error (.unregistered 8))) := by
  have off : (Operation.poll (n + 3) .cancelFirst : Operation Nat Nat).isOn 7
      (startedFor 7 (crossed n)) = false := by
    show startedFor 7 (crossed n) (n + 3) = false
    rw [← Bool.not_eq_true, startedFor_crossed]
    omega
  let told := ((opening (.empty scarce)).run (crossing n)).1
  let lost : Answer Nat Nat := .outcome (.error (.unregistered 8))
  have answers : ((opening (.empty scarce)).run (crossed n)).1 = told ++ [lost] := by
    rw [crossed, run_concat, crossing_unregistered round]
  have last : answersOff 7 (startedFor 7 (crossed n)) (crossed n) (told ++ [lost]) =
      answersOff 7 (startedFor 7 (crossed n)) (crossing n) told ++ [lost] :=
    answersOff_concat off (length_run (opening (.empty scarce)) (crossing n)) lost
  rw [answers, last, List.getLast?_concat]

/-- Without the bound on the tickets an id makes a difference to another. Where callers for 7
have come and gone until the tickets have come round, a request for 8 is told that 8 is not
registered any more; without them it gets 8. -/
theorem interference :
    Numbered (crossed (2 ^ 64 - 1)) ∧ .takeAny ∉ crossed (2 ^ 64 - 1) ∧
    (∀ answer ∈ ((opening (.empty scarce)).run (crossed (2 ^ 64 - 1))).1, ∀ n,
      answer ≠ .verdict (.error (.capacityExhausted n))) ∧
    ((opening (.empty scarce)).run
        (without 7 (startedFor 7 (crossed (2 ^ 64 - 1))) (crossed (2 ^ 64 - 1)))).1 ≠
      answersOff 7 (startedFor 7 (crossed (2 ^ 64 - 1))) (crossed (2 ^ 64 - 1))
        ((opening (.empty scarce)).run (crossed (2 ^ 64 - 1))).1 := by
  refine ⟨numbered_crossed _, named_crossed _, crossed_roomy _, fun same => ?_⟩
  have alone : ((opening (.empty scarce)).run (uncrossed (2 ^ 64 - 1 + 3))).1.getLast? =
      some (.outcome (.ok 80)) := rfl
  rw [← without_crossed, same, crossed_unregistered (n := 2 ^ 64 - 1) rfl] at alone
  cases alone

end Hall

end Custody
