import Custody.Proofs.Broker.Enrolment
import Custody.Proofs.Hall.Limits

/-!
# Who enrols an id

What requests do to the ranking. A poll takes what is free out of it, and a dropped request may
put back what it was sent.

* `Hall.abandons?`, `Hall.GivesBack`: a dropped request gives a resource back, and when that is
  enrolled;
* `Hall.poll_posts`, `Hall.drop_posts`, `Hall.release_held_posts`: the mark that a poll leaves,
  a dropped request and a release;
* `Hall.start_poll_free`: a new request gets what is free.
-/

namespace Custody

namespace Hall

variable {ι ρ : Type} [DecidableEq ι] {h : Hall ι ρ} {k : RequestId} {r : Request ι ρ}

/-- A request that is there still stands in line for the id. -/
def attended (h : Hall ι ρ) (id : ι) : Bool := h.broker.attended h.listens id

/-- The id whose resource a request gives back when it is dropped: it was sent the resource,
which is held. No signal in line has its ticket, unless tickets have come round. -/
def abandons? (h : Hall ι ρ) (k : RequestId) : Option ι :=
  match h.requests.get? k with
  | none => none
  | some r =>
    match r.stage with
    | .queued ticket (.sent _) =>
      if h.broker.isBusy? r.target = some true ∧
          ∀ signal ∈ h.broker.line r.target, signal.ticket ≠ ticket then
        some r.target
      else none
    | .queued _ .awaited => none
    | .queued _ .discarded => none
    | .fresh => none
    | .parked _ => none

theorem held_of_abandons? {x : ι} (abandoned : h.abandons? k = some x) :
    h.broker.isBusy? x = some true := by
  unfold abandons? at abandoned
  split at abandoned
  · cases abandoned
  · split at abandoned
    · split at abandoned
      · rename_i both
        rw [← Option.some.inj abandoned]
        exact both.1
      · cases abandoned
    all_goals cases abandoned

/-- The id that a request takes out of the ranking by ending like this. If it was sent the
resource, it has it from whoever gave it up. -/
def takes? (h : Hall ι ρ) (k : RequestId) (outcome? : Option (Outcome ι ρ)) : Option ι :=
  match h.requests.get? k with
  | none => none
  | some r => if r.isSent then none else outcomeTaken r.target outcome?

omit [DecidableEq ι] in
theorem takes?_pending (h : Hall ι ρ) (k : RequestId) : h.takes? k none = none := by
  unfold takes?
  split
  · rfl
  · split <;> rfl

/-- An operation gives a resource back that nobody waits for. -/
inductive GivesBack (h : Hall ι ρ) (x : ι) : Operation ι ρ → Prop
  | released {priority : Priority} (given : (h.release priority x).1 = .ok ())
      (nobody : h.attended x = false) : GivesBack h x (.release priority x)
  | dropped {k : RequestId} (abandoned : h.abandons? k = some x)
      (nobody : h.attended x = false) : GivesBack h x (.drop k)

/-! ### Requests -/

theorem abandon_posts (valid : h.broker.Valid) (unsent : r.isSent = false) :
    h.broker.Posts (h.abandon r).broker none h.broker.terms? := by
  unfold abandon
  split
  · rename_i ticket mail stage
    unfold abandonSignal
    split
    · rename_i left
      exact Broker.leave_posts valid left
    · split
      · simp [Request.isSent, stage] at unsent
      · exact .refl _
      · exact .refl _
  · exact .refl _
  · exact .refl _

/-- A request that was not sent the resource leaves no mark when it is dropped. -/
theorem drop_unsent_posts (valid : h.broker.Valid) (live : h.requests.get? k = some r)
    (unsent : r.isSent = false) : h.broker.Posts (h.drop k).broker none h.broker.terms? := by
  rw [drop, live]
  exact abandon_posts valid unsent

theorem attempt_posts (valid : h.broker.Valid) (k : RequestId) (r : Request ι ρ)
    (wasParked : Bool) :
    h.broker.Posts (h.attempt k r wasParked).2.broker
      ((outcomeTaken r.target (h.attempt k r wasParked).1).map .undone) h.broker.terms? := by
  have asked := Broker.request_posts valid r.target k (h.isCancelled r)
  unfold attempt
  split <;> (rename_i heq; rw [heq] at asked; exact asked)

theorem advance_posts (valid : h.broker.Valid) (tie : Tie) (k : RequestId)
    (r : Request ι ρ) :
    h.broker.Posts (h.advanceRequest tie k r).2.broker
      ((if r.isSent then none else outcomeTaken r.target (h.advanceRequest tie k r).1).map
        .undone) h.broker.terms? := by
  unfold advanceRequest
  split
  · rename_i stage
    have unsent : r.isSent = false := by simp [Request.isSent, stage]
    rw [unsent]
    exact attempt_posts valid k r false
  · rename_i stage
    have sent : r.isSent = true := by simp [Request.isSent, stage]
    rw [sent]
    exact .refl _
  · split <;> exact .refl _
  · rename_i stage
    have unsent : r.isSent = false := by simp [Request.isSent, stage]
    rw [unsent]
    split
    · exact abandon_posts valid unsent
    · exact .refl _
  · rename_i stage
    have unsent : r.isSent = false := by simp [Request.isSent, stage]
    rw [unsent]
    split
    · exact .refl _
    · split
      · exact attempt_posts valid k r true
      · exact .refl _

/-- A poll leaves a mark when it brings a resource that was free. -/
theorem poll_posts (coherent : h.Coherent) (tie : Tie) (k : RequestId) :
    h.broker.Posts (h.poll tie k).2.broker ((h.takes? k (h.poll tie k).1).map .undone)
      h.broker.terms? := by
  cases live : h.requests.get? k with
  | none =>
    simp only [poll, takes?, live]
    exact .refl _
  | some r =>
    have coherent' := look_coherent coherent live
    have polled := poll_eq live tie
    have advance := advance_cases coherent' tie k (r.polledAt h.now)
    have posts := advance_posts coherent'.broker tie k (r.polledAt h.now)
    simp only [takes?, live]
    rcases hadvance : (h.look k r).advanceRequest tie k (r.polledAt h.now) with ⟨_ | outcome, h₁⟩
    · rw [hadvance] at advance polled posts
      obtain ⟨moves, stage, waiting, live₁, -⟩ :=
        advance_moves coherent' (requests_look h k r) advance
      have unsent := Request.isSent_of_isWaiting (r := { r.polledAt h.now with stage := stage })
        waiting
      have quiet := drop_unsent_posts (moves.coherent coherent').broker live₁ unsent
      simp only at polled
      split at polled
      · rw [polled]
        exact posts.before_quiet quiet
      · rw [polled]
        exact posts
    · rw [hadvance] at polled posts
      rw [polled]
      exact posts

/-- A resource that is passed on keeps its terms, and is ranked by them if nobody waits. -/
theorem passOn_posts (valid : h.broker.Valid) {x : ι} (held : h.broker.isBusy? x = some true) :
    h.broker.Posts (h.broker.handOver h.listens x (h.broker.lastPriority x)).broker
      (if h.attended x then none
        else (h.broker.terms? x).map fun terms => .enrolled terms.priority x)
      h.broker.terms? := by
  obtain ⟨terms, known⟩ := Broker.exists_terms held
  have posts := (Broker.handOver_held_posts valid held h.listens (h.broker.lastPriority x)).2
  rw [Broker.lastPriority_of_terms? known] at posts ⊢
  rw [known]
  refine ⟨posts.ranking, posts.unranked, fun y => (posts.terms y).trans ?_⟩
  split
  · rename_i heq
    rw [heq, known]
    rfl
  · rfl

/-- A request that was sent the resource passes it on when it is dropped, unless the resource
is not held any more. -/
theorem abandon_sent_posts (valid : h.broker.Valid) {ticket : UInt64} {resource : ρ}
    (stage : r.stage = .queued ticket (.sent resource)) :
    h.broker.Posts (h.abandon r).broker
      ((if h.broker.isBusy? r.target = some true ∧
          ∀ signal ∈ h.broker.line r.target, signal.ticket ≠ ticket then
        some r.target else none).bind fun x => if h.attended x then none
        else (h.broker.terms? x).map fun terms => .enrolled terms.priority x)
      h.broker.terms? := by
  have left := Broker.leave?_cases valid r.target ticket
  cases found : (h.broker.line r.target).find? fun signal => signal.ticket == ticket with
  | some signal =>
    have strays : ¬∀ signal ∈ h.broker.line r.target, signal.ticket ≠ ticket := fun none =>
      none signal (List.mem_of_find?_eq_some found) (by simpa using List.find?_some found)
    rw [found] at left
    obtain ⟨b, left, -⟩ := left
    rw [if_neg fun both => strays both.2]
    simp only [abandon, stage, abandonSignal, left]
    exact Broker.leave_posts valid left
  | none =>
    have own : ∀ signal ∈ h.broker.line r.target, signal.ticket ≠ ticket := by
      simpa using found
    rw [found] at left
    have passed : (h.abandon r).broker =
        (h.broker.handOver h.listens r.target (h.broker.lastPriority r.target)).broker := by
      simp [abandon, stage, abandonSignal, left, report, notifyParked, changeRequests]
    rw [passed]
    by_cases held : h.broker.isBusy? r.target = some true
    · rw [if_pos ⟨held, own⟩]
      exact passOn_posts valid held
    · rw [if_neg fun both => held both.1]
      exact (Broker.handOver_refused_posts valid held _ _).2

/-- A dropped request leaves a mark when it gives back what nobody waits for. -/
theorem drop_posts (valid : h.broker.Valid) (k : RequestId) :
    h.broker.Posts (h.drop k).broker
      ((h.abandons? k).bind fun x => if h.attended x then none
        else (h.broker.terms? x).map fun terms => .enrolled terms.priority x)
      h.broker.terms? := by
  unfold abandons?
  split
  · rename_i gone
    simp only [drop, gone]
    exact .refl _
  · rename_i r live
    split
    · rename_i stage
      simp only [drop, live]
      exact abandon_sent_posts valid stage
    all_goals
      rename_i stage
      exact drop_unsent_posts valid live (by simp [Request.isSent, stage])

/-! ### Releases -/

/-- What is held and released is ranked at the priority it is released at, if nobody waits. -/
theorem release_held_posts (valid : h.broker.Valid) {id : ι}
    (held : h.broker.isBusy? id = some true) (priority : Priority) :
    (h.release priority id).1 = .ok () ∧
    h.broker.Posts (h.release priority id).2.broker
      (if h.attended id then none else some (.enrolled priority id)) fun x =>
        if x = id then (h.broker.terms? id).map fun terms => { terms with priority := priority }
        else h.broker.terms? x := by
  obtain ⟨⟨handover, verdict⟩, posts⟩ :=
    Broker.handOver_held_posts valid held h.listens priority
  rw [release_broker]
  exact ⟨release_of_ok verdict, posts⟩

/-- What is not held is not released. -/
theorem release_refused_posts (valid : h.broker.Valid) {id : ι}
    (refused : h.broker.isBusy? id ≠ some true) (priority : Priority) :
    (∃ refusal, (h.release priority id).1 = .error refusal) ∧
    h.broker.Posts (h.release priority id).2.broker none h.broker.terms? := by
  obtain ⟨⟨refusal, verdict⟩, posts⟩ :=
    Broker.handOver_refused_posts valid refused h.listens priority
  rw [release_broker]
  exact ⟨⟨refusal, by simp [release, verdict]⟩, posts⟩

/-! ### Requests for what is free -/

theorem attempt_granted {resource : ρ} (wasParked : Bool)
    (granted : (h.broker.request r.target k (h.isCancelled r)).1 = .granted resource) :
    (h.attempt k r wasParked).1 = some (.ok resource) := by
  unfold attempt
  split
  all_goals (rename_i asked; rw [asked] at granted; cases granted)
  rfl

/-- A new request gets what is free. -/
theorem start_poll_free (valid : h.broker.Valid) {x : ι}
    (free : h.broker.isBusy? x = some false) {terms : Terms ρ}
    (known : h.broker.terms? x = some terms) (new : h.nextRequest ≤ k) (patience : Patience)
    (tie : Tie) :
    ((h.step (.start k x patience)).2.step (.poll k tie)).1 = .outcome (.ok terms.resource) := by
  let started := { h with nextRequest := k + 1 }.setRequest k (.start x patience)
  let r : Request ι ρ := (Request.start x patience).polledAt h.now
  have start : (h.step (.start k x patience)).2 = started := by
    simp [step, Hall.start, Nat.not_lt.2 new, started]
  have live : started.requests.get? k = some (.start x patience) := by simp [started]
  obtain ⟨record, hget, granted, -⟩ :=
    Broker.request_free valid free k ((started.look k (.start x patience)).isCancelled r)
  obtain rfl : record.entry.terms = terms := by
    rw [Broker.terms?, Broker.onRecord?_of_get? hget] at known
    exact Option.some.inj known
  have answer : ((started.look k (.start x patience)).advanceRequest tie k r).1 =
      some (.ok record.resource) :=
    attempt_granted false granted
  have polled := poll_eq live tie
  rcases advanced : (started.look k (.start x patience)).advanceRequest tie k r with
    ⟨outcome?, h'⟩
  rw [advanced] at answer
  obtain rfl : outcome? = some (.ok record.resource) := answer
  rw [show (Request.start x patience).polledAt started.now = r from rfl, advanced] at polled
  rw [start]
  simp only [step, polled]
  rfl

end Hall

end Custody
