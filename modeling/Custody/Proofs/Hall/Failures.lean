import Custody.Proofs.Broker.Entries
import Custody.Proofs.Hall.Polls

/-!
# Calls that fail

A call that fails has no effect. One is an exception: who gives up an id that was unregistered
meanwhile is told that it is not registered, and the id is free again.

* `Hall.Failed`: the calls that fail, by their answers;
* `Hall.release_unheld`, `Hall.poll_refused`: giving up what is not held, and asking in vain;
* `Hall.failures_change_nothing`: the effect of every call that fails.
-/

namespace Custody

namespace Hall

variable {ι ρ : Type} [DecidableEq ι] {settings : Settings} {h : Hall ι ρ}

/-- The calls that fail, with their answers. A request fails at its first poll if it is refused
then; one whose time is over was refused nothing. -/
inductive Failed (h : Hall ι ρ) : Operation ι ρ → Answer ι ρ → Prop
  | register {id : ι} {resource : ρ} {priority? : Option Priority} {refusal : Refusal ι} :
      Failed h (.register id resource priority?) (.verdict (.error refusal))
  | unregister {id : ι} {refusal : Refusal ι} :
      Failed h (.unregister id) (.outcome (.error refusal))
  | release {priority : Priority} {id : ι} {refusal : Refusal ι} :
      Failed h (.release priority id) (.verdict (.error refusal))
  | withdraw {id : ι} : Failed h (.withdraw id) (.flag false)
  | takeAny : Failed h .takeAny (.taken none)
  | poll {k : RequestId} {r : Request ι ρ} {tie : Tie} {refusal : Refusal ι}
      (live : h.requests.get? k = some r) (first : r.stage = .fresh)
      (refused : refusal ≠ .timedOut) :
      Failed h (.poll k tie) (.outcome (.error refusal))

/-- What a failed call leaves: everything, but for the request that it ended. -/
def afterFailure (h : Hall ι ρ) : Operation ι ρ → Hall ι ρ
  | .poll k _ => h.remove k
  | .register _ _ _ | .unregister _ | .start _ _ _ | .drop _ | .cancel _ | .elapse _ | .takeAny
  | .release _ _ | .withdraw _ => h

/-! ### Calls that are answered at once -/

theorem register_refused {id : ι} {resource : ρ} {priority? : Option Priority}
    {refusal : Refusal ι} (refused : (h.register id resource priority?).1 = .error refusal) :
    (h.register id resource priority?).2 = h := by
  unfold register at refused ⊢
  simp only at refused ⊢
  split at refused
  · rfl
  · cases refused

/-- Only what is not registered cannot be unregistered, and then it is not ranked either. -/
theorem unregister_refused (valid : h.broker.Valid) {id : ι} {refusal : Refusal ι}
    (refused : (h.unregister id).1 = .error refusal) : (h.unregister id).2 = h := by
  cases known : h.broker.onRecord? id with
  | none => simp [unregister, Broker.unregister_of_unknown valid known]
  | some entry =>
    obtain ⟨record, _, gone, _⟩ := Broker.unregister_edit valid known
    rcases answered : h.broker.unregister id with ⟨result, b⟩
    rw [answered] at gone
    cases gone
    simp [unregister, answered] at refused

theorem withdraw_refused {id : ι} (refused : (h.withdraw id).1 = false) :
    (h.withdraw id).2 = h := by
  have absent : h.broker.idle.erase? id = none := by
    simpa [withdraw, Broker.withdraw] using refused
  simp [withdraw, Broker.withdraw, Broker.unrank, absent]

theorem takeAny_refused (valid : h.broker.Valid) (refused : h.takeAny.1 = none) :
    h.takeAny.2 = h := by
  rcases Broker.takeAny?_cases valid with ⟨_, nothing⟩ | ⟨_, _, _, _, _, _, taken, _⟩
  · simp [takeAny, nothing]
  · rcases answered : h.broker.takeAny? with ⟨found, b⟩
    rw [answered] at taken
    cases taken
    simp [takeAny, answered] at refused

/-! ### Giving up what is not held -/

/-- A release that fails frees the id if it is retired, and does nothing else. -/
theorem release_unheld {priority : Priority} {id : ι} {refusal : Refusal ι}
    (refused : (h.release priority id).1 = .error refusal) :
    (h.release priority id).2 =
      if id ∈ h.broker.retired ∧ h.broker.isBusy? id = none then
        { h with broker := { h.broker with retired := h.broker.retired.erase id } }.report
          [.retiredFreed id]
      else h := by
  cases known : h.broker.records.get? id with
  | none =>
    have unknown : h.broker.isBusy? id = none := by simp [Broker.isBusy?, known]
    by_cases retired : id ∈ h.broker.retired
    · simp [release, Broker.handOver, known, unknown, retired, Event.ofHanding, report]
    · simp [release, Broker.handOver, known, retired, Event.ofHanding, report,
        List.erase_of_not_mem]
  | some record =>
    have registered : h.broker.isBusy? id = some record.busy := Broker.isBusy?_of_get? known
    cases busy : record.busy with
    | false =>
      simp [release, Broker.handOver, known, registered, busy, Event.ofHanding, report]
    | true =>
      obtain ⟨handover, ok⟩ : ∃ handover,
          (h.broker.handOver h.listens id priority).verdict = .ok handover := by
        simp only [Broker.handOver, known, busy, if_true]
        split <;> exact ⟨_, rfl⟩
      rw [release_of_ok ok] at refused
      cases refused

/-- Who gives up a retired id is told that it is not registered. -/
theorem release_retired (valid : h.broker.Valid) {id : ι} (retired : id ∈ h.broker.retired)
    (priority : Priority) : (h.release priority id).1 = .error (.notRegistered id) := by
  obtain ⟨verdict, _⟩ :=
    Broker.handOver_unknown valid (valid.retired_gone id retired) h.listens priority
  simp [release, verdict]

/-! ### Asking in vain -/

/-- A request that is refused at its first poll was not put in line. -/
theorem poll_refused (coherent : h.Coherent) {k : RequestId} {r : Request ι ρ} {tie : Tie}
    {refusal : Refusal ι} (live : h.requests.get? k = some r) (first : r.stage = .fresh)
    (answer : (h.poll tie k).1 = some (.error refusal)) (refused : refusal ≠ .timedOut) :
    (h.poll tie k).2 = h.remove k := by
  have advance := advance_cases (look_coherent coherent live) tie k (r.polledAt h.now)
  have removed : (h.look k r).remove k = h.remove k := by
    simp [look, setRequest, remove, Registry.erase_put]
  have polled := poll_eq live tie
  rcases hadvance : (h.look k r).advanceRequest tie k (r.polledAt h.now) with ⟨_ | outcome, h₁⟩
  · rw [hadvance] at polled
    simp only at polled
    split at polled
    · rw [polled] at answer
      exact absurd (Except.error.inj (Option.some.inj answer)).symm refused
    · simp [polled] at answer
  · rw [hadvance] at polled advance
    simp only at polled
    rw [polled] at answer ⊢
    obtain rfl : outcome = .error refusal := Option.some.inj answer
    cases advance with
    | asked wasParked stage attempt => cases attempt <;> exact removed
    | discarded stage | withdrawn stage | unparked stage =>
      rw [Request.stage_polledAt, first] at stage
      cases stage

/-! ### All calls -/

/-- A call that fails changes nothing. In every run, whatever clients do: a registration,
unregistration or release that is refused, a withdrawal that finds nothing, a try to take any
resource when there is none, and a request that is refused at its first poll leave the broker as
it was, to the last slot of its queues, and every other request too, so that none is woken. Only
who gives up a retired id has an effect: the answer is that it is not registered, and just that
id is retired no more. -/
theorem failures_change_nothing (reachable : Reachable settings h) :
    (∀ op, Failed h op (h.step op).1 →
      (∀ priority, ∀ id ∈ h.broker.retired, op ≠ .release priority id) →
      (h.step op).2 = h.afterFailure op) ∧
    ∀ priority, ∀ id ∈ h.broker.retired,
      (h.step (.release priority id)).1 = .verdict (.error (.notRegistered id)) ∧
      (h.step (.release priority id)).2.broker =
        { h.broker with retired := h.broker.retired.erase id } ∧
      (∀ x, x ∈ (h.step (.release priority id)).2.broker.retired ↔
        x ∈ h.broker.retired ∧ x ≠ id) ∧
      (h.step (.release priority id)).2.requests = h.requests := by
  have coherent := reachable.coherent
  have valid := coherent.broker
  constructor
  · intro op failed held
    rcases answered : h.step op with ⟨answer, h'⟩
    rw [answered] at failed
    have after : (h.step op).2 = h' := by rw [answered]
    have answer_eq : (h.step op).1 = answer := by rw [answered]
    rw [← after]
    cases failed with
    | register => exact register_refused (by simpa [step] using answer_eq)
    | unregister => exact unregister_refused valid (by simpa [step] using answer_eq)
    | @release priority id refusal =>
      have unheld := release_unheld (h := h) (by simpa [step] using answer_eq)
      rw [if_neg fun both => held priority id both.1 rfl] at unheld
      exact unheld
    | withdraw => exact withdraw_refused (by simpa [step] using answer_eq)
    | takeAny => exact takeAny_refused valid (by simpa [step] using answer_eq)
    | @poll k r tie refusal live first refused =>
      rw [step_poll]
      refine poll_refused coherent live first ?_ refused
      rcases polled : h.poll tie k with ⟨_ | outcome, _⟩
      · simp [step, polled] at answer_eq
      · simpa [step, polled] using answer_eq
  · intro priority id retired
    have refused := release_retired valid retired priority
    have freed := release_unheld refused
    rw [if_pos ⟨retired, valid.retired_gone id retired⟩] at freed
    refine ⟨by simp [step, refused], ?_, ?_, ?_⟩
    · simp [step, freed, report]
    · intro x
      simp only [step, freed, report, valid.retired_nodup.mem_erase_iff]
      exact and_comm
    · simp [step, freed, report]

/-- A resource was unregistered while it was held and a request was in line; another was
registered since. -/
def contended : Hall Nat Nat :=
  ((opening (.empty { Settings.standard with maxResources := 1 })).run
    [.register 7 70 none, .takeAny, .start 0 7 .unlimited, .poll 0 .cancelFirst, .unregister 7,
      .register 8 80 none, .cancel "t", .takeAny, .start 1 8 (.token "t")]).2

theorem failures_change_nothing_contended :
    (contended.step (.register 9 90 none)).2 = contended ∧
    (contended.step (.unregister 7)).2 = contended ∧
    (contended.step (.poll 1 .retryFirst)).2 = contended.remove 1 ∧
    (contended.step (.release 3 7)).2.broker = { contended.broker with retired := [] } := by
  have reachable : Reachable { Settings.standard with maxResources := 1 } contended :=
    Reachable.start.run _
  obtain ⟨nothing, freed⟩ := failures_change_nothing reachable
  have asked : contended.requests.get? 1 = some (.start 8 (.token "t")) := by decide
  exact ⟨nothing (.register 9 90 none) .register (by simp), nothing (.unregister 7) .unregister
    (by simp), nothing (.poll 1 .retryFirst) (.poll asked rfl (by simp)) (by simp),
    (freed 3 7 (by decide)).2.1⟩

end Hall

end Custody
