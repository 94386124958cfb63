import Custody.Proofs.Hall.Polls
import Custody.Proofs.Hall.Wakeup

/-!
# Waiting for an id that is unregistered

A request that stands in line for an id is told when it is unregistered. One that is parked
is only told to look again.

* `Hall.unregister_tells`: what the requests are told that wait for the id;
* `Hall.run_bystander`: what a request was told holds until it is polled;
* `Hall.outcome_after_unregister`: how a request ends whose id was unregistered.
-/

namespace Custody

/-- The stage of a request that waits for an id, when the id has been unregistered. -/
def Stage.dismissed {ρ : Type} : Stage ρ → Stage ρ
  | .queued ticket .awaited => .queued ticket .discarded
  | .queued ticket (.sent resource) => .queued ticket (.sent resource)
  | .queued ticket .discarded => .queued ticket .discarded
  | .parked _ => .parked true
  | .fresh => .fresh

/-- What a request knows that was dismissed, it keeps to. -/
theorem Stage.dismissed_later {ρ : Type} {s s' : Stage ρ} (later : s.dismissed.Later s') :
    s' = s.dismissed := by
  cases s with
  | fresh => exact later
  | parked notified =>
    obtain ⟨notified', rfl, kept⟩ := later
    rw [kept rfl]
    rfl
  | queued ticket mail =>
    cases mail <;> obtain ⟨mail', rfl, kept⟩ := later <;> rw [kept (by simp)] <;> rfl

namespace Hall

variable {ι ρ : Type} [DecidableEq ι] {h : Hall ι ρ} {k : RequestId} {r : Request ι ρ} {x : ι}

/-- All that a run changes about a request that it leaves alone wakes it. -/
theorem run_bystander (coherent : h.Coherent) (live : h.requests.get? k = some r)
    {ops : List (Operation ι ρ)} (apart : ∀ op ∈ ops, op.actor ≠ some k) :
    ∃ r', (h.run ops).2.requests.get? k = some r' ∧ r.Told r' ∧ r.stage.Later r'.stage := by
  induction ops generalizing h r with
  | nil => exact ⟨r, live, .rfl, .rfl⟩
  | cons op rest ih =>
    obtain ⟨_, moves⟩ := step_moves coherent op.isBy_actor
    obtain ⟨r', live', told, later⟩ := moves.bystander coherent (apart op (by simp)) live
    obtain ⟨r'', live'', told', later'⟩ := ih (moves.coherent coherent) live' fun op mem =>
      apart op (List.mem_cons_of_mem _ mem)
    exact ⟨r'', live'', told.trans told', later.trans later'⟩

/-- Whoever waits for an id is told when it is unregistered. -/
theorem unregister_tells (coherent : h.Coherent) {resource : ρ}
    (done : (h.unregister x).1 = .ok resource) (live : h.requests.get? k = some r)
    (target : r.target = x) :
    ∃ r', (h.unregister x).2.requests.get? k = some r' ∧ r.Told r' ∧
      r'.stage = r.stage.dismissed := by
  rcases unregister_cases coherent x with
    ⟨b, heq, _⟩ | ⟨b, busy, given, events, heq, _⟩
  · simp [heq] at done
  · have live' := requests_notifyParked ({ h with broker := b }.discard (h.broker.line x)) k
    rw [requests_discard, live] at live'
    rw [heq]
    refine ⟨_, live', r.told_both .discarded _, ?_⟩
    cases stage : r.stage with
    | fresh => split <;> simp [Request.stage_notify, Request.stage_receive, stage, Stage.dismissed]
    | parked notified =>
      split <;> simp [Request.stage_notify, Request.stage_receive, stage, Stage.dismissed]
    | queued ticket mail =>
      rw [Request.stage_told_queued stage]
      cases mail with
      | awaited =>
        have mem := target ▸ coherent.awaited k r ticket live stage
        rw [if_pos]
        · rfl
        · simp only [List.any_eq_true, decide_eq_true_eq]
          exact ⟨_, mem, rfl⟩
      | discarded => rw [ite_self]; rfl
      | sent given' =>
        rw [if_neg]
        · rfl
        · simp only [List.any_eq_true, decide_eq_true_eq, not_exists, not_and]
          exact fun signal mem => coherent.not_inLine live (by simp [stage]) mem

/-! ### Polling -/

theorem poll_discarded {ticket : UInt64} (live : h.requests.get? k = some r)
    (stage : r.stage = .queued ticket .discarded) (tie : Tie) :
    (h.poll tie k).1 = some (.error (.unregistered r.target)) := by
  rw [poll_discarded_eq live stage]

/-- A parked request that was notified asks for the resource anew. -/
theorem poll_notified (live : h.requests.get? k = some r) (stage : r.stage = .parked true)
    (patient : h.isCancelled r = false) (tie : Tie) :
    match h.broker.records.get? r.target with
    | none => (h.poll tie k).1 = some (.error (.unregistered r.target))
    | some record =>
      if record.busy then (h.poll tie k).1 = none ∨ (h.poll tie k).1 = some (.error .timedOut)
      else (h.poll tie k).1 = some (.ok record.resource) := by
  have patient' : (h.setRequest k (r.polledAt h.now)).isCancelled (r.polledAt h.now) = false :=
    patient
  have asked : (h.setRequest k (r.polledAt h.now)).advanceRequest tie k (r.polledAt h.now) =
      (h.setRequest k (r.polledAt h.now)).attempt k (r.polledAt h.now) true := by
    simp [advanceRequest, stage, patient']
  have broker : (h.setRequest k (r.polledAt h.now)).broker = h.broker := rfl
  cases known : h.broker.records.get? r.target with
  | none => simp [poll, live, asked, attempt, broker, Broker.request, known]
  | some record =>
    simp only [poll, live, asked, attempt, patient', broker, Request.target_polledAt,
      Broker.request, known, if_false, Bool.false_eq_true]
    split
    · cases record.waiters.push ⟨h.broker.nextTicket, k⟩ <;> simp only <;> split <;> simp
    · simp

/-- A request that was polled before is never told that its id is not registered. -/
theorem poll_ne_notRegistered (coherent : h.Coherent) (live : h.requests.get? k = some r)
    (underway : r.isUnderway = true) (tie : Tie) (y : ι) :
    (h.poll tie k).1 ≠ some (.error (.notRegistered y)) := by
  intro refused
  rcases poll_ended coherent live refused with late | ⟨h', advance⟩
  · cases late
  · cases advance with
    | asked wasParked stage attempt =>
      rw [Request.stage_polledAt] at stage
      cases wasParked with
      | true => cases attempt
      | false => simp [Request.isUnderway, stage] at underway

/-! ### Outcomes -/

/-- A request waits for an id without having been sent its resource, and the id is
unregistered. Whatever happens until it is polled, if its token is not cancelled by then,
it is told that the id was unregistered just when it stood in line, or the id is still not
registered; a request that was parked gets the resource of a later registration when that is
free. None that was polled before is told that its id is not registered. -/
theorem outcome_after_unregister {settings : Settings} (reachable : Reachable settings h)
    {resource : ρ} (done : (h.unregister x).1 = .ok resource) (live : h.requests.get? k = some r)
    (target : r.target = x) (underway : r.isUnderway = true) (unsent : r.isSent = false)
    (ops : List (Operation ι ρ)) (apart : ∀ op ∈ ops, op.actor ≠ some k) :
    let after := ((h.unregister x).2.run ops).2
    (after.isCancelled r = false → ∀ tie,
      ((after.poll tie k).1 = some (.error (.unregistered x)) ↔
        (∃ ticket mail, r.stage = .queued ticket mail) ∨ after.broker.contains x = false) ∧
      ∀ later, (after.poll tie k).1 = some (.ok later) ↔
        (∃ notified, r.stage = .parked notified) ∧
          ∃ record, after.broker.records.get? x = some record ∧ record.busy = false ∧
            record.resource = later) ∧
    ∀ j s, after.requests.get? j = some s → s.isUnderway = true → ∀ tie y,
      (after.poll tie j).1 ≠ some (.error (.notRegistered y)) := by
  intro after
  have reachable₁ : Reachable settings (h.unregister x).2 := .next (.unregister x) reachable
  obtain ⟨r₁, live₁, told₁, stage₁⟩ := unregister_tells reachable.coherent done live target
  obtain ⟨r₂, live₂, told₂, later⟩ := run_bystander reachable₁.coherent live₁ apart
  have stage₂ : r₂.stage = r.stage.dismissed := Stage.dismissed_later (stage₁ ▸ later)
  have told := told₁.trans told₂
  have target₂ : r₂.target = x := told.target.trans target
  refine ⟨fun patient tie => ?_, fun j s live' underway' tie y =>
    poll_ne_notRegistered (reachable₁.run ops).coherent live' underway' tie y⟩
  have inLine : ∀ {ticket}, r₂.stage = .queued ticket .discarded →
      (after.poll tie k).1 = some (.error (.unregistered x)) := fun stage =>
    target₂ ▸ poll_discarded live₂ stage tie
  cases stage : r.stage with
  | fresh => simp [Request.isUnderway, stage] at underway
  | queued ticket mail =>
    rw [stage] at stage₂
    cases mail with
    | awaited => simp [inLine stage₂]
    | discarded => simp [inLine stage₂]
    | sent given => simp [Request.isSent, stage] at unsent
  | parked notified =>
    rw [stage] at stage₂
    have patient₂ : after.isCancelled r₂ = false := by
      simpa [isCancelled, told.patience] using patient
    have polled := poll_notified live₂ stage₂ patient₂ tie
    rw [target₂] at polled
    simp only [Broker.contains, Registry.contains_eq_false_iff]
    cases known : after.broker.records.get? x with
    | none =>
      simp only [after] at known
      simp only [known] at polled
      simp [after, polled]
    | some record =>
      simp only [after] at known
      simp only [known] at polled
      split at polled
      · rename_i busy
        rcases polled with polled | polled <;> simp [after, polled, busy]
      · rename_i free
        simp [after, polled, free]

theorem outcome_after_unregister_crowded :
    (((crowded.unregister 7).2.run [.release 0 7, .register 7 71 none]).2.poll .retryFirst 0).1 =
      some (.error (.unregistered 7)) ∧
    (((crowded.unregister 7).2.run [.release 0 7]).2.poll .retryFirst 1).1 =
      some (.error (.unregistered 7)) := by
  have reachable : Reachable { Settings.standard with waiterCapacity := 1 } crowded :=
    Reachable.start.run _
  have done : (crowded.unregister 7).1 = .ok 70 := rfl
  have queued : crowded.requests.get? 0 =
      some ⟨7, .token "stop", none, .queued 0 .awaited, false⟩ := rfl
  have parked : crowded.requests.get? 1 =
      some ⟨7, .limit 5, some 5, .parked false, false⟩ := rfl
  have ofQueued := outcome_after_unregister reachable done queued rfl rfl rfl
    [.release 0 7, .register 7 71 none] (by simp [Operation.actor])
  have ofParked := outcome_after_unregister reachable done parked rfl rfl rfl
    [.release 0 7] (by simp [Operation.actor])
  exact ⟨(ofQueued.1 rfl .retryFirst).1.2 (.inl ⟨_, _, rfl⟩),
    (ofParked.1 rfl .retryFirst).1.2 (.inr rfl)⟩

/-- A parked request waits until its id is registered again, and gets the resource of the new
registration. One that stood in line is told that its id was unregistered. -/
theorem parked_gets_later_resource :
    Reachable { Settings.standard with waiterCapacity := 1 } crowded ∧
    (crowded.unregister 7).1 = .ok 70 ∧
    crowded.requests.get? 1 = some ⟨7, .limit 5, some 5, .parked false, false⟩ ∧
    let after := ((crowded.unregister 7).2.run [.release 0 7, .register 7 71 none]).2
    after.isCancelled ⟨7, .limit 5, some 5, .parked false, false⟩ = false ∧
      (after.poll .cancelFirst 1).1 = some (.ok 71) ∧
      (after.poll .cancelFirst 0).1 = some (.error (.unregistered 7)) :=
  ⟨Reachable.start.run _, rfl, rfl, rfl, rfl, rfl⟩

end Hall

end Custody
