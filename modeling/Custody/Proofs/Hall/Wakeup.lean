import Custody.Proofs.Hall.Steps

/-!
# No wakeup is lost

A request that was polled and not woken since has nothing to find out: its signal is in
line, or the line is full, and polling it again changes nothing.

* `Hall.Informed`: the invariant, with an exception for the request that acts;
* `Hall.asleep_until_woken`: the statement for every run.
-/

namespace Custody

namespace Hall

variable {ι ρ : Type} [DecidableEq ι] {h h' : Hall ι ρ} {actor : Option RequestId}
  {transfers : List (Transfer ι)} {k : RequestId} {r : Request ι ρ}

/-- Every request but the one that acts has been woken, or has reason to wait. -/
def Informed (h : Hall ι ρ) (actor : Option RequestId) : Prop :=
  ∀ k r, h.requests.get? k = some r → actor ≠ some k →
    r.stage = .fresh ∨ r.woken = true ∨ r.stage.IsWaiting ∧ h.isCancelled r = false

/-- Nobody is left unaware that a token was cancelled. -/
theorem Move.isCancelled {r' : Request ι ρ} (move : h.Move actor transfers h')
    (live : h.requests.get? k = some r) (live' : h'.requests.get? k = some r') (told : r.Told r')
    (waiting : r'.stage.IsWaiting) (asleep : r'.woken = false) :
    h'.isCancelled r' = h.isCancelled r := by
  have patience : ∀ {g : Hall ι ρ}, g.isCancelled r' = g.isCancelled r := by
    intro g
    simp [Hall.isCancelled, told.patience]
  rw [patience]
  cases move with
  | incident incident =>
    cases incident with
    | cancel token =>
      simp only [Hall.cancel, requests_changeRequests, live, Option.map_some,
        Option.some.injEq] at live'
      have same : r'.stage = r.stage := live' ▸ r.stage_wake _
      rw [same] at waiting
      split at live'
      · have underway : r.isUnderway = true := by
          rcases waiting with stage | ⟨ticket, stage⟩ <;> simp [Request.isUnderway, stage]
        simp [← live', Request.wake, underway] at asleep
      · rename_i hne
        simp only [Hall.isCancelled, Hall.cancel, changeRequests]
        split
        · rename_i name heq
          have hname : name ≠ token := fun hname => hne (hname ▸ heq)
          simp [hname]
        · rfl
        · rfl
    | _ => exact isCancelled_congr rfl r
  | _ => exact isCancelled_congr rfl r

theorem Move.informed (move : h.Move actor transfers h') (coherent : h.Coherent)
    (informed : h.Informed actor) : h'.Informed actor := by
  intro k r' live' other
  rcases move.before coherent other live' with ⟨r, live, told, later⟩ | ⟨_, fresh⟩
  · rcases told.heard with rfl | woken
    · rcases informed k r' live other with fresh | woken | ⟨waiting, patient⟩
      · exact .inl fresh
      · exact .inr (.inl woken)
      · cases asleep : r'.woken with
        | true => exact .inr (.inl rfl)
        | false =>
          have same := move.isCancelled live live' told waiting asleep
          exact .inr (.inr ⟨waiting, same.trans patient⟩)
    · exact .inr (.inl woken)
  · exact .inl fresh

theorem Moves.informed (moves : Moves actor h transfers h') (coherent : h.Coherent)
    (informed : h.Informed actor) : h'.Informed actor := by
  have both := moves.preserve (P := fun h => h.Coherent ∧ h.Informed actor)
    (fun move hinv => ⟨move.coherent hinv.1, move.informed hinv.1 hinv.2⟩) ⟨coherent, informed⟩
  exact both.2

/-- A request that was polled is over, or has reason to wait. -/
theorem poll_informed (coherent : h.Coherent) (tie : Tie) (k : RequestId)
    (informed : h.Informed none) : (h.poll tie k).2.Informed none := by
  cases live : h.requests.get? k with
  | none =>
    simp only [poll, live]
    exact informed
  | some r =>
    obtain ⟨moves, ended⟩ := poll_moves coherent tie live
    have others := moves.informed coherent fun j s hs _ => informed j s hs (by simp)
    intro j s hs _
    by_cases hj : j = k
    · subst hj
      split at ended
      · simp [ended] at hs
      · obtain ⟨stage, waiting, live', patient⟩ := ended
        rw [live', Option.some.injEq] at hs
        subst hs
        exact .inr (.inr ⟨waiting, patient⟩)
    · exact others j s hs fun heq => hj (Option.some.inj heq).symm

theorem Reachable.informed {settings : Settings} (reachable : Reachable settings h) :
    h.Informed none := by
  induction reachable with
  | start =>
    intro k r live
    simp [opening] at live
  | @next h op reachable ih =>
    have coherent := reachable.coherent
    obtain ⟨transfers, moves⟩ := step_moves coherent op.isBy_actor
    cases op with
    | poll request tie =>
      rw [step_poll]
      exact poll_informed coherent tie request ih
    | drop request =>
      have others := moves.informed coherent fun k r live _ => ih k r live (by simp)
      intro k r live _
      by_cases hk : k = request
      · subst hk
        simp [step, requests_drop] at live
      · exact others k r live fun heq => hk (Option.some.inj heq).symm
    | _ => exact moves.informed coherent ih

/-- A request that waits with good reason is polled in vain. -/
theorem poll_waiting (live : h.requests.get? k = some r) (waiting : r.stage.IsWaiting)
    (asleep : r.woken = false) (patient : h.isCancelled r = false)
    (early : r.isOverdue h.now = false) (tie : Tie) : h.poll tie k = (none, h) := by
  have polled : r.polledAt h.now = r := by
    obtain ⟨target, patience, deadline, stage, woken⟩ := r
    simp only at asleep waiting
    subst asleep
    rcases waiting with rfl | ⟨ticket, rfl⟩ <;> rfl
  have same : h.setRequest k r = h := by
    simp [setRequest, Registry.put_self live]
  have advance : h.advanceRequest tie k r = (none, h) := by
    rcases waiting with stage | ⟨ticket, stage⟩ <;> simp [advanceRequest, stage, patient]
  simp [poll, live, polled, same, advance, early]

/-- No wakeup is lost. In every run, a request that was polled, was not woken since and is
not overdue is polled in vain, and nothing changes. One that is parked and was not
notified faces a full line; one that is queued has its signal in line and its token has
not been cancelled. -/
theorem asleep_until_woken {settings : Settings} (reachable : Reachable settings h)
    (live : h.requests.get? k = some r) :
    (r.isUnderway = true → r.woken = false → r.isOverdue h.now = false →
      ∀ tie, h.poll tie k = (none, h)) ∧
    (r.stage = .parked false → ∃ record, h.broker.records.get? r.target = some record ∧
      record.busy = true ∧ record.waiters.isFull = true) ∧
    (∀ ticket mail, r.stage = .queued ticket mail → r.woken = false →
      ∃ record, h.broker.records.get? r.target = some record ∧
        ⟨ticket, k⟩ ∈ record.waiters.toList ∧ h.isCancelled r = false) := by
  have coherent := reachable.coherent
  have informed := reachable.informed k r live (by simp)
  refine ⟨?_, ?_, ?_⟩
  · intro underway asleep early
    rcases informed with fresh | woken | ⟨waiting, patient⟩
    · simp [Request.isUnderway, fresh] at underway
    · simp [asleep] at woken
    · exact poll_waiting live waiting asleep patient early
  · intro stage
    obtain ⟨held, full⟩ := coherent.parked k r live stage
    obtain ⟨record, known, busy⟩ := Broker.exists_record held
    have valid := coherent.broker.record _ record known
    refine ⟨record, known, busy, (Queue.isFull_iff record.waiters).2 ?_⟩
    rw [← Queue.length_toList valid.sound, valid.capacity, ← full, Broker.line_of_get? known]
  · intro ticket mail stage asleep
    rcases informed with fresh | woken | ⟨waiting, patient⟩
    · simp [fresh] at stage
    · simp [asleep] at woken
    · have awaited : r.stage = .queued ticket .awaited := by
        rcases waiting with parked | ⟨other, queued⟩
        · simp [parked] at stage
        · rw [queued, Stage.queued.injEq] at stage
          rw [queued, stage.1]
      have mem := coherent.awaited k r ticket live awaited
      cases known : h.broker.records.get? r.target with
      | none => simp [Broker.line_of_unknown known] at mem
      | some record =>
        rw [Broker.line_of_get? known] at mem
        exact ⟨record, rfl, mem, patient⟩

/-- A resource is held. One request is in line for it, and another found the line full. -/
def crowded : Hall Nat Nat :=
  ((opening (.empty { Settings.standard with waiterCapacity := 1 })).run
    [.register 7 70 none, .takeAny, .start 0 7 (.token "stop"), .poll 0 .cancelFirst,
      .start 1 7 (.limit 5), .poll 1 .cancelFirst, .elapse 4]).2

theorem asleep_when_crowded :
    ((∀ tie, crowded.poll tie 1 = (none, crowded)) ∧
      ∃ record, crowded.broker.records.get? 7 = some record ∧
        record.busy = true ∧ record.waiters.isFull = true) ∧
    ∃ record, crowded.broker.records.get? 7 = some record ∧
      ⟨0, 0⟩ ∈ record.waiters.toList ∧
      crowded.isCancelled (.start 7 (.token "stop")) = false := by
  have reachable : Reachable { Settings.standard with waiterCapacity := 1 } crowded :=
    Reachable.start.run _
  have parked : crowded.requests.get? 1 =
      some ⟨7, .limit 5, some 5, .parked false, false⟩ := by rfl
  have queued : crowded.requests.get? 0 =
      some ⟨7, .token "stop", none, .queued 0 .awaited, false⟩ := by rfl
  have ofParked := asleep_until_woken reachable parked
  have ofQueued := asleep_until_woken reachable queued
  exact ⟨⟨ofParked.1 rfl rfl rfl, ofParked.2.1 rfl⟩, ofQueued.2.2 0 .awaited rfl rfl⟩

end Hall

end Custody
