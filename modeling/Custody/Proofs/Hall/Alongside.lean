import Custody.Proofs.Hall.Apart

/-!
# Halls side by side

An operation that is not on the one id in which two halls differ has the same answer in
both, and leaves them in agreement.

* `Hall.Alongside`: two halls agree but for one id;
* `Hall.Sound`: what holds of a hall as long as tickets have not come round;
* `Hall.Alongside.attempt`, `Hall.Alongside.abandon`, `Hall.Alongside.advance`,
  `Hall.Alongside.poll`: requests for other ids keep pace.

A request that is parked may have been notified in one hall only. It looks again and finds
the line still full, since only a full line lets a request wait without a notification.
-/

namespace Custody

namespace Stage

variable {ρ : Type} {s : Stage ρ}

theorem outline_eq_fresh_iff : s.outline = (fresh : Stage ρ).outline ↔ s = .fresh := by
  cases s <;> simp [outline]

theorem outline_eq_queued_iff {ticket : UInt64} {mail : Mail ρ} :
    s.outline = (queued ticket mail).outline ↔ ∃ ticket', s = .queued ticket' mail := by
  cases s <;> simp [outline]

theorem outline_eq_parked_iff {notified : Bool} :
    s.outline = (parked notified : Stage ρ).outline ↔ ∃ notified', s = .parked notified' := by
  cases s <;> simp [outline]

end Stage

/-- The resource is held, and its waiting queue is full. -/
def Broker.IsCrowded {ι ρ : Type} [DecidableEq ι] (b : Broker ι ρ) (id : ι) : Prop :=
  b.isBusy? id = some true ∧ (b.line id).length = b.settings.waiterCapacity.toNat

namespace Hall

variable {ι ρ : Type} [DecidableEq ι] {h h' g g' : Hall ι ρ} {x y : ι} {k : RequestId}
  {r r' : Request ι ρ} {lead : Nat} {settings : Settings}

/-- The halls agree but for one id, and the first has issued so many more tickets. -/
structure Alongside (x : ι) (lead : Nat) (h g : Hall ι ρ) : Prop where
  agree : AgreeOff x h g
  issued : h.ticketsIssued = g.ticketsIssued + lead

/-- A request that is not for the id is there in both halls or in neither. -/
theorem AgreeOff.live_cases (agree : AgreeOff x h g)
    (elsewhere : ∀ r, h.requests.get? k = some r → r.target ≠ x)
    (elsewhere' : ∀ r, g.requests.get? k = some r → r.target ≠ x) :
    (h.requests.get? k = none ∧ g.requests.get? k = none) ∨
    ∃ r r', h.requests.get? k = some r ∧ g.requests.get? k = some r' ∧ r.target ≠ x ∧
      r'.outline = r.outline := by
  rcases agree.seen_cases k with ⟨own, own'⟩ | both
  · refine .inl ⟨?_, ?_⟩
    · exact Option.eq_none_iff_forall_ne_some.2 fun r live => elsewhere r live (own r live)
    · exact Option.eq_none_iff_forall_ne_some.2 fun r live => elsewhere' r live (own' r live)
  · exact .inr both

/-- A request is written anew in the same outline. -/
theorem setRequest_alike (live : h.requests.get? k = some r) (same : r'.outline = r.outline) :
    AgreeOff x h (h.setRequest k r') where
  broker := .refl x _
  seen j := by
    by_cases hj : j = k
    · subst hj
      have live' : (h.setRequest j r').requests.get? j = some r' := by simp
      rw [seenOff_of_get? live, seenOff_of_get? live', same, (Request.outline_eq_iff.1 same).1]
    · simp [seenOff, hj]
  cancelled := rfl
  now := rfl

omit [DecidableEq ι] in
theorem ticketsIssued_report (h : Hall ι ρ) (events : List (Event ι)) :
    (h.report events).ticketsIssued = h.ticketsIssued + events.countP Event.isQueued :=
  List.countP_append

omit [DecidableEq ι] in
theorem countP_of_quiet {events : List (Event ι)}
    (quiet : ∀ event ∈ events, event.isQueued = false) : events.countP Event.isQueued = 0 := by
  simpa [List.countP_eq_zero] using quiet

namespace Alongside

/-! ### Changes made to both -/

theorem withBroker (along : Alongside x lead h g) {b c : Broker ι ρ}
    (agree : Broker.AgreeOff x b c) :
    Alongside x lead { h with broker := b } { g with broker := c } :=
  ⟨⟨agree, along.agree.seen, along.agree.cancelled, along.agree.now⟩, along.issued⟩

/-- Requests change in both, and those that had the same outline still have. -/
theorem changeRequests (along : Alongside x lead h g)
    {f f' : RequestId → Request ι ρ → Request ι ρ} (target : ∀ k r, (f k r).target = r.target)
    (target' : ∀ k r, (f' k r).target = r.target)
    (same : ∀ k r r', r'.outline = r.outline → (f' k r').outline = (f k r).outline) :
    Alongside x lead (h.changeRequests f) (g.changeRequests f') := by
  refine ⟨⟨along.agree.broker, fun k => ?_, along.agree.cancelled, along.agree.now⟩,
    along.issued⟩
  rcases along.agree.seen_cases k with ⟨own, own'⟩ | ⟨r, r', live, live', other, outline⟩
  · have hidden : ∀ {i : Hall ι ρ} {f : RequestId → Request ι ρ → Request ι ρ},
        (∀ k r, (f k r).target = r.target) →
        (∀ r, i.requests.get? k = some r → r.target = x) →
        (i.changeRequests f).seenOff x k = none := by
      intro i f target own
      rw [seenOff_eq_none_iff]
      intro r live
      rw [requests_changeRequests, Option.map_eq_some_iff] at live
      obtain ⟨old, live, rfl⟩ := live
      rw [target, own old live]
    rw [hidden target own, hidden target' own']
  · have changed : (h.changeRequests f).requests.get? k = some (f k r) := by simp [live]
    have changed' : (g.changeRequests f').requests.get? k = some (f' k r') := by simp [live']
    have goal : r'.target = r.target := (Request.outline_eq_iff.1 outline).1
    rw [seenOff_of_get? changed, seenOff_of_get? changed', target, target', goal, if_neg other,
      if_neg other, same k r r' outline]

theorem notifyParked (along : Alongside x lead h g) :
    Alongside x lead h.notifyParked g.notifyParked := by
  refine along.changeRequests (fun _ r => r.told_notify.target) (fun _ r => r.told_notify.target)
    fun _ r r' same => ?_
  rw [Request.outline_notify, Request.outline_notify, same]

theorem deliver (along : Alongside x lead h g) (delivery : Option (RequestId × ρ)) :
    Alongside x lead (h.deliver delivery) (g.deliver delivery) := by
  cases delivery with
  | none => exact along
  | some sent =>
    exact along.changeRequests (fun _ r => r.target_received _ _)
      (fun _ r => r.target_received _ _) fun _ _ _ same => Request.outline_received same _ _

/-- The same requests wait in vain. -/
theorem discard (along : Alongside x lead h g) {signals signals' : List Signal}
    (requests : signals'.map Signal.request = signals.map Signal.request) :
    Alongside x lead (h.discard signals) (g.discard signals') := by
  refine along.changeRequests (fun _ r => r.target_received _ _)
    (fun _ r => r.target_received _ _) fun k r r' same => ?_
  have told : (signals'.any fun signal => signal.request = k) =
      signals.any fun signal => signal.request = k := by
    simpa [List.any_map, Function.comp_def] using
      congrArg (fun line => line.any fun j => decide (j = k)) requests
  rw [told]
  exact Request.outline_received same _ _

theorem setRequest (along : Alongside x lead h g) (same : r'.outline = r.outline)
    (k : RequestId) : Alongside x lead (h.setRequest k r) (g.setRequest k r') := by
  refine ⟨⟨along.agree.broker, fun j => ?_, along.agree.cancelled, along.agree.now⟩,
    along.issued⟩
  by_cases hj : j = k
  · subst hj
    have live : (h.setRequest j r).requests.get? j = some r := by simp
    have live' : (g.setRequest j r').requests.get? j = some r' := by simp
    rw [seenOff_of_get? live, seenOff_of_get? live', same, (Request.outline_eq_iff.1 same).1]
  · have seen := along.agree.seen j
    simpa [seenOff, hj] using seen

theorem remove (along : Alongside x lead h g) (k : RequestId) :
    Alongside x lead (h.remove k) (g.remove k) := by
  refine ⟨⟨along.agree.broker, fun j => ?_, along.agree.cancelled, along.agree.now⟩,
    along.issued⟩
  by_cases hj : j = k
  · subst hj
    rw [seenOff_of_gone (by simp), seenOff_of_gone (by simp)]
  · have seen := along.agree.seen j
    simpa [seenOff, hj] using seen

theorem report (along : Alongside x lead h g) {events events' : List (Event ι)}
    (same : events'.countP Event.isQueued = events.countP Event.isQueued) :
    Alongside x lead (h.report events) (g.report events') := by
  refine ⟨⟨along.agree.broker, along.agree.seen, along.agree.cancelled, along.agree.now⟩, ?_⟩
  rw [ticketsIssued_report, ticketsIssued_report, same, along.issued]
  omega

/-- Both report what issues no ticket. -/
theorem report_quiet (along : Alongside x lead h g) {events events' : List (Event ι)}
    (quiet : ∀ event ∈ events, event.isQueued = false)
    (quiet' : ∀ event ∈ events', event.isQueued = false) :
    Alongside x lead (h.report events) (g.report events') :=
  along.report ((countP_of_quiet quiet').trans (countP_of_quiet quiet).symm)

theorem isCancelled (along : Alongside x lead h g) (same : r'.outline = r.outline) :
    g.isCancelled r' = h.isCancelled r := by
  have patience : r'.patience = r.patience := (Request.outline_eq_iff.1 same).2.1
  simp only [Hall.isCancelled, patience, along.agree.cancelled]

end Alongside

/-- A hall as runs leave it that issued fewer than 2 ^ 64 tickets. -/
structure Sound (settings : Settings) (h : Hall ι ρ) : Prop where
  coherent : h.Coherent
  ticketed : h.Ticketed
  regular : h.broker.Regular settings

theorem Reachable.sound (reachable : Reachable settings h)
    (bound : h.ticketsIssued < 2 ^ 64) : h.Sound settings :=
  ⟨reachable.coherent, reachable.ticketed bound, reachable.regular⟩

theorem Moves.sound {actor : Option RequestId} {transfers : List (Transfer ι)}
    (moves : Moves actor h transfers h') (sound : h.Sound settings)
    (bound : h'.ticketsIssued < 2 ^ 64) (regular : h'.broker.Regular settings) :
    h'.Sound settings :=
  ⟨moves.coherent sound.coherent, moves.ticketed sound.coherent bound sound.ticketed, regular⟩

theorem Sound.bound (sound : h.Sound settings) : h.ticketsIssued < 2 ^ 64 :=
  sound.ticketed.next ▸ UInt64.toNat_lt _

/-- Nobody else's signal has the ticket of a request. -/
theorem Sound.alone (sound : h.Sound settings) (live : h.requests.get? k = some r)
    {ticket : UInt64} {mail : Mail ρ} (stage : r.stage = .queued ticket mail) :
    ∀ signal ∈ h.broker.line r.target, signal.ticket = ticket → signal = ⟨ticket, k⟩ :=
  fun _ mem same => (sound.ticketed.eq_signal sound.coherent live stage mem same).1

/-- A request whose signal brought mail has no signal in line any more. -/
theorem Sound.leave?_none (sound : h.Sound settings) (live : h.requests.get? k = some r)
    {ticket : UInt64} {mail : Mail ρ} (stage : r.stage = .queued ticket mail)
    (opened : mail ≠ .awaited) : h.broker.leave? r.target ticket = none := by
  refine leave?_of_none sound.coherent (List.find?_eq_none.2 fun signal mem => ?_)
  intro same
  have same : signal.ticket = ticket := by simpa using same
  exact opened (sound.ticketed.eq_signal sound.coherent live stage mem same).2

/-! ### Requests for other ids -/

/-- Whoever asks for a resource with a full line is parked, or is cancelled. -/
theorem attempt_crowded (valid : h.broker.Valid) (crowded : h.broker.IsCrowded r.target)
    (k : RequestId) (wasParked : Bool) :
    h.attempt k r wasParked =
      if h.isCancelled r then (some (.error .cancelled), h)
      else (none, h.setRequest k { r with stage := .parked false }) := by
  obtain ⟨held, full⟩ := crowded
  cases patient : h.isCancelled r with
  | true => simp only [attempt, patient, Broker.request_cancelled held, if_true]
  | false =>
    have answered := Broker.request_held valid held k
    rw [if_neg (by omega)] at answered
    simp only [attempt, patient, answered]
    rfl

/-- A parked request that finds the line still full stays as it is, or is cancelled,
whether it was notified or not. -/
theorem advance_crowded (valid : h.broker.Valid) (live : h.requests.get? k = some r)
    {notified : Bool} (stage : r.stage = .parked notified)
    (crowded : h.broker.IsCrowded r.target) (tie : Tie) :
    (h.advanceRequest tie k r).1 =
        (if h.isCancelled r then some (.error .cancelled) else none) ∧
      ∀ x, Alongside x 0 h (h.advanceRequest tie k r).2 := by
  have still : ∀ x, Alongside x 0 h h := fun x => ⟨.refl x h, rfl⟩
  unfold advanceRequest
  rw [stage]
  simp only [attempt_crowded valid crowded]
  cases patient : h.isCancelled r with
  | true =>
    split
    · exact ⟨rfl, still⟩
    · rename_i unasked
      have told : notified = true := by
        cases notified <;> simp_all
      simp only [told, if_true]
      exact ⟨trivial, still⟩
  | false =>
    cases notified with
    | false => exact ⟨rfl, still⟩
    | true =>
      refine ⟨rfl, fun x => ⟨setRequest_alike live ?_, rfl⟩⟩
      exact Request.outline_eq_iff.2 ⟨rfl, rfl, rfl, by rw [stage]; rfl⟩

theorem Sound.look (sound : h.Sound settings) (live : h.requests.get? k = some r) :
    (h.look k r).Sound settings :=
  (Move.look live).moves.sound sound sound.bound sound.regular

namespace Alongside

theorem attempt (along : Alongside x lead h g) (sound : h.Sound settings)
    (sound' : g.Sound settings) (other : r.target ≠ x) (same : r'.outline = r.outline)
    (k : RequestId) (wasParked : Bool) :
    (g.attempt k r' wasParked).1 = (h.attempt k r wasParked).1 ∧
      Alongside x lead (h.attempt k r wasParked).2 (g.attempt k r' wasParked).2 := by
  obtain ⟨goal, patience', deadline', stage', woken'⟩ := r'
  have cancelled := along.isCancelled same
  obtain ⟨rfl, patience, deadline, _⟩ := Request.outline_eq_iff.1 same
  have written : ∀ {s s' : Stage ρ}, s'.outline = s.outline →
      (⟨r.target, patience', deadline', s', woken'⟩ : Request ι ρ).outline =
        ({ r with stage := s } : Request ι ρ).outline := fun stage =>
    Request.outline_eq_iff.2 ⟨rfl, patience, deadline, stage⟩
  obtain ⟨received, agree⟩ := along.agree.broker.request other sound.regular.valid
    sound'.regular.valid k (h.isCancelled r)
  have moved := along.withBroker agree
  unfold Hall.attempt
  rw [cancelled]
  rcases asked : h.broker.request r.target k (h.isCancelled r) with ⟨reception, b⟩
  rcases asked' : g.broker.request r.target k (h.isCancelled r) with ⟨reception', c⟩
  rw [asked, asked'] at received moved
  cases reception <;> cases reception' <;>
    simp only [Reception.outline, reduceCtorEq, Reception.granted.injEq] at received
  · exact ⟨rfl, moved⟩
  · subst received
    exact ⟨rfl, moved.report rfl⟩
  · exact ⟨rfl, moved⟩
  · exact ⟨rfl, moved.setRequest (written rfl) k⟩
  · rename_i ticket ticket'
    have stage : (Stage.queued ticket' .awaited : Stage ρ).outline =
        (Stage.queued ticket .awaited).outline := rfl
    refine ⟨rfl, (moved.setRequest (written stage) k).report ?_⟩
    rfl

/-- A request that gives up does the same to everyone else. -/
theorem abandon (along : Alongside x lead h g) (sound : h.Sound settings)
    (sound' : g.Sound settings) (live : h.requests.get? k = some r)
    (live' : g.requests.get? k = some r') (other : r.target ≠ x)
    (same : r'.outline = r.outline) : Alongside x lead (h.abandon r) (g.abandon r') := by
  obtain ⟨target, _, _, stages⟩ := Request.outline_eq_iff.1 same
  unfold Hall.abandon
  cases stage : r.stage with
  | fresh =>
    have stage' := Stage.outline_eq_fresh_iff.1 (stage ▸ stages)
    rw [stage']
    exact along
  | parked notified =>
    obtain ⟨notified', stage'⟩ := Stage.outline_eq_parked_iff.1 (stage ▸ stages)
    rw [stage']
    exact along
  | queued ticket mail =>
    obtain ⟨ticket', stage'⟩ := Stage.outline_eq_queued_iff.1 (stage ▸ stages)
    have alone := sound.alone live stage
    have alone' := sound'.alone live' stage'
    have left : mail ≠ .awaited → h.broker.leave? r.target ticket = none :=
      sound.leave?_none live stage
    have left' : mail ≠ .awaited → g.broker.leave? r'.target ticket' = none :=
      sound'.leave?_none live' stage'
    rw [stage']
    simp only [target] at alone' left' ⊢
    unfold abandonSignal
    cases mail with
    | awaited =>
      have mem := sound.coherent.awaited k r ticket live stage
      have mem' := target ▸ sound'.coherent.awaited k r' ticket' live' stage'
      obtain ⟨b, c, left, left', agree⟩ := along.agree.broker.leave other sound.regular.valid
        sound'.regular.valid (sound.coherent.distinct r.target) mem mem' alone alone'
      simp only [left, left']
      exact (((along.withBroker agree).discard rfl).notifyParked).report rfl
    | discarded =>
      simp only [left (by simp), left' (by simp)]
      exact along
    | sent resource =>
      obtain ⟨verdict, delivery, agree⟩ := along.agree.broker.handOver other sound.regular
        sound'.regular (sound.ticketed.dropWhile_line r.target)
        (sound'.ticketed.dropWhile_line r.target) (h.broker.lastPriority r.target)
      simp only [left (by simp), left' (by simp), along.agree.broker.lastPriority other, delivery]
      refine (((along.withBroker agree).deliver _).notifyParked).report_quiet ?_ ?_
      · exact quiet_append (quiet_ofHanding _ _) rfl
      · exact quiet_append (quiet_ofHanding _ _) rfl

theorem drop (along : Alongside x lead h g) (sound : h.Sound settings)
    (sound' : g.Sound settings) (elsewhere : ∀ r, h.requests.get? k = some r → r.target ≠ x)
    (elsewhere' : ∀ r, g.requests.get? k = some r → r.target ≠ x) :
    Alongside x lead (h.drop k) (g.drop k) := by
  rcases along.agree.live_cases elsewhere elsewhere' with
    ⟨gone, gone'⟩ | ⟨r, r', live, live', other, same⟩
  · simp only [Hall.drop, gone, gone']
    exact along
  · simp only [Hall.drop, live, live']
    exact (along.abandon sound sound' live live' other same).remove k

/-- Both halls find the line of another id full, or neither does. -/
theorem crowded_iff (along : Alongside x lead h g) (other : y ≠ x) :
    g.broker.IsCrowded y ↔ h.broker.IsCrowded y := by
  have length : (g.broker.line y).length = (h.broker.line y).length := by
    simpa using congrArg List.length (along.agree.broker.line other)
  simp only [Broker.IsCrowded, length, along.agree.broker.isBusy? other,
    along.agree.broker.settings]

/-- Each hall went on without a change that counts. -/
theorem settle (along : Alongside x lead h g) (first : Alongside x 0 h h')
    (second : Alongside x 0 g g') : Alongside x lead h' g' where
  agree := first.agree.symm.trans (along.agree.trans second.agree)
  issued := by
    have := along.issued
    have := first.issued
    have := second.issued
    omega

theorem advance (along : Alongside x lead h g) (sound : h.Sound settings)
    (sound' : g.Sound settings) (live : h.requests.get? k = some r)
    (live' : g.requests.get? k = some r') (other : r.target ≠ x)
    (same : r'.outline = r.outline) (tie : Tie) :
    (g.advanceRequest tie k r').1 = (h.advanceRequest tie k r).1 ∧
      Alongside x lead (h.advanceRequest tie k r).2 (g.advanceRequest tie k r').2 := by
  obtain ⟨target, _, _, stages⟩ := Request.outline_eq_iff.1 same
  have cancelled := along.isCancelled same
  cases stage : r.stage with
  | fresh =>
    have stage' := Stage.outline_eq_fresh_iff.1 (stage ▸ stages)
    simp only [advanceRequest, stage, stage']
    exact along.attempt sound sound' other same k false
  | queued ticket mail =>
    obtain ⟨ticket', stage'⟩ := Stage.outline_eq_queued_iff.1 (stage ▸ stages)
    cases mail with
    | sent resource =>
      simp only [advanceRequest, stage, stage', target]
      exact ⟨trivial, along.report rfl⟩
    | discarded =>
      simp only [advanceRequest, stage, stage', target]
      exact ⟨trivial, along⟩
    | awaited =>
      simp only [advanceRequest, stage, stage', cancelled]
      split
      · exact ⟨rfl, along.abandon sound sound' live live' other same⟩
      · exact ⟨rfl, along⟩
  | parked notified =>
    obtain ⟨notified', stage'⟩ := Stage.outline_eq_parked_iff.1 (stage ▸ stages)
    by_cases both : notified = true ∧ notified' = true
    · obtain ⟨rfl, rfl⟩ := both
      simp only [advanceRequest, stage, stage', cancelled]
      split
      · exact ⟨rfl, along⟩
      · exact along.attempt sound sound' other same k true
    · -- One was not notified, so its line is full, and the other's is as well.
      have crowded : h.broker.IsCrowded r.target := by
        cases notified with
        | false => exact sound.coherent.parked k r live stage
        | true =>
          obtain rfl : notified' = false := by simpa using both
          exact (along.crowded_iff other).1 (target ▸ sound'.coherent.parked k r' live' stage')
      have crowded' : g.broker.IsCrowded r'.target :=
        target ▸ (along.crowded_iff other).2 crowded
      obtain ⟨answer, still⟩ := advance_crowded sound.regular.valid live stage crowded tie
      obtain ⟨answer', still'⟩ := advance_crowded sound'.regular.valid live' stage' crowded' tie
      exact ⟨by rw [answer, answer', cancelled], along.settle (still x) (still' x)⟩

theorem poll (along : Alongside x lead h g) (sound : h.Sound settings)
    (sound' : g.Sound settings) (elsewhere : ∀ r, h.requests.get? k = some r → r.target ≠ x)
    (elsewhere' : ∀ r, g.requests.get? k = some r → r.target ≠ x) (tie : Tie)
    (bound : (h.poll tie k).2.ticketsIssued < 2 ^ 64) :
    (g.poll tie k).1 = (h.poll tie k).1 ∧
      Alongside x lead (h.poll tie k).2 (g.poll tie k).2 := by
  rcases along.agree.live_cases elsewhere elsewhere' with
    ⟨gone, gone'⟩ | ⟨r, r', live, live', other, same⟩
  · simp only [Hall.poll, gone, gone']
    exact ⟨trivial, along⟩
  · have now := along.agree.now
    have polled : (r'.polledAt g.now).outline = (r.polledAt h.now).outline := by
      rw [now]
      exact Request.outline_polledAt same h.now
    have looked : Alongside x lead (h.look k r) (g.look k r') := along.setRequest polled k
    have soundLook := sound.look live
    have soundLook' := sound'.look live'
    obtain ⟨answer, advanced⟩ := looked.advance soundLook soundLook' (requests_look h k r)
      (requests_look g k r') other polled tie
    have advance := advance_cases soundLook.coherent tie k (r.polledAt h.now)
    have advance' := advance_cases soundLook'.coherent tie k (r'.polledAt g.now)
    have regular := (lasts_regular settings).advance soundLook.regular tie k (r.polledAt h.now)
    have regular' := (lasts_regular settings).advance soundLook'.regular tie k (r'.polledAt g.now)
    rw [poll_eq live] at bound ⊢
    rw [poll_eq live']
    rcases hadvance : (h.look k r).advanceRequest tie k (r.polledAt h.now) with ⟨result, h₁⟩
    rcases hadvance' : (g.look k r').advanceRequest tie k (r'.polledAt g.now) with ⟨result', g₁⟩
    simp only [hadvance, hadvance'] at answer advanced advance advance' regular regular' bound ⊢
    subst answer
    cases result' with
    | some outcome => exact ⟨rfl, advanced.remove k⟩
    | none =>
      simp only [Request.isOverdue_congr polled, advanced.agree.now] at bound ⊢
      split
      · rename_i late
        -- Both run out of time together, and are given up as they stand after being run.
        rw [if_pos late] at bound
        obtain ⟨moved, stage, waiting, alive, _⟩ :=
          advance_moves soundLook.coherent (requests_look h k r) advance
        obtain ⟨moved', stage', waiting', alive', _⟩ :=
          advance_moves soundLook'.coherent (requests_look g k r') advance'
        obtain ⟨_, dropped, _⟩ := drop_moves (moved.coherent soundLook.coherent) alive
        have bound₁ := Nat.lt_of_le_of_lt dropped.issued_le bound
        have bound₁' : g₁.ticketsIssued < 2 ^ 64 := by
          have issued := advanced.issued
          omega
        refine ⟨rfl, advanced.drop (moved.sound soundLook bound₁ regular)
          (moved'.sound soundLook' bound₁' regular') ?_ ?_⟩
        · intro s live
          rw [alive, Option.some.injEq] at live
          exact live ▸ other
        · intro s live
          rw [alive', Option.some.injEq] at live
          exact live ▸ (Request.outline_eq_iff.1 polled).1 ▸ other
      · exact ⟨rfl, advanced⟩

/-! ### Operations of the outside world -/

theorem register (along : Alongside x lead h g) (sound : h.Sound settings)
    (sound' : g.Sound settings) (other : y ≠ x)
    (fewer : g.broker.records.size ≤ h.broker.records.size) (resource : ρ)
    (priority? : Option Priority)
    (roomy : ∀ n, (h.register y resource priority?).1 ≠ .error (.capacityExhausted n)) :
    (g.register y resource priority?).1 = (h.register y resource priority?).1 ∧
      Alongside x lead (h.register y resource priority?).2
        (g.register y resource priority?).2 := by
  unfold Hall.register at roomy ⊢
  rw [along.agree.broker.settings]
  simp only at roomy ⊢
  have room : ∀ n, h.broker.register y resource
      (priority?.getD h.broker.settings.defaultPriority) ≠ .error (.capacityExhausted n) := by
    intro n exhausted
    rw [exhausted] at roomy
    exact roomy n rfl
  rcases along.agree.broker.register other sound.regular sound'.regular fewer room with
    ⟨refusal, refused, refused'⟩ | ⟨b, c, done, done', agree⟩
  · rw [refused, refused']
    exact ⟨rfl, along⟩
  · rw [done, done']
    exact ⟨rfl, (along.withBroker agree).report rfl⟩

theorem unregister (along : Alongside x lead h g) (sound : h.Sound settings)
    (sound' : g.Sound settings) (other : y ≠ x) :
    (g.unregister y).1 = (h.unregister y).1 ∧
      Alongside x lead (h.unregister y).2 (g.unregister y).2 := by
  unfold Hall.unregister
  rcases along.agree.broker.unregister other sound.regular.valid sound'.regular.valid with
    ⟨unknown, unknown'⟩ | ⟨record, record', done, done', resource, line, line', agree⟩
  · rw [unknown, unknown']
    exact ⟨rfl, along⟩
  · rcases gone : h.broker.unregister y with ⟨result, b⟩
    rcases gone' : g.broker.unregister y with ⟨result', c⟩
    rw [gone] at done agree
    rw [gone'] at done' agree
    obtain rfl : result = .ok record := done
    obtain rfl : result' = .ok record' := done'
    have waiting : record'.waiters.toList.map Signal.request =
        record.waiters.toList.map Signal.request := by
      rw [line, line', along.agree.broker.line other]
    refine ⟨congrArg Except.ok resource, ?_⟩
    refine (((along.withBroker agree).discard waiting).notifyParked).report_quiet ?_ ?_
    · exact quiet_append (quiet_abandoned y _) rfl
    · exact quiet_append (quiet_abandoned y _) rfl

theorem release (along : Alongside x lead h g) (sound : h.Sound settings)
    (sound' : g.Sound settings) (other : y ≠ x) (priority : Priority) :
    (g.release priority y).1 = (h.release priority y).1 ∧
      Alongside x lead (h.release priority y).2 (g.release priority y).2 := by
  obtain ⟨verdict, delivery, agree⟩ := along.agree.broker.handOver other sound.regular
    sound'.regular (sound.ticketed.dropWhile_line y) (sound'.ticketed.dropWhile_line y) priority
  have told := (along.withBroker agree).report_quiet
    (quiet_ofHanding y (h.broker.handOver h.listens y priority))
    (quiet_ofHanding y (g.broker.handOver g.listens y priority))
  unfold Hall.release
  simp only [verdict, delivery]
  split
  · exact ⟨rfl, told⟩
  · exact ⟨rfl, ((told.deliver _).notifyParked).report rfl⟩

theorem withdraw (along : Alongside x lead h g) (sound : h.Sound settings)
    (sound' : g.Sound settings) (other : y ≠ x) :
    (g.withdraw y).1 = (h.withdraw y).1 ∧
      Alongside x lead (h.withdraw y).2 (g.withdraw y).2 := by
  obtain ⟨flag, agree⟩ :=
    along.agree.broker.withdraw other sound.regular.valid sound'.regular.valid
  exact ⟨flag, along.withBroker agree⟩

/-- A request with a number that is new to both halls starts in both. -/
theorem start (along : Alongside x lead h g) (new : h.nextRequest ≤ k)
    (new' : g.nextRequest ≤ k) (y : ι) (patience : Patience) :
    (g.start k y patience).1 = (h.start k y patience).1 ∧
      Alongside x lead (h.start k y patience).2 (g.start k y patience).2 := by
  have given : Alongside x lead { h with nextRequest := k + 1 }
      { g with nextRequest := k + 1 } :=
    ⟨⟨along.agree.broker, along.agree.seen, along.agree.cancelled, along.agree.now⟩,
      along.issued⟩
  unfold Hall.start
  rw [if_neg (Nat.not_lt.2 new), if_neg (Nat.not_lt.2 new')]
  exact ⟨rfl, given.setRequest rfl k⟩

theorem cancel (along : Alongside x lead h g) (token : String) :
    Alongside x lead (h.cancel token) (g.cancel token) := by
  have cancelled : Alongside x lead { h with cancelled := h.cancelled.insert token }
      { g with cancelled := g.cancelled.insert token } :=
    ⟨⟨along.agree.broker, along.agree.seen, by rw [along.agree.cancelled], along.agree.now⟩,
      along.issued⟩
  refine cancelled.changeRequests (fun _ r => (r.told_wake _).target)
    (fun _ r => (r.told_wake _).target) fun _ r r' same => ?_
  rw [Request.outline_wake, Request.outline_wake, same]

theorem elapse (along : Alongside x lead h g) (milliseconds : Nat) :
    Alongside x lead (h.elapse milliseconds) (g.elapse milliseconds) := by
  have later : Alongside x lead { h with now := h.now + milliseconds }
      { g with now := g.now + milliseconds } :=
    ⟨⟨along.agree.broker, along.agree.seen, along.agree.cancelled, by rw [along.agree.now]⟩,
      along.issued⟩
  refine later.changeRequests (fun _ r => (r.told_wake _).target)
    (fun _ r => (r.told_wake _).target) fun _ r r' same => ?_
  rw [Request.outline_wake, Request.outline_wake, same]

end Alongside

end Hall

end Custody
