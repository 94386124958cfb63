import Custody.Proofs.Broker.Lines
import Custody.Proofs.Hall.Arrivals
import Custody.Proofs.Hall.Limits
import Custody.Proofs.Hall.Polls

/-!
# Giving up a wait

What it does to everyone else when a request ends without the resource. That depends on
where the request stands.

* `Hall.GivesUp`: a request is dropped, or its poll says that it was cancelled or too late;
* `Hall.Withdraws`, `Hall.PassesOn`, `Hall.Vanishes`: its signal is withdrawn, the ownership
  that it was sent is passed on, or nothing happens;
* `Hall.GivesUp.withdraws`, `Hall.drop_passesOn`, `Hall.GivesUp.vanishes`: when each does.
-/

namespace Custody

theorem Request.notify_notify {ι ρ : Type} (r : Request ι ρ) : r.notify.notify = r.notify := by
  obtain ⟨target, patience, deadline, stage, woken⟩ := r
  cases stage <;> rfl

namespace Hall

variable {ι ρ : Type} [DecidableEq ι] {h h' h₁ : Hall ι ρ} {k : RequestId} {r : Request ι ρ}
  {x : ι}

/-- A request ends without the resource: it is dropped, or its poll says that it was
cancelled, or that its time is over. -/
inductive GivesUp (h : Hall ι ρ) (k : RequestId) : Hall ι ρ → Prop
  | dropped : GivesUp h k (h.drop k)
  | cancelled {tie : Tie} (told : (h.poll tie k).1 = some (.error .cancelled)) :
      GivesUp h k (h.poll tie k).2
  | timedOut {tie : Tie} (told : (h.poll tie k).1 = some (.error .timedOut)) :
      GivesUp h k (h.poll tie k).2

/-- One signal leaves its line, and nothing else changes at the broker. -/
structure Withdraws (h : Hall ι ρ) (x : ι) (signal : Signal) (h' : Hall ι ρ) : Prop where
  line : h.broker.Relines x ((h.broker.line x).erase signal) h.broker.nextTicket h'.broker
  others : ∀ j, j ≠ signal.request → h'.requests.get? j = (h.requests.get? j).map Request.notify

/-- The effect of an owner giving the resource up at the priority: the first in line is sent
the resource; with nobody in line, it is ranked at the priority; or the id is retired no
longer. -/
structure PassesOn (h : Hall ι ρ) (x : ι) (k : RequestId) (priority : Priority)
    (h' : Hall ι ρ) : Prop where
  released : h'.broker = (h.release priority x).2.broker
  others : ∀ j, j ≠ k → h'.requests.get? j =
    ((h.release priority x).2.requests.get? j).map Request.notify
  owned : h.broker.IsOwned x
  waiter : ∀ signal rest, h.broker.line x = signal :: rest → h.Serves x signal h' ∧
    h.broker.Relines x rest h.broker.nextTicket h'.broker
  idle : h.broker.isBusy? x = some true → h.broker.line x = [] →
    ∃ entry, h.broker.onRecord? x = some entry ∧
      h.broker.Edit h'.broker x (some { entry with busy := false, lastPriority := priority })
        (h.broker.rankingWith priority x) h.broker.retired h.broker.nextTicket
  retired : h.broker.isBusy? x = none →
    h'.broker = { h.broker with retired := h.broker.retired.erase x }

/-- Nothing changes at the broker. If it is the very poll that queues the request that it
ends with, the request takes its ticket along. -/
inductive Vanishes (h : Hall ι ρ) (x : ι) (k : RequestId) : Hall ι ρ → Prop
  | unnoticed {h' : Hall ι ρ} (broker : h'.broker = h.broker)
      (others : ∀ j, j ≠ k → h'.requests.get? j = h.requests.get? j) : Vanishes h x k h'
  | briefly {tie : Tie} (late : (h.poll tie k).1 = some (.error .timedOut))
      (issued : (h.poll tie k).2.ticketsIssued = h.ticketsIssued + 1)
      (line : h.broker.Relines x (h.broker.line x) (h.broker.nextTicket + 1)
        (h.poll tie k).2.broker)
      (others : ∀ j, j ≠ k → (h.poll tie k).2.requests.get? j =
        (h.requests.get? j).map Request.notify) : Vanishes h x k (h.poll tie k).2

/-! ### Dropped requests -/

/-- A request that is dropped takes the signal with its ticket out of line, whosever that is. -/
theorem drop_signal (valid : h.broker.Valid) (live : h.requests.get? k = some r)
    {ticket : UInt64} {mail : Mail ρ} (stage : r.stage = .queued ticket mail) {owner : RequestId}
    (mem : ⟨ticket, owner⟩ ∈ h.broker.line r.target)
    (alone : ∀ other ∈ h.broker.line r.target, other.ticket = ticket → other = ⟨ticket, owner⟩) :
    h.broker.Relines r.target ((h.broker.line r.target).erase ⟨ticket, owner⟩)
      h.broker.nextTicket (h.drop k).broker ∧
    (∀ j, j ≠ k → (h.drop k).requests.get? j = (h.requests.get? j).map fun s =>
      (if owner = j then s.receive .discarded else s).notify) ∧
    (h.drop k).ticketsIssued = h.ticketsIssued := by
  obtain ⟨b, left, relines⟩ := Broker.leave_relines valid mem alone
  simp only at left
  have dropped : h.drop k =
      ((({ h with broker := b }.discard [⟨ticket, owner⟩]).notifyParked).report
        [.withdrew r.target ticket]).remove k := by
    simp only [drop, live, abandon, stage, abandonSignal, left]
  rw [dropped]
  refine ⟨relines, ?_, ?_⟩
  · intro j hj
    simp [report, hj, Function.comp_def]
  · simp [ticketsIssued, remove, report, notifyParked, discard, changeRequests, Event.isQueued]

/-- A request that awaits its signal is dropped with it. -/
theorem drop_withdraws (valid : h.broker.Valid) (live : h.requests.get? k = some r)
    {ticket : UInt64} (stage : r.stage = .queued ticket .awaited)
    (mem : ⟨ticket, k⟩ ∈ h.broker.line r.target)
    (alone : ∀ other ∈ h.broker.line r.target, other.ticket = ticket → other = ⟨ticket, k⟩) :
    h.Withdraws r.target ⟨ticket, k⟩ (h.drop k) ∧
      (h.drop k).ticketsIssued = h.ticketsIssued := by
  obtain ⟨relines, others, issued⟩ := drop_signal valid live stage mem alone
  refine ⟨⟨relines, fun j hj => ?_⟩, issued⟩
  have other : k ≠ j := Ne.symm hj
  simp only [others j hj, if_neg other]

omit [DecidableEq ι] in
theorem stage_out {s : Stage ρ} {wasParked : Bool}
    (stage : s = if wasParked then .parked true else .fresh) (ticket : UInt64) (mail : Mail ρ) :
    s ≠ .queued ticket mail := by
  cases wasParked <;> simp [stage]

/-- A request that is out of line gives nothing up. -/
theorem abandon_out (out : ∀ ticket mail, r.stage ≠ .queued ticket mail) : h.abandon r = h := by
  unfold abandon
  split
  · rename_i stage
    exact absurd stage (out _ _)
  · rfl
  · rfl

theorem drop_eq (live : h.requests.get? k = some r) : h.drop k = (h.abandon r).remove k := by
  simp [drop, live]

/-- A request that is not in line and was not sent the resource is dropped unnoticed. -/
theorem drop_unnoticed (coherent : h.Coherent) (live : h.requests.get? k = some r)
    (out : ∀ ticket mail, r.stage = .queued ticket mail → mail = .discarded ∧
      ∀ signal ∈ h.broker.line r.target, signal.ticket ≠ ticket) :
    h.drop k = h.remove k := by
  rw [drop_eq live]
  cases stage : r.stage with
  | fresh => rw [abandon_out (by simp [stage])]
  | parked notified => rw [abandon_out (by simp [stage])]
  | queued ticket mail =>
    obtain ⟨rfl, absent⟩ := out ticket mail stage
    have none : h.broker.leave? r.target ticket = none :=
      leave?_of_none coherent (List.find?_eq_none.2 (by simpa using absent))
    simp [abandon, stage, abandonSignal, none]

/-- A request that was sent the resource and is dropped passes it on. -/
theorem drop_passesOn (coherent : h.Coherent) (ticketed : h.Ticketed)
    (sent : h.isSent x k = true) (owned : h.broker.IsOwned x) {priority : Priority}
    (latest : ∀ record, h.broker.records.get? x = some record →
      record.lastPriority = priority) :
    h.PassesOn x k priority (h.drop k) := by
  have serves := fun signal rest (first : h.broker.line x = signal :: rest) =>
    drop_serves coherent ticketed first sent
  obtain ⟨r, ticket, resource, live, rfl, stage⟩ := isSent_iff.1 sent
  have absent : (h.broker.line r.target).find? (fun signal => signal.ticket == ticket) = none := by
    rw [List.find?_eq_none]
    intro other mem same
    have own := ticketed.eq_signal coherent live stage mem (by simpa using same)
    cases own.2
  have dropped := drop_eq live
  have passed : (h.abandon r).remove k = _ := abandon_sent coherent stage absent
  have everybody := ticketed.dropWhile_line r.target
  have handing : h.broker.handOver h.listens r.target (h.broker.lastPriority r.target) =
      h.broker.handOver h.listens r.target priority := by
    cases known : h.broker.records.get? r.target with
    | none =>
      have unknown := (Broker.isBusy?_eq_none_iff h.broker r.target).2 known
      exact Broker.handOver_of_unknown unknown _ _ _
    | some record => simp [Broker.lastPriority, known, latest record known]
  have broker : (h.drop k).broker = (h.broker.handOver h.listens r.target priority).broker := by
    rw [dropped, passed, handing]
    simp [report, remove, notifyParked, changeRequests]
  constructor
  · rw [broker, release_broker]
  · intro j hj
    rw [dropped, passed, handing]
    simp only [report, requests_remove, if_neg hj, requests_notifyParked]
    cases verdict : (h.broker.handOver h.listens r.target priority).verdict with
    | error refusal =>
      obtain ⟨_, _, handed⟩ := handOver_moves coherent none r.target priority
      rw [verdict] at handed
      simp [release, verdict, handed.1, deliver, report]
    | ok handover =>
      have twice : Request.notify ∘ Request.notify = (Request.notify : Request ι ρ → _) :=
        funext Request.notify_notify
      simp only [release, verdict, report, requests_notifyParked, Option.map_map, twice]
      cases (h.broker.handOver h.listens r.target priority).delivery <;> rfl
  · exact owned
  · intro signal rest first
    refine ⟨serves signal rest first, ?_⟩
    rw [broker, ← handing]
    exact Broker.handOver_relines coherent.broker (held_of_line coherent first)
      (everybody.trans first)
  · intro held empty
    obtain ⟨record, known, busy⟩ := Broker.exists_record held
    have known' := Broker.onRecord?_of_get? known
    have line : record.entry.waiters = [] := by
      rw [← Broker.line_of_onRecord? known', empty]
    refine ⟨record.entry, known', ?_⟩
    rw [broker]
    have nobody : record.entry.waiters.dropWhile (fun signal => !h.listens signal.request) =
        [] := by
      rw [line]
      rfl
    have edit := (Broker.handOver_idle_edit coherent.broker known' busy nobody priority).2
    rw [← line] at edit
    exact edit
  · intro unknown
    have hget := (Broker.isBusy?_eq_none_iff h.broker r.target).1 unknown
    rw [broker]
    simp [Broker.handOver, hget]

/-! ### Polled requests -/

/-- A request that is about to be given up stands where it stood, or it was out of line and
is parked anew. -/
structure Stays (h : Hall ι ρ) (k : RequestId) (r : Request ι ρ) (h₁ : Hall ι ρ) : Prop where
  coherent : h₁.Coherent
  broker : h₁.broker = h.broker
  others : ∀ j, j ≠ k → h₁.requests.get? j = h.requests.get? j
  live : ∃ r₁, h₁.requests.get? k = some r₁ ∧ r₁.target = r.target ∧
    (r₁.stage = r.stage ∨
      (∀ ticket mail, r.stage ≠ .queued ticket mail) ∧ r₁.stage = .parked false)

/-- A request that is about to be given up was just put in line. -/
structure Queues (h : Hall ι ρ) (k : RequestId) (r : Request ι ρ) (h₁ : Hall ι ρ) : Prop where
  coherent : h₁.Coherent
  out : ∀ ticket mail, r.stage ≠ .queued ticket mail
  issued : h₁.ticketsIssued = h.ticketsIssued + 1
  line : h.broker.Relines r.target (h.broker.line r.target ++ [⟨h.broker.nextTicket, k⟩])
    (h.broker.nextTicket + 1) h₁.broker
  others : ∀ j, j ≠ k → h₁.requests.get? j = h.requests.get? j
  live : ∃ r₁, h₁.requests.get? k = some r₁ ∧ r₁.target = r.target ∧
    r₁.stage = .queued h.broker.nextTicket .awaited

theorem attempt_pending (coherent : h.Coherent) {wasParked : Bool}
    (pending : (h.attempt k r wasParked).1 = none) :
    (h.attempt k r wasParked).2 = h.setRequest k { r with stage := .parked false } ∨
    ∃ b, h.broker.Relines r.target (h.broker.line r.target ++ [⟨h.broker.nextTicket, k⟩])
        (h.broker.nextTicket + 1) b ∧
      (h.attempt k r wasParked).2 =
        ({ h with broker := b }.setRequest k
          { r with stage := .queued h.broker.nextTicket .awaited }).report
            [.queued r.target h.broker.nextTicket] := by
  rcases asked : h.broker.request r.target k (h.isCancelled r) with ⟨reception, b⟩
  cases reception with
  | unknown => simp [attempt, asked] at pending
  | granted => simp [attempt, asked] at pending
  | cancelled => simp [attempt, asked] at pending
  | full =>
    left
    have same := Broker.request_full (congrArg Prod.fst asked)
    rw [asked] at same
    obtain rfl : b = h.broker := same
    simp only [attempt, asked]
  | queued ticket =>
    right
    obtain ⟨rfl, relines⟩ := Broker.request_relines coherent.broker (congrArg Prod.fst asked)
    rw [asked] at relines
    exact ⟨b, relines, by simp only [attempt, asked]⟩

/-- Running a request leaves it waiting, or it asks for the resource and does not get it. -/
theorem advance_pending {tie : Tie} (pending : (h.advanceRequest tie k r).1 = none) :
    (h.advanceRequest tie k r).2 = h ∨
      (∀ ticket mail, r.stage ≠ .queued ticket mail) ∧ ∃ wasParked,
        (h.attempt k r wasParked).1 = none ∧
        (h.advanceRequest tie k r).2 = (h.attempt k r wasParked).2 := by
  cases stage : r.stage with
  | fresh =>
    simp only [advanceRequest, stage] at pending ⊢
    exact .inr ⟨by simp, false, pending, rfl⟩
  | queued ticket mail =>
    cases mail with
    | sent resource => simp [advanceRequest, stage] at pending
    | discarded => simp [advanceRequest, stage] at pending
    | awaited =>
      simp only [advanceRequest, stage] at pending ⊢
      split at pending
      · cases pending
      · rename_i patient
        exact .inl (by rw [if_neg patient])
  | parked notified =>
    simp only [advanceRequest, stage] at pending ⊢
    split at pending
    · cases pending
    · rename_i patient
      rw [if_neg patient]
      split at pending
      · rename_i told
        rw [if_pos told]
        exact .inr ⟨by simp, true, pending, rfl⟩
      · rename_i told
        exact .inl (by rw [if_neg told])

/-- A poll that says that the request was cancelled does what dropping it does. -/
theorem poll_cancelled (coherent : h.Coherent) {tie : Tie} (live : h.requests.get? k = some r)
    (told : (h.poll tie k).1 = some (.error .cancelled)) :
    (h.poll tie k).2 = (h.look k r).drop k := by
  have advance := advance_cases (look_coherent coherent live) tie k (r.polledAt h.now)
  have polled := poll_eq live tie
  rw [drop_eq (requests_look h k r)]
  rcases hadvance : (h.look k r).advanceRequest tie k (r.polledAt h.now) with ⟨_ | outcome, h₁⟩
  · rw [hadvance] at polled
    simp only at polled
    split at polled <;> simp [polled] at told
  · rw [hadvance] at polled advance
    simp only at polled
    rw [polled] at told ⊢
    obtain rfl : outcome = .error .cancelled := Option.some.inj told
    cases advance with
    | asked wasParked stage attempt =>
      rw [abandon_out (stage_out stage)]
      cases wasParked <;> cases attempt <;> rfl
    | withdrawn => rfl
    | unparked stage =>
      rw [abandon_out (by rw [stage]; simp)]
      rfl

/-- A poll that says that the time is over does what dropping the request does, which may
have been put in line, or parked, just before. -/
theorem poll_timedOut (coherent : h.Coherent) {tie : Tie} (live : h.requests.get? k = some r)
    (told : (h.poll tie k).1 = some (.error .timedOut)) :
    ∃ h₁, (h.poll tie k).2 = h₁.drop k ∧ (h.Stays k r h₁ ∨ h.Queues k r h₁) := by
  have coherent' := look_coherent coherent live
  have live' := requests_look h k r
  have advance := advance_cases coherent' tie k (r.polledAt h.now)
  have polled := poll_eq live tie
  rcases hadvance : (h.look k r).advanceRequest tie k (r.polledAt h.now) with ⟨_ | outcome, h₁⟩
  · rw [hadvance] at polled advance
    simp only at polled
    split at polled
    · have coherent₁ := (advance_moves coherent' live' advance).1.coherent coherent'
      rw [polled]
      refine ⟨h₁, rfl, ?_⟩
      have ran := advance_pending (congrArg Prod.fst hadvance)
      rw [hadvance] at ran
      rcases ran with same | ⟨out, wasParked, pending, ran⟩
      · obtain rfl : h₁ = h.look k r := same
        left
        exact ⟨coherent₁, rfl, fun j hj => by simp [look, hj], _, live', rfl, .inl rfl⟩
      · rcases attempt_pending coherent' pending with parked | ⟨b, relines, queued⟩
        · obtain rfl : h₁ = _ := ran.trans parked
          left
          exact ⟨coherent₁, rfl, fun j hj => by simp [look, hj],
            { r.polledAt h.now with stage := .parked false }, by simp, rfl, .inr ⟨out, rfl⟩⟩
        · obtain rfl : h₁ = _ := ran.trans queued
          right
          refine ⟨coherent₁, out, ?_, relines, fun j hj => by simp [report, look, setRequest, hj],
            { r.polledAt h.now with stage := .queued h.broker.nextTicket .awaited },
            by simp [report, look, setRequest], rfl, rfl⟩
          simp [ticketsIssued, report, look, setRequest, Event.isQueued]
    · simp [polled] at told
  · rw [hadvance] at polled advance
    simp only at polled
    rw [polled] at told
    obtain rfl : outcome = .error .timedOut := Option.some.inj told
    cases advance with
    | asked wasParked stage attempt => cases wasParked <;> cases attempt

/-- However a request is given up, it is dropped, as it stands or just after it was put in
line. -/
theorem GivesUp.is_drop (ends : h.GivesUp k h') (coherent : h.Coherent)
    (live : h.requests.get? k = some r) :
    ∃ h₁, h' = h₁.drop k ∧ (h.Stays k r h₁ ∨
      h.Queues k r h₁ ∧ ∃ tie, (h.poll tie k).1 = some (.error .timedOut) ∧
        h' = (h.poll tie k).2) := by
  cases ends with
  | dropped =>
    exact ⟨h, rfl, .inl ⟨coherent, rfl, fun _ _ => rfl, r, live, rfl, .inl rfl⟩⟩
  | cancelled told =>
    refine ⟨h.look k r, poll_cancelled coherent live told, .inl ?_⟩
    exact ⟨look_coherent coherent live, rfl, fun j hj => by simp [look, hj], _,
      requests_look h k r, rfl, .inl rfl⟩
  | @timedOut tie told =>
    obtain ⟨h₁, heq, stays | queues⟩ := poll_timedOut coherent live told
    · exact ⟨h₁, heq, .inl stays⟩
    · exact ⟨h₁, heq, .inr ⟨queues, tie, told, rfl⟩⟩

/-- Only by being dropped can a request end without the resource that it was sent. -/
theorem GivesUp.dropped_of_sent (ends : h.GivesUp k h') (sent : h.isSent x k = true) :
    h' = h.drop k := by
  obtain ⟨r, ticket, resource, live, _, stage⟩ := isSent_iff.1 sent
  cases ends with
  | dropped => rfl
  | cancelled told =>
    rw [poll_sent live stage] at told
    cases told
  | timedOut told =>
    rw [poll_sent live stage] at told
    cases told

/-- A request whose signal is in line ends with that signal. -/
theorem GivesUp.withdraws (ends : h.GivesUp k h') (coherent : h.Coherent) (ticketed : h.Ticketed)
    (live : h.requests.get? k = some r) {ticket : UInt64}
    (mem : ⟨ticket, k⟩ ∈ h.broker.line r.target) : h.Withdraws r.target ⟨ticket, k⟩ h' := by
  have stage := (coherent.listening r.target _ mem r live).2
  have alone : ∀ other ∈ h.broker.line r.target, other.ticket = ticket → other = ⟨ticket, k⟩ :=
    fun other hmem same => (ticketed.eq_signal coherent live stage hmem same).1
  obtain ⟨h₁, rfl, stays | ⟨queues, _⟩⟩ := ends.is_drop coherent live
  · obtain ⟨r₁, live₁, target, standing⟩ := stays.live
    have stage₁ : r₁.stage = .queued ticket .awaited := by
      rcases standing with same | ⟨out, _⟩
      · rw [same, stage]
      · exact absurd stage (out _ _)
    rw [← target, ← stays.broker] at mem alone
    obtain ⟨line, others⟩ := (drop_withdraws stays.coherent.broker live₁ stage₁ mem alone).1
    rw [target, stays.broker] at line
    exact ⟨line, fun j hj => by rw [others j hj, stays.others j hj]⟩
  · exact absurd stage (queues.out _ _)

/-- A request that was not sent the resource and has no signal in line ends unnoticed. -/
theorem GivesUp.vanishes (ends : h.GivesUp k h') (coherent : h.Coherent) (ticketed : h.Ticketed)
    (live : h.requests.get? k = some r) (unsent : r.isSent = false)
    (absent : ∀ ticket, ⟨ticket, k⟩ ∉ h.broker.line r.target) : h.Vanishes r.target k h' := by
  obtain ⟨h₁, heq, stays | ⟨queues, tie, late, rfl⟩⟩ := ends.is_drop coherent live
  · obtain ⟨r₁, live₁, target, standing⟩ := stays.live
    have dropped : h₁.drop k = h₁.remove k := by
      refine drop_unnoticed stays.coherent live₁ ?_
      intro ticket mail stage₁
      rcases standing with same | ⟨_, parked⟩
      · have stage := same.symm.trans stage₁
        refine ⟨?_, fun signal mem heq => ?_⟩
        · cases mail with
          | awaited => exact absurd (coherent.awaited k r ticket live stage) (absent ticket)
          | sent resource => simp [Request.isSent, stage] at unsent
          | discarded => rfl
        · rw [target, stays.broker] at mem
          have own := ticketed.eq_signal coherent live stage mem heq
          exact absent ticket (own.1 ▸ mem)
      · rw [parked] at stage₁
        cases stage₁
    rw [heq, dropped]
    exact .unnoticed stays.broker fun j hj => by simp [hj, stays.others j hj]
  · obtain ⟨r₁, live₁, target, stage₁⟩ := queues.live
    have line₁ := queues.line.line
    -- Every other ticket in line is smaller than the next one.
    have older : ∀ other ∈ h.broker.line r.target, other.ticket ≠ h.broker.nextTicket := by
      intro other mem same
      obtain ⟨s, hs⟩ := ticketed.live _ other mem
      have stage := (coherent.listening _ other mem s hs).2
      have smaller := ticketed.issued _ s _ _ hs stage
      rw [same, ticketed.next] at smaller
      exact Nat.lt_irrefl _ smaller
    have own : (⟨h.broker.nextTicket, k⟩ : Signal) ∉ h.broker.line r.target := fun mem =>
      older _ mem rfl
    have mem : ⟨h.broker.nextTicket, k⟩ ∈ h₁.broker.line r₁.target := by simp [target, line₁]
    have alone : ∀ other ∈ h₁.broker.line r₁.target, other.ticket = h.broker.nextTicket →
        other = ⟨h.broker.nextTicket, k⟩ := by
      intro other hmem same
      rw [target, line₁] at hmem
      rcases List.mem_append.1 hmem with hmem | hmem
      · exact absurd same (older other hmem)
      · exact List.mem_singleton.1 hmem
    obtain ⟨⟨line, others⟩, issued⟩ :=
      drop_withdraws queues.coherent.broker live₁ stage₁ mem alone
    rw [target, line₁, List.erase_append_right _ own, List.erase_cons_head, List.append_nil]
      at line
    have ticket : h₁.broker.nextTicket = h.broker.nextTicket + 1 := by
      obtain ⟨_, _, _, _, broker⟩ := queues.line
      rw [broker]
    rw [ticket] at line
    rw [← heq] at line others issued
    refine .briefly late (issued.trans queues.issued) (queues.line.trans line) ?_
    intro j hj
    rw [others j hj, queues.others j hj]

end Hall

end Custody
