import Custody.Proofs.Hall.Leaving

/-!
# Tickets that come round

A request that comes to wait and gives up at once leaves nothing behind but a ticket that was
issued. After enough of them a ticket is issued again that somebody still has.

* `Hall.call`, `Hall.visit`: a request comes to wait, and gives up again;
* `Hall.visit_leaves`, `Hall.visits_leave`: nothing is left of it, however often;
* `Hall.Shares`: two requests that have one ticket;
* `Hall.relay_strands`: a request that is about to get a resource is dropped when another waits
  for it with the same ticket. The other one's signal is withdrawn, and the resource stays with
  nobody.
-/

namespace Custody

namespace Hall

variable {ι ρ : Type} [DecidableEq ι] {h h' : Hall ι ρ} {settings : Settings} {x : ι}
  {j k : RequestId} {r : Request ι ρ} {ticket : UInt64}

/-- A request asks for the resource and is polled. -/
def call (x : ι) (k : RequestId) : List (Operation ι ρ) :=
  [.start k x .unlimited, .poll k .cancelFirst]

/-- A request asks for the resource, is polled and dropped. -/
def visit (x : ι) (k : RequestId) : List (Operation ι ρ) := call x k ++ [.drop k]

/-- So many visits, with requests numbered on from the given number. -/
def visits (x : ι) (k : RequestId) : Nat → List (Operation ι ρ)
  | 0 => []
  | n + 1 => visits x k n ++ visit x (k + n)

omit [DecidableEq ι] in
theorem mem_visits {op : Operation ι ρ} {n : Nat} :
    op ∈ visits x k n ↔ ∃ i < n, op ∈ visit x (k + i) := by
  induction n with
  | zero => simp [visits]
  | succ n ih => simp only [visits, List.mem_append, ih, Nat.exists_lt_succ_right]

omit [DecidableEq ι] in
theorem mem_visit {op : Operation ι ρ} :
    op ∈ visit x k ↔ op = .start k x .unlimited ∨ op = .poll k .cancelFirst ∨ op = .drop k := by
  simp [visit, call]

omit [DecidableEq ι] in
theorem eq_of_mem_visits {op : Operation ι ρ} {n : Nat} (mem : op ∈ visits x k n) :
    ∃ i, op = .start i x .unlimited ∨ op = .poll i .cancelFirst ∨ op = .drop i := by
  obtain ⟨i, _, among⟩ := mem_visits.1 mem
  exact ⟨k + i, mem_visit.1 among⟩

/-! ### Calls -/

/-- The request stands last in line, with the next ticket. -/
structure Calls (h : Hall ι ρ) (x : ι) (k : RequestId) (h' : Hall ι ρ) : Prop where
  line : h.broker.Relines x (h.broker.line x ++ [⟨h.broker.nextTicket, k⟩])
    (h.broker.nextTicket + 1) h'.broker
  own : ∃ r, h'.requests.get? k = some r ∧ r.target = x ∧
    r.stage = .queued h.broker.nextTicket .awaited
  others : ∀ j, j ≠ k → h'.requests.get? j = h.requests.get? j
  nextRequest : h'.nextRequest = k + 1

/-- A request that is polled for the first time and is queued waits for its signal. -/
theorem poll_start (tie : Tie) {b : Broker ι ρ}
    (live : h.requests.get? k = some (.start x .unlimited))
    (asked : h.broker.request x k false = (.queued ticket, b)) :
    h.poll tie k = (none, ({ h with broker := b }.setRequest k
      ⟨x, .unlimited, none, .queued ticket .awaited, false⟩).report [.queued x ticket]) := by
  have looked : h.setRequest k (.start x .unlimited) = h := by
    simp [setRequest, Registry.put_self live]
  have first : (Request.start x .unlimited : Request ι ρ).polledAt h.now =
      .start x .unlimited := rfl
  have advanced : h.advanceRequest tie k (.start x .unlimited) =
      (none, ({ h with broker := b }.setRequest k
        ⟨x, .unlimited, none, .queued ticket .awaited, false⟩).report [.queued x ticket]) := by
    have patient : h.broker.request (Request.start x .unlimited : Request ι ρ).target k
        (h.isCancelled (.start x .unlimited)) = (.queued ticket, b) := asked
    show h.attempt k (.start x .unlimited) false = _
    simp only [attempt, patient]
    rfl
  simp only [poll, live, first, looked, advanced]
  rfl

/-- While the resource is held and there is room in line, a new request comes to wait. -/
theorem call_calls (coherent : h.Coherent) (held : h.broker.isBusy? x = some true)
    (room : (h.broker.line x).length < h.broker.settings.waiterCapacity.toNat)
    (new : h.nextRequest ≤ k) :
    (h.run (call x k)).1 = [.flag true, .pending] ∧ h.Calls x k (h.run (call x k)).2 := by
  have answered := Broker.request_held coherent.broker held k
  rw [if_pos room] at answered
  obtain ⟨_, relines⟩ := Broker.request_relines coherent.broker answered.1
  rcases asked : h.broker.request x k false with ⟨reception, b⟩
  rw [asked] at answered relines
  obtain rfl : reception = .queued h.broker.nextTicket := answered.1
  let started := { h with nextRequest := k + 1 }.setRequest k (.start x .unlimited)
  have starts : h.start k x .unlimited = (true, started) := if_neg (Nat.not_lt.2 new)
  have live : started.requests.get? k = some (.start x .unlimited) := by simp [started]
  have polled := poll_start .cancelFirst live asked
  simp only [call, run, step, starts, polled]
  refine ⟨trivial, relines, ⟨_, by simp [report]; rfl, rfl, rfl⟩, ?_, rfl⟩
  intro j other
  simp [report, setRequest, started, other]

/-! ### Visits -/

/-- Nothing is left of so many visits but the tickets that were issued. -/
structure Visited (h : Hall ι ρ) (x : ι) (n : Nat) (h' : Hall ι ρ) : Prop where
  line : h.broker.Relines x (h.broker.line x) (h.broker.nextTicket + UInt64.ofNat n) h'.broker
  requests : ∀ j, h'.requests.get? j = h.requests.get? j

/-- After as many visits as there are tickets, but one, the first ticket is next. -/
theorem Visited.comes_round {n : Nat} (visited : h.Visited x n h')
    (second : h.broker.nextTicket = 1) (round : n + 1 = 2 ^ 64) : h'.broker.nextTicket = 0 := by
  rw [visited.line.nextTicket, second]
  apply UInt64.toNat_inj.1
  simp only [UInt64.toNat_add, UInt64.toNat_ofNat', UInt64.toNat_one, UInt64.toNat_zero]
  omega

/-- A request that waited for a ticket of its own and is dropped leaves no trace but the ticket
that was issued to it, if nobody was parked who had not been told to look again. -/
theorem visit_leaves (reachable : Reachable settings h)
    (held : h.broker.isBusy? x = some true)
    (room : (h.broker.line x).length < h.broker.settings.waiterCapacity.toNat)
    (calm : ∀ j, (h.requests.get? j).map Request.notify = h.requests.get? j)
    (new : h.nextRequest ≤ k)
    (apart : ∀ signal ∈ h.broker.line x, signal.ticket ≠ h.broker.nextTicket) :
    (h.run (visit x k)).1 = [.flag true, .pending, .nothing] ∧
      h.Visited x 1 (h.run (visit x k)).2 ∧ (h.run (visit x k)).2.nextRequest = k + 1 := by
  obtain ⟨answers, calls⟩ := call_calls reachable.coherent held room new
  let h₁ := (h.run (call x k)).2
  have coherent₁ : h₁.Coherent := (reachable.run (call x k)).coherent
  obtain ⟨r, live, target, stage⟩ := calls.own
  have line : h₁.broker.line r.target = h.broker.line x ++ [⟨h.broker.nextTicket, k⟩] := by
    rw [target]
    exact calls.line.line
  have alone : ∀ other ∈ h₁.broker.line r.target, other.ticket = h.broker.nextTicket →
      other = ⟨h.broker.nextTicket, k⟩ := by
    intro other mem same
    rw [line] at mem
    rcases List.mem_append.1 mem with before | last
    · exact absurd same (apart other before)
    · exact List.mem_singleton.1 last
  have mem : ⟨h.broker.nextTicket, k⟩ ∈ h₁.broker.line r.target := by simp [line]
  obtain ⟨relines, others, _⟩ := drop_signal coherent₁.broker live stage mem alone
  have unknown : h.requests.get? k = none := by
    by_contra known
    obtain ⟨s, known⟩ := Option.ne_none_iff_exists'.1 known
    exact Nat.not_lt.2 new (reachable.coherent.numbered k s known)
  have first : ⟨h.broker.nextTicket, k⟩ ∉ h.broker.line x := fun mem => apart _ mem rfl
  have after : h.run (visit x k) = ((h.run (call x k)).1 ++ [.nothing], h₁.drop k) :=
    run_concat h (call x k) (.drop k)
  rw [after, answers]
  refine ⟨rfl, ⟨?_, ?_⟩, ?_⟩
  · rw [line, List.erase_append_right _ first, List.erase_cons_head, List.append_nil, target,
      calls.line.nextTicket] at relines
    exact calls.line.trans relines
  · intro j
    by_cases own : j = k
    · rw [own, unknown]
      exact requests_drop h₁ k
    · have other : k ≠ j := Ne.symm own
      rw [others j own, calls.others j own]
      simpa only [if_neg other] using calm j
  · exact (lasts_nextRequest (k + 1)).drop calls.nextRequest k

/-- Nothing is left of so many visits, if none of them takes a ticket that is in line. -/
theorem visits_leave (reachable : Reachable settings h) (held : h.broker.isBusy? x = some true)
    (room : (h.broker.line x).length < h.broker.settings.waiterCapacity.toNat)
    (calm : ∀ j, (h.requests.get? j).map Request.notify = h.requests.get? j)
    (new : h.nextRequest ≤ k) (n : Nat)
    (apart : ∀ i < n, ∀ signal ∈ h.broker.line x,
      signal.ticket ≠ h.broker.nextTicket + UInt64.ofNat i) :
    (∀ answer ∈ (h.run (visits x k n)).1, answer ∈ [.flag true, .pending, .nothing]) ∧
      h.Visited x n (h.run (visits x k n)).2 ∧
      (h.run (visits x k n)).2.nextRequest ≤ k + n := by
  induction n with
  | zero =>
    refine ⟨by simp [visits, run], ⟨?_, fun j => rfl⟩, new⟩
    have none : h.broker.nextTicket + UInt64.ofNat 0 = h.broker.nextTicket := by simp
    rw [none]
    exact Broker.relines_refl held
  | succ n ih =>
    obtain ⟨answers, visited, next⟩ := ih fun i lt => apart i (Nat.lt_succ_of_lt lt)
    let h₁ := (h.run (visits x k n)).2
    have reachable₁ : Reachable settings h₁ := reachable.run _
    have same : h₁.broker.line x = h.broker.line x := visited.line.line
    obtain ⟨answers₁, visited₁, next₁⟩ := visit_leaves reachable₁
      ((visited.line.isBusy? x).trans held) (by rw [same, visited.line.settings]; exact room)
      (fun j => by rw [visited.requests]; exact calm j) next
      (by rw [same, visited.line.nextTicket]; exact apart n (Nat.lt_succ_self n))
    rw [visits, run_append]
    refine ⟨?_, ⟨?_, ?_⟩, ?_⟩
    · intro answer mem
      rcases List.mem_append.1 mem with before | last
      · exact answers answer before
      · exact answers₁ ▸ last
    · have step := visited₁.line
      rw [same, visited.line.nextTicket, UInt64.add_assoc, ← UInt64.ofNat_add] at step
      exact visited.line.trans step
    · intro j
      exact (visited₁.requests j).trans (visited.requests j)
    · exact Nat.le_of_eq next₁

/-! ### A ticket that two requests have -/

/-- A resource that is given up is sent to the first in line, who is still there. -/
theorem release_sends (coherent : h.Coherent) {signal : Signal} {rest : List Signal}
    (first : h.broker.line x = signal :: rest)
    (live : h.requests.get? signal.request = some r) (priority : Priority) :
    (h.release priority x).1 = .ok () ∧
    h.broker.Change (h.release priority x).2.broker x (some true) rest False ∧
    (h.release priority x).2.broker.nextTicket = h.broker.nextTicket ∧
    (h.release priority x).2.nextRequest = h.nextRequest ∧
    ∃ resource, ∀ i, (h.release priority x).2.requests.get? i = (h.requests.get? i).map fun s =>
      (if i = signal.request then s.receive (.sent resource) else s).notify := by
  have there : (h.broker.line x).dropWhile (fun signal => !h.listens signal.request) =
      signal :: rest := by
    simp [first, listens, Registry.contains, live]
  obtain ⟨record, _, verdict, delivery, _, ticket, change⟩ :=
    Broker.handOver_waiter coherent.broker (held_of_line coherent first) there priority
  refine ⟨release_of_ok verdict, ?_⟩
  simp only [release, verdict, delivery, deliver_report]
  refine ⟨change, ticket, rfl, record.resource, fun i => ?_⟩
  simp [report, Function.comp_def]

/-- Two requests have one ticket. The first was sent the resource, and the second is in line. -/
structure Shares (h : Hall ι ρ) (x : ι) (j k : RequestId) (ticket : UInt64) : Prop where
  held : h.broker.isBusy? x = some true
  line : h.broker.line x = [⟨ticket, k⟩]
  sent : ∃ r resource, h.requests.get? j = some r ∧ r.target = x ∧
    r.stage = .queued ticket (.sent resource)
  waits : ∃ s, h.requests.get? k = some s ∧ s.target = x ∧ s.stage = .queued ticket .awaited

/-- The resource is given up to the only one in line, whose ticket is next, and another request
comes to wait for it. -/
theorem release_shares (reachable : Reachable settings h)
    (live : h.requests.get? j = some r) (line : h.broker.line x = [⟨h.broker.nextTicket, j⟩])
    (new : h.nextRequest ≤ k) (priority : Priority) :
    (h.run (.release priority x :: call x k)).1 = [.verdict (.ok ()), .flag true, .pending] ∧
    Shares (h.run (.release priority x :: call x k)).2 x j k h.broker.nextTicket ∧
    ∀ i, i ≠ j → i ≠ k → (h.run (.release priority x :: call x k)).2.requests.get? i =
      (h.requests.get? i).map Request.notify := by
  have coherent := reachable.coherent
  obtain ⟨target, stage⟩ := coherent.listening x ⟨h.broker.nextTicket, j⟩ (by simp [line]) r live
  obtain ⟨released, change, ticket, next, resource, told⟩ :=
    release_sends coherent line live priority
  let h₁ := (h.release priority x).2
  have reachable₁ : Reachable settings h₁ := reachable.run [.release priority x]
  have line₁ : h₁.broker.line x = [] := by rw [change.line, if_pos rfl]
  have held₁ : h₁.broker.isBusy? x = some true := by rw [change.busy, if_pos rfl]
  have room : (h₁.broker.line x).length < h₁.broker.settings.waiterCapacity.toNat := by
    have fits := coherent.broker.length_line_le x
    rw [line] at fits
    rw [line₁, change.settings]
    exact fits
  obtain ⟨answers, calls⟩ := call_calls reachable₁.coherent held₁ room
    (Nat.le_trans (Nat.le_of_eq next) new)
  have other : j ≠ k := Nat.ne_of_lt (Nat.lt_of_lt_of_le (coherent.numbered j r live) new)
  have runs : h.run (.release priority x :: call x k) =
      (.verdict (h.release priority x).1 :: (h₁.run (call x k)).1, (h₁.run (call x k)).2) := rfl
  rw [runs, answers, released]
  refine ⟨rfl, ⟨?_, ?_, ⟨(r.receive (.sent resource)).notify, resource, ?_, ?_, ?_⟩, ?_⟩, ?_⟩
  · rw [calls.line.isBusy?, held₁]
  · rw [calls.line.line, line₁, ticket, List.nil_append]
  · rw [calls.others j other, told, live]
    simp
  · exact (Request.target_told r (.sent resource) True).trans target
  · exact Request.stage_told_queued stage (.sent resource) True
  · rw [← ticket]
    exact calls.own
  · intro i first second
    rw [calls.others i second, told]
    simp [first]

/-- Dropped with the ticket of another, the first leaves that other one waiting in vain, and the
resource with nobody. -/
theorem Shares.drop (shares : h.Shares x j k ticket) (valid : h.broker.Valid) (other : j ≠ k) :
    (h.drop j).broker.isBusy? x = some true ∧
    (∃ s, (h.drop j).requests.get? k = some s ∧ s.target = x ∧
      s.stage = .queued ticket .discarded) ∧
    ∀ i, i ≠ j → i ≠ k →
      (h.drop j).requests.get? i = (h.requests.get? i).map Request.notify := by
  obtain ⟨r, resource, sent, rfl, stage⟩ := shares.sent
  obtain ⟨s, waits, target, awaits⟩ := shares.waits
  have line := shares.line
  have mem : ⟨ticket, k⟩ ∈ h.broker.line r.target := by simp [line]
  obtain ⟨relines, others, _⟩ := drop_signal valid sent stage mem (by simp [line])
  refine ⟨?_, ⟨(s.receive .discarded).notify, ?_, ?_, ?_⟩, ?_⟩
  · rw [relines.isBusy?, shares.held]
  · rw [others k other.symm, waits]
    simp
  · exact (Request.target_told s .discarded True).trans target
  · exact Request.stage_told_queued awaits .discarded True
  · intro i first second
    rw [others i first]
    simp [Ne.symm second]

/-- The first in line is about to get the resource when another comes to wait for it, and is
then dropped. -/
def relay (x : ι) (first next : RequestId) (priority : Priority) : List (Operation ι ρ) :=
  .release priority x :: call x next ++ [.drop first]

/-- When the ticket of the only one in line is issued anew to the next one, who comes when the
first has been sent the resource, the first is dropped with the signal of the next one. That
waits in vain, and the resource is held by nobody. -/
theorem relay_strands (reachable : Reachable settings h)
    (calm : ∀ i, (h.requests.get? i).map Request.notify = h.requests.get? i)
    (live : h.requests.get? j = some r) (line : h.broker.line x = [⟨h.broker.nextTicket, j⟩])
    (new : h.nextRequest ≤ k) (priority : Priority) :
    (h.run (relay x j k priority)).1 = [.verdict (.ok ()), .flag true, .pending, .nothing] ∧
    (h.run (relay x j k priority)).2.broker.isBusy? x = some true ∧
    (∃ s, (h.run (relay x j k priority)).2.requests.get? k = some s ∧ s.target = x ∧
      s.stage = .queued h.broker.nextTicket .discarded) ∧
    ∀ i, i ≠ k → (h.run (relay x j k priority)).2.requests.get? i =
      if i = j then none else h.requests.get? i := by
  obtain ⟨answers, shares, kept⟩ := release_shares reachable live line new priority
  let h₁ := (h.run (.release priority x :: call x k)).2
  have coherent₁ : h₁.Coherent := (reachable.run _).coherent
  have other : j ≠ k :=
    Nat.ne_of_lt (Nat.lt_of_lt_of_le (reachable.coherent.numbered j r live) new)
  obtain ⟨held, waits, kept₁⟩ := shares.drop coherent₁.broker other
  have runs : h.run (relay x j k priority) =
      ((h.run (.release priority x :: call x k)).1 ++ [.nothing], h₁.drop j) :=
    run_concat h (.release priority x :: call x k) (.drop j)
  rw [runs, answers]
  refine ⟨rfl, held, waits, fun i second => ?_⟩
  by_cases first : i = j
  · rw [if_pos first, first]
    exact requests_drop h₁ j
  · rw [if_neg first, kept₁ i first second, kept i first second, calm, calm]

end Hall

end Custody
