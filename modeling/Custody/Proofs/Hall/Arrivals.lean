import Custody.Proofs.Hall.Chronicle

/-!
# First come, first served

* `Hall.poll_orderly`: whoever comes to wait when polled comes last;
* `Hall.Serves`: what it is for the first in line to be served;
* `Chronicle.Reachable.inOrder`: the line of a registered id is in the order of arrival;
* `Chronicle.first_come_first_served`: it is those who came and were neither served nor
  ended, and the first of them is served first.
-/

namespace Custody

open Hall (Operation Answer)

namespace Hall

variable {ι ρ : Type} [DecidableEq ι] {h h' : Hall ι ρ} {transfers : List (Transfer ι)}
  {k : RequestId} {x : ι} {came : List RequestId}

/-- Whoever came last and is over need not be listed. -/
theorem Orderly.drop_last (orderly : h.Orderly x (came ++ [k])) (ticketed : h.Ticketed)
    (gone : h.requests.get? k = none) : h.Orderly x came := by
  have mem_came : ∀ j ∈ came, j ∈ came ++ [k] := fun j => List.mem_append_left _
  constructor
  · exact (List.nodup_append.1 orderly.nodup).1
  · exact fun j mem => orderly.known j (mem_came j mem)
  · exact fun j mem => orderly.queued j (mem_came j mem)
  · obtain ⟨front, back, split, within, last⟩ := List.sublist_append_iff.1 orderly.line
    have absent : k ∉ (h.broker.line x).map Signal.request := by
      intro hmem
      obtain ⟨signal, mem, rfl⟩ := List.mem_map.1 hmem
      obtain ⟨r, live⟩ := ticketed.live x signal mem
      rw [live] at gone
      cases gone
    have nobody : back = [] := by
      rw [List.eq_nil_iff_forall_not_mem]
      intro j mem
      have hj := List.mem_singleton.1 (last.mem mem)
      exact absent (by rw [split, ← hj]; exact List.mem_append_right _ mem)
    rw [split, nobody, List.append_nil]
    exact within
  · exact (List.pairwise_append.1 orderly.fair).1

/-- What is no request's doing keeps the order, unless it takes the id away. -/
theorem Incident.orderly (incident : h.Incident none transfers h') (coherent : h.Coherent)
    (ticketed : h.Ticketed) (orderly : h.Orderly x came) (spared : h'.broker.isBusy? x ≠ none) :
    h'.Orderly x came :=
  Move.orderly_of_shorter (.incident incident) coherent ticketed (.inr spared)
    (incident.keeps.2.2 x) orderly

theorem Orderly.report (orderly : h.Orderly x came) (events : List (Event ι)) :
    (h.report events).Orderly x came :=
  ⟨orderly.nodup, orderly.known, orderly.queued, orderly.line, orderly.fair⟩

/-- Nobody comes by the moves of a request that is over. -/
theorem Moves.orderly_of_gone (moves : Moves (some k) h transfers h') (coherent : h.Coherent)
    (ticketed : h.Ticketed) (bound : h'.ticketsIssued < 2 ^ 64) (orderly : h.Orderly x came)
    (gone : h'.requests.get? k = none) : h'.Orderly x came := by
  obtain ⟨came', orderly', rfl | ⟨_, rfl⟩⟩ := moves.orderly coherent ticketed bound orderly
  · exact orderly'
  · exact orderly'.drop_last (moves.ticketed coherent bound ticketed) gone

theorem Orderly.mem_of_awaits (orderly : h.Orderly x came) (coherent : h.Coherent)
    (ticketed : h.Ticketed) (waits : h.awaits x k = true) : k ∈ came :=
  orderly.line.mem ((awaits_iff_mem coherent ticketed).1 waits)

/-- Whoever comes to wait when polled comes last. -/
theorem poll_orderly {tie : Tie} {r' : Request ι ρ} (coherent : h.Coherent)
    (ticketed : h.Ticketed) (bound : (h.poll tie k).2.ticketsIssued < 2 ^ 64)
    (live' : (h.poll tie k).2.requests.get? k = some r')
    (ordered : h.broker.isBusy? x ≠ none → h.Orderly x came)
    (registered : (h.poll tie k).2.broker.isBusy? x ≠ none) :
    (h.poll tie k).2.Orderly x
      (if (h.poll tie k).2.awaits x k && !h.awaits x k then came ++ [k] else came) := by
  cases live : h.requests.get? k with
  | none => simp [poll, live] at live'
  | some r =>
    obtain ⟨moves, ended⟩ := poll_moves coherent tie live
    have coherent' := moves.coherent coherent
    have ticketed' := moves.ticketed coherent bound ticketed
    have orderly := ordered (by rwa [Ne, ← moves.known_iff coherent])
    split at ended
    · simp [ended] at live'
    · rename_i pending
      obtain ⟨stage, waiting, live'', _⟩ := ended
      obtain ⟨came', orderly', rfl | ⟨absent, rfl⟩⟩ :=
        moves.orderly coherent ticketed bound orderly
      · -- Who is listed and waits has waited before, for he would have got what he was sent.
        rw [if_neg]
        · exact orderly'
        · simp only [Bool.and_eq_true, Bool.not_eq_true', not_and, Bool.not_eq_false]
          intro waits
          have mem := orderly'.mem_of_awaits coherent' ticketed' waits
          obtain ⟨target, ticket, mail, stage', opened⟩ := orderly.queued k mem r live
          cases mail with
          | awaited => exact awaits_iff.2 ⟨r, ticket, live, target, stage'⟩
          | discarded => exact absurd rfl opened
          | sent resource => simp [poll_sent live stage' tie] at pending
      · obtain ⟨target, ticket, mail, stage', _⟩ := orderly'.queued k (by simp) _ live''
        have waits : (h.poll tie k).2.awaits x k = true := by
          refine awaits_iff.2 ⟨_, ticket, live'', target, ?_⟩
          rcases waiting with parked | ⟨other, queued⟩
          · simp [parked] at stage'
          · simp only [queued, Stage.queued.injEq] at stage'
            simp [queued, stage'.1]
        have before : h.awaits x k = false := by
          rw [Bool.eq_false_iff]
          exact fun waits => absent (orderly.mem_of_awaits coherent ticketed waits)
        rw [if_pos (by simp [waits, before])]
        exact orderly'

/-! ### Being served -/

/-- The first in line was sent the resource, which is held still and not ranked. -/
structure Serves (h : Hall ι ρ) (x : ι) (signal : Signal) (h' : Hall ι ρ) : Prop where
  sent : ∃ record r, h.broker.records.get? x = some record ∧
    h'.requests.get? signal.request = some r ∧ r.target = x ∧
    r.stage = .queued signal.ticket (.sent record.resource)
  line : h.broker.line x = signal :: h'.broker.line x
  held : h'.broker.isBusy? x = some true
  unranked : x ∉ h'.broker.idleIds

section Serving

variable {signal : Signal} {rest : List Signal}

theorem held_of_line (coherent : h.Coherent) (first : h.broker.line x = signal :: rest) :
    h.broker.isBusy? x = some true := by
  by_contra free
  rw [coherent.broker.line_eq_nil free] at first
  cases first

/-- A resource that is given up goes to the first in line. -/
theorem handOver_serves (coherent : h.Coherent) (ticketed : h.Ticketed)
    (first : h.broker.line x = signal :: rest) (priority : Priority) :
    let handing := h.broker.handOver h.listens x priority
    let passed := ({ h with broker := handing.broker }.deliver handing.delivery).notifyParked
    handing.verdict = .ok .waiter ∧ h.Serves x signal passed := by
  intro handing passed
  have held := held_of_line coherent first
  have everybody := ticketed.dropWhile_line x
  obtain ⟨record, known, verdict, delivery, _, _, change⟩ :=
    Broker.handOver_waiter coherent.broker held (everybody.trans first) priority
  have mem : signal ∈ h.broker.line x := by simp [first]
  obtain ⟨r, live⟩ := ticketed.live x signal mem
  obtain ⟨target, stage⟩ := coherent.listening x signal mem r live
  have held' : handing.broker.isBusy? x = some true := by
    rw [change.busy, if_pos rfl]
  refine ⟨verdict, ⟨record, (r.receive (.sent record.resource)).notify, known, ?_, ?_, ?_⟩,
    ?_, ?_, ?_⟩
  · simp [passed, handing, delivery, live]
  · rw [(Request.told_notify _).target, (Request.told_receive r _).target, target]
  · simp [Request.stage_notify, Request.stage_receive, stage]
  · simp only [passed, handing, delivery]
    rw [first]
    show _ = signal :: (h.broker.handOver h.listens x priority).broker.line x
    rw [change.line, if_pos rfl]
  · simp only [passed, handing, delivery]
    exact held'
  · simp only [passed, handing, delivery]
    exact change.valid.not_ranked (by rw [held']; simp)

/-- Nobody in line is ever found gone. -/
theorem vanished_nil (coherent : h.Coherent) (ticketed : h.Ticketed) (x : ι) (priority : Priority) :
    (h.broker.handOver h.listens x priority).vanished = [] := by
  have valid := coherent.broker
  have everybody := ticketed.dropWhile_line x
  rcases hbusy : h.broker.isBusy? x with _ | _ | _
  · exact (Broker.handOver_unknown valid hbusy h.listens priority).2.2.1
  · exact (Broker.handOver_free hbusy h.listens priority).2.2.1
  · cases first : h.broker.line x with
    | nil =>
      obtain ⟨_, _, vanished, _⟩ :=
        Broker.handOver_idle valid hbusy (everybody.trans first) priority
      rw [vanished, first]
    | cons signal rest =>
      obtain ⟨_, _, _, _, vanished, _⟩ :=
        Broker.handOver_waiter valid hbusy (everybody.trans first) priority
      obtain ⟨r, live⟩ := ticketed.live x signal (by simp [first])
      simp [vanished, first, listens, Registry.contains, live]

theorem release_serves (coherent : h.Coherent) (ticketed : h.Ticketed)
    (first : h.broker.line x = signal :: rest) (priority : Priority) :
    (h.release priority x).1 = .ok () ∧ h.Serves x signal (h.release priority x).2 := by
  obtain ⟨verdict, served⟩ := handOver_serves coherent ticketed first priority
  refine ⟨release_of_ok verdict, ?_⟩
  simp only [release, verdict, deliver_report]
  exact ⟨served.sent, served.line, served.held, served.unranked⟩

/-- Ownership that a request was sent and is given up with it goes to the first in line. -/
theorem drop_serves (coherent : h.Coherent) (ticketed : h.Ticketed)
    (first : h.broker.line x = signal :: rest) (sent : h.isSent x k = true) :
    h.Serves x signal (h.drop k) := by
  obtain ⟨r, ticket, resource, live, rfl, stage⟩ := isSent_iff.1 sent
  have absent : (h.broker.line r.target).find? (fun signal => signal.ticket == ticket) = none := by
    rw [List.find?_eq_none]
    intro other mem same
    have own := ticketed.eq_signal coherent live stage mem (by simpa using same)
    cases own.2
  have hne : signal.request ≠ k := coherent.not_inLine live (by simp [stage]) (x := r.target)
    (by simp [first])
  obtain ⟨_, served⟩ :=
    handOver_serves coherent ticketed first (h.broker.lastPriority r.target)
  have dropped : h.drop k = (h.abandon r).remove k := by simp [drop, live]
  have passed : (h.abandon r).remove k = _ := abandon_sent coherent stage absent
  obtain ⟨record, s, known, live', target, stage'⟩ := served.sent
  rw [dropped, passed]
  refine ⟨⟨record, s, known, ?_, target, stage'⟩, served.line, served.held, served.unranked⟩
  simpa [report, hne] using live'

/-- While somebody stands in line, only those get the resource who were sent it. -/
theorem handedOut_sent (coherent : h.Coherent) (first : h.broker.line x = signal :: rest)
    {op : Operation ι ρ} (handed : h.handedOut op (h.step op).1 = some x) :
    ∃ k tie, op = .poll k tie ∧ h.isSent x k = true := by
  have held := held_of_line coherent first
  cases op with
  | takeAny =>
    rcases Broker.takeAny?_cases coherent.broker with
      ⟨_, heq⟩ | ⟨id, _, record, _, _, free, resource, _, _⟩
    · simp [step, takeAny, heq, handedOut] at handed
    · rcases heq : h.broker.takeAny? with ⟨found, b⟩
      rw [heq] at resource
      cases resource
      simp only [step, takeAny, heq, handedOut, Option.some.injEq] at handed
      rw [← handed, free] at held
      cases held
  | poll k tie =>
    refine ⟨k, tie, rfl, ?_⟩
    rcases polled : h.poll tie k with ⟨_ | _ | resource, h'⟩
    · simp [step, polled, handedOut] at handed
    · simp [step, polled, handedOut] at handed
    · simp only [step, polled, handedOut, Option.map_eq_some_iff] at handed
      obtain ⟨r, live, rfl⟩ := handed
      rcases poll_ok coherent live (congrArg Prod.fst polled) with free | sent
      · rw [free] at held
        cases held
      · simp [isSent, live, isSentTo, sent]
  | _ => simp [handedOut] at handed

end Serving

end Hall

namespace Chronicle

variable {ι ρ : Type} [DecidableEq ι] {settings : Settings}
  {may : Chronicle ι ρ → Operation ι ρ → Prop} {c : Chronicle ι ρ} {x : ι}

/-! ### Operations -/

/-- Every line is in the order of arrival. -/
def InOrder (c : Chronicle ι ρ) : Prop :=
  ∀ x, c.hall.broker.isBusy? x ≠ none → c.hall.Orderly x (c.arrivals x)

theorem InOrder.register (ordered : c.InOrder) (coherent : c.hall.Coherent)
    (ticketed : c.hall.Ticketed) (id : ι) (resource : ρ) (priority? : Option Priority) :
    (c.next (.register id resource priority?)).InOrder := by
  intro x registered
  rcases Hall.register_cases coherent id resource priority? with
    ⟨refusal, heq⟩ | ⟨b, events, heq, _, unknown, fresh, ticket, change⟩
  · simp only [next, arrivalsAfter, Hall.step, heq] at registered ⊢
    exact ordered x registered
  · simp only [next, arrivalsAfter, Hall.step, heq] at registered ⊢
    refine Hall.Orderly.report ?_ events
    split
    · rename_i hx
      exact Hall.orderly_nil (show b.line x = [] by rw [change.line, if_pos hx])
    · rename_i hx
      have known : c.hall.broker.isBusy? x ≠ none := change.busy_of_ne hx ▸ registered
      exact (Hall.Incident.register unknown fresh ticket change).orderly coherent ticketed
        (ordered x known) registered

theorem InOrder.unregister (ordered : c.InOrder) (coherent : c.hall.Coherent)
    (ticketed : c.hall.Ticketed) (id : ι) : (c.next (.unregister id)).InOrder := by
  intro x registered
  rcases Hall.unregister_cases coherent id with
    ⟨b, heq, ticket, change⟩ | ⟨b, busy, resource, events, heq, _, known, ticket, change⟩
  · simp only [next, arrivalsAfter, Hall.step, heq] at registered ⊢
    have known : c.hall.broker.isBusy? x ≠ none := by
      rwa [Ne, ← change.known_iff Iff.rfl]
    exact (Hall.Incident.unrank ticket change).orderly coherent ticketed (ordered x known)
      registered
  · simp only [next, arrivalsAfter, Hall.step, heq] at registered ⊢
    refine Hall.Orderly.report ?_ events
    have hx : x ≠ id := by
      rintro rfl
      exact registered (show b.isBusy? x = none by rw [change.busy, if_pos rfl])
    have known' : c.hall.broker.isBusy? x ≠ none := change.busy_of_ne hx ▸ registered
    exact (Hall.Incident.unregister known ticket change).orderly coherent ticketed
      (ordered x known') registered

/-- A request that is over has come before. -/
theorem InOrder.of_gone (ordered : c.InOrder) (coherent : c.hall.Coherent)
    (ticketed : c.hall.Ticketed) {op : Operation ι ρ} {k : RequestId}
    (bound : (c.next op).hall.ticketsIssued < 2 ^ 64) (doer : op.IsBy (some k))
    (gone : (c.next op).hall.requests.get? k = none)
    (same : (c.next op).arrivals = c.arrivals) : (c.next op).InOrder := by
  intro x registered
  obtain ⟨_, moves⟩ := Hall.step_moves coherent doer
  have known : c.hall.broker.isBusy? x ≠ none := by
    rwa [Ne, ← moves.known_iff coherent]
  rw [same]
  exact moves.orderly_of_gone coherent ticketed bound (ordered x known) gone

theorem InOrder.poll (ordered : c.InOrder) (coherent : c.hall.Coherent)
    (ticketed : c.hall.Ticketed) (tie : Tie) (k : RequestId)
    (bound : (c.next (.poll k tie)).hall.ticketsIssued < 2 ^ 64) :
    (c.next (.poll k tie)).InOrder := by
  have stepped : (c.next (.poll k tie)).hall = (c.hall.poll tie k).2 := Hall.step_poll c.hall tie k
  have arrived : ∀ x, (c.next (.poll k tie)).arrivals x =
      if (c.hall.poll tie k).2.awaits x k && !c.hall.awaits x k then c.arrivals x ++ [k]
      else c.arrivals x := by
    intro x
    rw [← Hall.step_poll]
    rfl
  cases gone : (c.hall.poll tie k).2.requests.get? k with
  | none =>
    apply ordered.of_gone coherent ticketed bound rfl (stepped ▸ gone)
    funext x
    simp [arrived, Hall.awaits, gone]
  | some r' =>
    intro x registered
    rw [stepped] at registered bound ⊢
    rw [arrived]
    exact Hall.poll_orderly coherent ticketed bound gone (ordered x) registered

/-- Every operation keeps the lines in the order of arrival. -/
theorem InOrder.next (ordered : c.InOrder) (coherent : c.hall.Coherent)
    (ticketed : c.hall.Ticketed) (op : Operation ι ρ)
    (bound : (c.next op).hall.ticketsIssued < 2 ^ 64) : (c.next op).InOrder := by
  -- What is not about a request may be the doing of one that is not there.
  have nobody : op.IsBy (some (c.next op).hall.nextRequest) →
      (c.next op).arrivals = c.arrivals → (c.next op).InOrder := by
    intro doer same
    obtain ⟨_, moves⟩ := Hall.step_moves coherent op.isBy_actor
    refine ordered.of_gone coherent ticketed bound doer ?_ same
    cases live : (c.next op).hall.requests.get? (c.next op).hall.nextRequest with
    | none => rfl
    | some r => exact absurd ((moves.coherent coherent).numbered _ r live) (Nat.lt_irrefl _)
  cases op with
  | register id resource priority? => exact ordered.register coherent ticketed id resource priority?
  | unregister id => exact ordered.unregister coherent ticketed id
  | poll k tie => exact ordered.poll coherent ticketed tie k bound
  | drop k => exact ordered.of_gone coherent ticketed bound rfl (Hall.requests_drop c.hall k) rfl
  | start | cancel | elapse | takeAny | release | withdraw => exact nobody trivial rfl

theorem Reachable.inOrder (reachable : c.Reachable settings may)
    (bound : c.hall.ticketsIssued < 2 ^ 64) : c.InOrder := by
  induction reachable with
  | start =>
    intro x registered
    simp [opening, Hall.opening, Broker.empty, Broker.isBusy?] at registered
  | @next c op allowed reachable ih =>
    have coherent := reachable.hall.coherent
    obtain ⟨_, moves⟩ := Hall.step_moves coherent op.isBy_actor
    have bound' : c.hall.ticketsIssued < 2 ^ 64 := Nat.lt_of_le_of_lt moves.issued_le bound
    exact (ih bound').next coherent (reachable.hall.ticketed bound') op bound

/-! ### Lines -/

theorem line_eq_arrivals (ordered : c.InOrder) (coherent : c.hall.Coherent)
    (ticketed : c.hall.Ticketed) (registered : c.hall.broker.isBusy? x ≠ none) :
    (c.hall.broker.line x).map Signal.request =
      (c.arrivals x).filter fun k => c.hall.listens k && !c.hall.isSent x k := by
  have orderly := ordered x registered
  apply sublist_eq_filter orderly.nodup orderly.line
  intro k mem
  rw [← Hall.awaits_iff_mem coherent ticketed]
  cases live : c.hall.requests.get? k with
  | none => simp [Hall.awaits, Hall.listens, Registry.contains, live]
  | some r =>
    obtain ⟨target, ticket, mail, stage, opened⟩ := orderly.queued k mem r live
    simp only [Hall.awaits, Hall.listens, Hall.isSent, Registry.contains, live, Option.any_some,
      Option.isSome_some, Bool.true_and, Hall.isSentTo, Request.isAwaiting, Request.isSent, stage,
      target]
    cases mail with
    | awaited => simp
    | sent resource => simp
    | discarded => exact absurd rfl opened

theorem nodup_tickets {h : Hall ι ρ} (coherent : h.Coherent) (ticketed : h.Ticketed) (x : ι) :
    ((h.broker.line x).map Signal.ticket).Nodup := by
  apply (List.Nodup.of_map Signal.request (coherent.distinct x)).map_on
  intro signal mem other mem' same
  obtain ⟨r, live⟩ := ticketed.live x signal mem
  have stage := (coherent.listening x signal mem r live).2
  have own := ticketed.eq_signal coherent live stage mem' same.symm
  exact own.1.symm

/-- First come, first served. In every run, whatever clients do, as long as tickets have not
come round, those who stand in line for a registered id are those who came to stand there
since it was registered and were neither sent the resource nor ended, in the order in which
they came. Their tickets are distinct, and they are no more than there is room for. A
resource that is given up, by whoever holds it or with a request that it was sent to, goes
to the first of them at once, and stays held; until the line is empty, nobody gets it who
was not sent it; and no one is sent it while one who came before him waits. -/
theorem first_come_first_served (reachable : c.Reachable settings may)
    (bound : c.hall.ticketsIssued < 2 ^ 64) (registered : c.hall.broker.contains x = true) :
    (c.hall.broker.line x).map Signal.request =
      (c.arrivals x).filter (fun k => c.hall.listens k && !c.hall.isSent x k) ∧
    (∀ signal ∈ c.hall.broker.line x, ∃ r, c.hall.requests.get? signal.request = some r ∧
      r.target = x ∧ r.stage = .queued signal.ticket .awaited) ∧
    ((c.hall.broker.line x).map Signal.ticket).Nodup ∧
    (c.hall.broker.line x).length ≤ c.hall.broker.settings.waiterCapacity.toNat ∧
    (∀ signal rest, c.hall.broker.line x = signal :: rest →
      (c.hall.broker.isBusy? x = some true ∧ x ∉ c.hall.broker.idleIds) ∧
      (∀ priority, (c.hall.release priority x).1 = .ok () ∧
        c.hall.Serves x signal (c.hall.release priority x).2) ∧
      (∀ k, c.hall.isSent x k = true → c.hall.Serves x signal (c.hall.drop k)) ∧
      ∀ op, c.hall.handedOut op (c.hall.step op).1 = some x →
        ∃ k tie, op = .poll k tie ∧ c.hall.isSent x k = true) ∧
    (∀ priority, (c.hall.broker.handOver c.hall.listens x priority).vanished = []) ∧
    (c.arrivals x).Pairwise fun earlier later =>
      c.hall.awaits x earlier = true → c.hall.isSent x later = false := by
  have coherent := reachable.hall.coherent
  have ticketed := reachable.hall.ticketed bound
  have ordered := reachable.inOrder bound
  have known := (c.hall.broker.contains_iff x).1 registered
  refine ⟨line_eq_arrivals ordered coherent ticketed known, ?_, nodup_tickets coherent ticketed x,
    coherent.broker.length_line_le x, ?_, Hall.vanished_nil coherent ticketed x,
    (ordered x known).fair⟩
  · intro signal mem
    obtain ⟨r, live⟩ := ticketed.live x signal mem
    exact ⟨r, live, coherent.listening x signal mem r live⟩
  · intro signal rest first
    have held := Hall.held_of_line coherent first
    exact ⟨⟨held, coherent.broker.not_ranked (by simp [held])⟩,
      Hall.release_serves coherent ticketed first,
      fun k sent => Hall.drop_serves coherent ticketed first sent,
      fun op handed => Hall.handedOut_sent coherent first handed⟩

/-- Three requests came to stand in line. The first was sent the resource, and the second
gave up. -/
def advancedLine : Chronicle Nat Nat :=
  (opening { Settings.standard with maxResources := 1, waiterCapacity := 3 }).run
    [.register 7 70 none, .takeAny, .start 0 7 .unlimited, .start 1 7 .unlimited,
      .start 2 7 (.limit 5), .poll 1 .cancelFirst, .poll 0 .cancelFirst, .poll 2 .cancelFirst,
      .release 3 7, .drop 0]

theorem first_come_first_served_advanced :
    advancedLine.arrivals 7 = [1, 0, 2] ∧
    (advancedLine.hall.broker.line 7).map Signal.request = [2] ∧
    advancedLine.hall.Serves 7 ⟨2, 2⟩ (advancedLine.hall.release 0 7).2 ∧
    advancedLine.hall.Serves 7 ⟨2, 2⟩ (advancedLine.hall.drop 1) := by
  have reachable : Reachable { Settings.standard with maxResources := 1, waiterCapacity := 3 }
      Anything advancedLine := Reachable.start.run _
  obtain ⟨line, _, _, _, served, _⟩ :=
    first_come_first_served reachable (by decide) (show _ = true by decide) (x := 7)
  obtain ⟨_, released, dropped, _⟩ := served ⟨2, 2⟩ [] (by decide)
  exact ⟨by decide, line.trans (by decide), (released 0).2, dropped 1 (by decide)⟩

end Chronicle

end Custody
