import Custody.Proofs.Hall.Bystander

/-!
# Operations are moves

* `Hall.drop_moves`, `Hall.release_moves`, `Hall.takeAny_moves`, `Hall.poll_moves`: the
  moves of one operation, and the ownership that passes;
* `Hall.step_moves`: every operation is made of moves;
* `Hall.Reachable.coherent`: so the state invariant holds at the end of every run.
-/

namespace Custody

/-- The stage of a request that has reason to wait. -/
def Stage.IsWaiting {ρ : Type} (s : Stage ρ) : Prop :=
  s = .parked false ∨ ∃ ticket, s = .queued ticket .awaited

theorem Request.takings_of_not_sent {ι ρ : Type} {r : Request ι ρ} (notSent : r.isSent = false) :
    r.takings = [] := by
  simp [takings, notSent]

theorem Request.isSent_of_isWaiting {ι ρ : Type} {r : Request ι ρ} (waiting : r.stage.IsWaiting) :
    r.isSent = false := by
  rcases waiting with stage | ⟨ticket, stage⟩ <;> simp [isSent, stage]

namespace Broker

variable {ι ρ : Type} [DecidableEq ι]

/-- Somebody holds the resource, or held it when it was unregistered. -/
def IsOwned (b : Broker ι ρ) (id : ι) : Prop := b.isBusy? id = some true ∨ id ∈ b.retired

instance (b : Broker ι ρ) (id : ι) : Decidable (b.IsOwned id) :=
  inferInstanceAs (Decidable (_ ∨ _))

end Broker

namespace Hall

variable {ι ρ : Type} [DecidableEq ι] {h : Hall ι ρ}

/-! ### Giving up -/

omit [DecidableEq ι] in
theorem quiet_ofHanding (id : ι) (handing : Broker.Handing ι ρ) :
    ∀ event ∈ Event.ofHanding id handing, event.isQueued = false := by
  intro event mem
  simp only [Event.ofHanding, List.mem_append, List.mem_map] at mem
  rcases mem with (mem | ⟨signal, _, rfl⟩) | mem
  · split at mem
    · rw [List.mem_singleton.1 mem]
      rfl
    · simp at mem
  · rfl
  · split at mem
    · rw [List.mem_singleton.1 mem]
      rfl
    · simp at mem

omit [DecidableEq ι] in
theorem quiet_append {events : List (Event ι)} {last : Event ι}
    (quiet : ∀ event ∈ events, event.isQueued = false) (quietLast : last.isQueued = false) :
    ∀ event ∈ events ++ [last], event.isQueued = false := by
  intro event mem
  rcases List.mem_append.1 mem with mem | mem
  · exact quiet event mem
  · rw [List.mem_singleton.1 mem]
    exact quietLast

omit [DecidableEq ι] in
theorem quiet_abandoned (id : ι) (line : List Signal) :
    ∀ event ∈ (if line.isEmpty then [] else [Event.abandonedWaiters id line.length]),
      event.isQueued = false := by
  intro event mem
  split at mem
  · cases mem
  · rw [List.mem_singleton.1 mem]
    rfl

/-- A resource that somebody holds is passed on; otherwise nothing happens. -/
theorem handOver_moves (coherent : h.Coherent) (actor : Option RequestId) (id : ι)
    (priority : Priority) :
    ∃ transfers, transfers = (if h.broker.IsOwned id then [.given id] else []) ∧
      match (h.broker.handOver h.listens id priority).verdict with
      | .error _ => (h.broker.handOver h.listens id priority).delivery = none ∧
          Moves actor h transfers
            { h with broker := (h.broker.handOver h.listens id priority).broker }
      | .ok _ => Moves actor h transfers
          ({ h with broker := (h.broker.handOver h.listens id priority).broker }.deliver
            (h.broker.handOver h.listens id priority).delivery).notifyParked := by
  refine ⟨_, rfl, ?_⟩
  have valid := coherent.broker
  rcases hbusy : h.broker.isBusy? id with _ | _ | _
  · obtain ⟨verdict, delivery, _, ticket, change⟩ :=
      Broker.handOver_unknown valid hbusy h.listens priority
    rw [verdict]
    refine ⟨delivery, ?_⟩
    by_cases retired : id ∈ h.broker.retired
    · rw [if_pos (.inr retired)]
      exact (Incident.free retired ticket change).moves
    · have heq : (h.broker.handOver h.listens id priority).broker = h.broker := by
        have hget := (Broker.isBusy?_eq_none_iff h.broker id).1 hbusy
        simp [Broker.handOver, hget, List.erase_of_not_mem retired]
      rw [if_neg (by simp [Broker.IsOwned, hbusy, retired]), heq]
      exact .done h
  · obtain ⟨verdict, delivery, _, broker⟩ := Broker.handOver_free hbusy h.listens priority
    rw [verdict, broker, if_neg]
    · exact ⟨delivery, .done h⟩
    · have fresh : id ∉ h.broker.retired := valid.not_retired (by simp [hbusy])
      simp [Broker.IsOwned, hbusy, fresh]
  · rw [if_pos (.inl hbusy)]
    cases first : (h.broker.line id).dropWhile fun signal => !h.listens signal.request with
    | nil =>
      obtain ⟨verdict, delivery, _, ticket, change⟩ :=
        Broker.handOver_idle valid hbusy first priority
      rw [verdict, delivery]
      exact (Incident.idle hbusy first ticket change).moves
    | cons signal rest =>
      obtain ⟨record, known, verdict, delivery, _, ticket, change⟩ :=
        Broker.handOver_waiter valid hbusy first priority
      rw [verdict, delivery]
      exact (Incident.send hbusy first known ticket change).moves

omit [DecidableEq ι] in
theorem deliver_report (h : Hall ι ρ) (events : List (Event ι))
    (delivery : Option (RequestId × ρ)) :
    (h.report events).deliver delivery = (h.deliver delivery).report events := by
  cases delivery <;> rfl

/-- Whoever gives up a resource gives back what somebody holds. -/
theorem release_moves (coherent : h.Coherent) (actor : Option RequestId) (priority : Priority)
    (id : ι) :
    Moves actor h (if h.broker.IsOwned id then [.given id] else []) (h.release priority id).2 := by
  obtain ⟨transfers, rfl, handed⟩ := handOver_moves coherent actor id priority
  have quiet := quiet_ofHanding id (h.broker.handOver h.listens id priority)
  rw [← List.append_nil (if h.broker.IsOwned id then _ else _)]
  cases verdict : (h.broker.handOver h.listens id priority).verdict with
  | error refusal =>
    rw [verdict] at handed
    simp only [release, verdict]
    exact handed.2.trans (Incident.report quiet).moves
  | ok handover =>
    rw [verdict] at handed
    simp only [release, verdict, deliver_report]
    refine handed.trans ((Incident.report quiet).moves.trans (Incident.report ?_).moves)
    intro event mem
    rw [List.mem_singleton.1 mem]
    cases handover <;> rfl

theorem release_of_ok {priority : Priority} {id : ι} {handover : Handover}
    (verdict : (h.broker.handOver h.listens id priority).verdict = .ok handover) :
    (h.release priority id).1 = .ok () := by
  simp [release, verdict]

theorem leave?_of_none {id : ι} {ticket : UInt64} (coherent : h.Coherent)
    (absent : (h.broker.line id).find? (fun signal => signal.ticket == ticket) = none) :
    h.broker.leave? id ticket = none := by
  have left := Broker.leave?_cases coherent.broker id ticket
  rwa [absent] at left

/-- A request that is queued ends with its signal, where there is one with its ticket. -/
theorem quit_moves (coherent : h.Coherent) {k : RequestId} {r : Request ι ρ} {ticket : UInt64}
    {mail : Mail ρ} {signal : Signal} (live : h.requests.get? k = some r)
    (stage : r.stage = .queued ticket mail)
    (found : (h.broker.line r.target).find? (fun signal => signal.ticket == ticket) = some signal) :
    Moves (some k) h r.takings ((h.abandon r).remove k) := by
  have left := Broker.leave?_cases coherent.broker r.target ticket
  rw [found] at left
  obtain ⟨b, left, held, same, change⟩ := left
  have heq : (h.abandon r).remove k =
      ((({ h with broker := b }.discard [signal]).notifyParked).remove k).report
        [.withdrew r.target ticket] := by
    simp only [abandon, stage, abandonSignal, left]
    rfl
  rw [heq, ← List.append_nil r.takings]
  refine .next (.quit live stage found held same change) (Incident.report ?_).moves
  intro event mem
  rw [List.mem_singleton.1 mem]
  rfl

/-- A request that awaits its signal ends with it. -/
theorem awaited_moves (coherent : h.Coherent) {k : RequestId} {r : Request ι ρ} {ticket : UInt64}
    (live : h.requests.get? k = some r) (stage : r.stage = .queued ticket .awaited) :
    Moves (some k) h [] ((h.abandon r).remove k) := by
  have mem := coherent.awaited k r ticket live stage
  obtain ⟨signal, found⟩ : ∃ signal,
      (h.broker.line r.target).find? (fun signal => signal.ticket == ticket) = some signal := by
    rw [← Option.isSome_iff_exists, List.find?_isSome]
    exact ⟨_, mem, by simp⟩
  have moves := quit_moves coherent live stage found
  rwa [Request.takings_of_not_sent (by simp [Request.isSent, stage])] at moves

theorem abandon_sent (coherent : h.Coherent) {k : RequestId} {r : Request ι ρ} {ticket : UInt64}
    {resource : ρ} (stage : r.stage = .queued ticket (.sent resource))
    (absent : (h.broker.line r.target).find? (fun signal => signal.ticket == ticket) = none) :
    let handing := h.broker.handOver h.listens r.target (h.broker.lastPriority r.target)
    let passed := ({ h with broker := handing.broker }.deliver handing.delivery).notifyParked
    (h.abandon r).remove k = (passed.remove k).report
        (Event.ofHanding r.target handing ++ [Event.passedOn r.target ticket handing.verdict]) := by
  simp only [abandon, stage, abandonSignal, leave?_of_none coherent absent]
  rfl

/-- A request that was sent a resource and did not take it passes it on. -/
theorem sent_moves (coherent : h.Coherent) {k : RequestId} {r : Request ι ρ} {ticket : UInt64}
    {resource : ρ} (live : h.requests.get? k = some r)
    (stage : r.stage = .queued ticket (.sent resource))
    (absent : (h.broker.line r.target).find? (fun signal => signal.ticket == ticket) = none) :
    Moves (some k) h ((if h.broker.IsOwned r.target then [.given r.target] else []) ++
      [.taken r.target]) ((h.abandon r).remove k) := by
  let handing := h.broker.handOver h.listens r.target (h.broker.lastPriority r.target)
  let passed := ({ h with broker := handing.broker }.deliver handing.delivery).notifyParked
  have heq : (h.abandon r).remove k = _ := abandon_sent coherent stage absent
  have given : ∀ actor, Moves actor h
      (if h.broker.IsOwned r.target then [.given r.target] else []) passed := by
    intro actor
    obtain ⟨transfers, rfl, handed⟩ :=
      handOver_moves coherent actor r.target (h.broker.lastPriority r.target)
    cases verdict : handing.verdict with
    | error refusal =>
      rw [verdict] at handed
      obtain ⟨delivery, moves⟩ := handed
      have notified := moves.trans Incident.notify.moves
      rw [List.append_nil] at notified
      simp only [passed, handing, delivery]
      exact notified
    | ok handover =>
      rw [verdict] at handed
      exact handed
  obtain ⟨r', live', told, later⟩ := (given none).bystander coherent (by simp) live
  rw [stage] at later
  obtain ⟨mail, stage', kept⟩ := later
  rw [kept (by simp)] at stage'
  have takings : r'.takings = [.taken r.target] := by
    simp [Request.takings, Request.isSent, stage', told.target]
  rw [heq, ← takings, ← List.append_nil r'.takings]
  refine (given _).trans (.next (.finish live' (by simp [stage'])) (Incident.report ?_).moves)
  exact quiet_append (quiet_ofHanding _ _) rfl

/-- A request was sent a resource, and a signal in line has the same ticket as its own
had. Tickets have come round. -/
def Strays (h : Hall ι ρ) (r : Request ι ρ) : Prop :=
  ∃ ticket resource, r.stage = .queued ticket (.sent resource) ∧
    ∃ signal ∈ h.broker.line r.target, signal.ticket = ticket

/-- A request that ends passes on what it was sent, unless it strays. -/
theorem drop_moves (coherent : h.Coherent) {k : RequestId} {r : Request ι ρ}
    (live : h.requests.get? k = some r) :
    ∃ transfers, Moves (some k) h transfers (h.drop k) ∧
      (r.isSent = true ∧ transfers = [.given r.target, .taken r.target] ∨
        transfers = r.takings ∧ (r.isSent = true → h.Strays r ∨ ¬h.broker.IsOwned r.target)) := by
  simp only [drop, live]
  cases stage : r.stage with
  | fresh =>
    have heq : (h.abandon r).remove k = h.remove k := by simp [abandon, stage]
    rw [heq]
    exact ⟨_, (Move.finish live (by simp [stage])).moves,
      .inr ⟨rfl, by simp [Request.isSent, stage]⟩⟩
  | parked notified =>
    have heq : (h.abandon r).remove k = h.remove k := by simp [abandon, stage]
    rw [heq]
    exact ⟨_, (Move.finish live (by simp [stage])).moves,
      .inr ⟨rfl, by simp [Request.isSent, stage]⟩⟩
  | queued ticket mail =>
    cases mail with
    | awaited =>
      refine ⟨_, awaited_moves coherent live stage, .inr ⟨?_, by simp [Request.isSent, stage]⟩⟩
      exact (Request.takings_of_not_sent (by simp [Request.isSent, stage])).symm
    | discarded =>
      have hsent : r.isSent = false := by simp [Request.isSent, stage]
      cases found : (h.broker.line r.target).find? (fun signal => signal.ticket == ticket) with
      | some signal =>
        exact ⟨_, quit_moves coherent live stage found, .inr ⟨rfl, by simp [hsent]⟩⟩
      | none =>
        have heq : (h.abandon r).remove k = h.remove k := by
          simp [abandon, stage, abandonSignal, leave?_of_none coherent found]
        rw [heq]
        exact ⟨_, (Move.finish live (by simp [stage])).moves, .inr ⟨rfl, by simp [hsent]⟩⟩
    | sent resource =>
      have hsent : r.isSent = true := by simp [Request.isSent, stage]
      cases found : (h.broker.line r.target).find? (fun signal => signal.ticket == ticket) with
      | some signal =>
        refine ⟨_, quit_moves coherent live stage found, .inr ⟨rfl, fun _ => .inl ?_⟩⟩
        exact ⟨ticket, resource, stage, signal, List.mem_of_find?_eq_some found,
          by simpa using List.find?_some found⟩
      | none =>
        have moves := sent_moves coherent live stage found
        by_cases owned : h.broker.IsOwned r.target
        · rw [if_pos owned] at moves
          exact ⟨_, moves, .inl ⟨hsent, rfl⟩⟩
        · rw [if_neg owned] at moves
          exact ⟨_, moves, .inr ⟨by simp [Request.takings, hsent], fun _ => .inr owned⟩⟩

theorem requests_drop (h : Hall ι ρ) (k : RequestId) : (h.drop k).requests.get? k = none := by
  unfold drop
  split
  · assumption
  · simp

/-! ### Asking -/

/-- The ends of asking the broker for a resource. -/
inductive Attempt (h : Hall ι ρ) (k : RequestId) (r : Request ι ρ) (wasParked : Bool) :
    Option (Outcome ι ρ) → Hall ι ρ → Prop
  | unknown (gone : h.broker.isBusy? r.target = none) :
      Attempt h k r wasParked
        (some (.error (if wasParked then .unregistered r.target else .notRegistered r.target))) h
  | granted {b : Broker ι ρ} {record : Record ρ} (free : h.broker.isBusy? r.target = some false)
      (known : h.broker.records.get? r.target = some record)
      (ticket : b.nextTicket = h.broker.nextTicket)
      (change : h.broker.Change b r.target (some true) [] False) :
      Attempt h k r wasParked (some (.ok record.resource))
        ({ h with broker := b }.report [.tookIdle r.target])
  | cancelled (held : h.broker.isBusy? r.target = some true) (gone : h.isCancelled r = true) :
      Attempt h k r wasParked (some (.error .cancelled)) h
  | full (held : h.broker.isBusy? r.target = some true) (patient : h.isCancelled r = false)
      (length : (h.broker.line r.target).length = h.broker.settings.waiterCapacity.toNat) :
      Attempt h k r wasParked none (h.setRequest k { r with stage := .parked false })
  | queued {b : Broker ι ρ} (held : h.broker.isBusy? r.target = some true)
      (patient : h.isCancelled r = false)
      (room : (h.broker.line r.target).length < h.broker.settings.waiterCapacity.toNat)
      (ticket : b.nextTicket = h.broker.nextTicket + 1)
      (change : h.broker.Change b r.target (some true)
        (h.broker.line r.target ++ [⟨h.broker.nextTicket, k⟩]) False) :
      Attempt h k r wasParked none
        (({ h with broker := b }.setRequest k
          { r with stage := .queued h.broker.nextTicket .awaited }).report
            [.queued r.target h.broker.nextTicket])

theorem attempt_cases (coherent : h.Coherent) (k : RequestId) (r : Request ι ρ)
    (wasParked : Bool) :
    Attempt h k r wasParked (h.attempt k r wasParked).1 (h.attempt k r wasParked).2 := by
  have valid := coherent.broker
  rcases hbusy : h.broker.isBusy? r.target with _ | _ | _
  · simp only [attempt, Broker.request_unknown hbusy]
    exact .unknown hbusy
  · obtain ⟨record, known, granted, ticket, change⟩ :=
      Broker.request_free valid hbusy k (h.isCancelled r)
    rcases asked : h.broker.request r.target k (h.isCancelled r) with ⟨reception, b⟩
    rw [asked] at granted ticket change
    cases granted
    simp only [attempt, asked]
    exact .granted hbusy known ticket change
  · cases patient : h.isCancelled r with
    | true =>
      simp only [attempt, patient, Broker.request_cancelled hbusy]
      exact .cancelled hbusy patient
    | false =>
      have answered := Broker.request_held valid hbusy k
      rcases asked : h.broker.request r.target k false with ⟨reception, b⟩
      rw [asked] at answered
      simp only [attempt, patient, asked]
      split at answered
      · rename_i room
        obtain ⟨rfl, ticket, change⟩ := answered
        exact .queued hbusy patient room ticket change
      · rename_i room
        cases answered
        exact .full hbusy patient (Nat.le_antisymm (valid.length_line_le _) (Nat.le_of_not_lt room))

/-! ### Polling -/

/-- The ends of running a request, whatever the time. -/
inductive Advance (h : Hall ι ρ) (tie : Tie) (k : RequestId) (r : Request ι ρ) :
    Option (Outcome ι ρ) → Hall ι ρ → Prop
  | asked {outcome? : Option (Outcome ι ρ)} {h' : Hall ι ρ} (wasParked : Bool)
      (stage : r.stage = if wasParked then .parked true else .fresh)
      (attempt : Attempt h k r wasParked outcome? h') : Advance h tie k r outcome? h'
  | received {ticket : UInt64} {resource : ρ} (stage : r.stage = .queued ticket (.sent resource)) :
      Advance h tie k r (some (.ok resource)) (h.report [.woken r.target ticket])
  | discarded {ticket : UInt64} (stage : r.stage = .queued ticket .discarded) :
      Advance h tie k r (some (.error (.unregistered r.target))) h
  | withdrawn {ticket : UInt64} (stage : r.stage = .queued ticket .awaited)
      (gone : h.isCancelled r = true) :
      Advance h tie k r (some (.error .cancelled)) (h.abandon r)
  | unparked {notified : Bool} (stage : r.stage = .parked notified)
      (gone : h.isCancelled r = true) :
      Advance h tie k r (some (.error .cancelled)) h
  | waiting (stage : r.stage.IsWaiting) (patient : h.isCancelled r = false) :
      Advance h tie k r none h

theorem advance_cases (coherent : h.Coherent) (tie : Tie) (k : RequestId) (r : Request ι ρ) :
    Advance h tie k r (h.advanceRequest tie k r).1 (h.advanceRequest tie k r).2 := by
  unfold advanceRequest
  split
  · rename_i stage
    exact .asked false stage (attempt_cases coherent k r false)
  · rename_i stage
    exact .received stage
  · rename_i stage
    exact .discarded stage
  · rename_i ticket stage
    split
    · rename_i gone
      exact .withdrawn stage gone
    · rename_i patient
      exact .waiting (.inr ⟨ticket, stage⟩) (by simpa using patient)
  · rename_i notified stage
    split
    · rename_i gone
      simp only [Bool.and_eq_true] at gone
      exact .unparked stage gone.1
    · rename_i patient
      cases notified with
      | true => exact .asked true stage (attempt_cases coherent k r true)
      | false => exact .waiting (.inl stage) (by simpa using patient)

/-- What a request takes along that has just been run. -/
def outcomeTaken (target : ι) : Option (Outcome ι ρ) → Option ι
  | some (.ok _) => some target
  | some (.error _) => none
  | none => none

/-- A request that was run is over, or it waits. -/
theorem advance_moves (coherent : h.Coherent) {tie : Tie} {k : RequestId} {r : Request ι ρ}
    (live : h.requests.get? k = some r) {outcome? : Option (Outcome ι ρ)} {h' : Hall ι ρ}
    (advance : Advance h tie k r outcome? h') :
    match outcome? with
    | some outcome =>
      Moves (some k) h ((outcomeTaken r.target (some outcome)).toList.map .taken) (h'.remove k)
    | none => Moves (some k) h [] h' ∧ ∃ stage, stage.IsWaiting ∧
        h'.requests.get? k = some { r with stage := stage } ∧ h'.isCancelled r = false := by
  cases advance with
  | @asked outcome? h' wasParked stage attempt =>
    have hsent : r.isSent = false := by cases wasParked <;> simp [Request.isSent, stage]
    have hgone : ∀ ticket mail, r.stage ≠ .queued ticket mail := by
      cases wasParked <;> simp [stage]
    have finish : ∀ {h' : Hall ι ρ}, h'.requests.get? k = some r →
        Moves (some k) h' [] (h'.remove k) := by
      intro h' live'
      have move := (Move.finish live' fun ticket => hgone ticket .awaited).moves
      rwa [Request.takings_of_not_sent hsent] at move
    cases attempt with
    | unknown => exact finish live
    | granted free known ticket change =>
      refine .next (.incident (.take free ticket change))
        (.next (.incident (.report ?_)) (finish live))
      simp [Event.isQueued]
    | cancelled => exact finish live
    | full held patient length =>
      refine ⟨(Move.park live hgone patient held length).moves, .parked false, .inl rfl, ?_,
        patient⟩
      simp
    | queued held patient room ticket change =>
      refine ⟨(Move.join live hgone patient held room ticket change).moves,
        .queued h.broker.nextTicket .awaited, .inr ⟨_, rfl⟩, ?_, patient⟩
      simp [report]
  | @received ticket resource stage =>
    have finish := Move.finish (h := h.report [.woken r.target ticket]) live (by simp [stage])
    rw [Request.takings, if_pos (by simp [Request.isSent, stage])] at finish
    exact .next (.incident (.report (by simp [Event.isQueued]))) finish.moves
  | discarded stage =>
    have move := (Move.finish live (by simp [stage])).moves
    rwa [Request.takings_of_not_sent (by simp [Request.isSent, stage])] at move
  | withdrawn stage gone => exact awaited_moves coherent live stage
  | unparked stage gone =>
    have move := (Move.finish live (by simp [stage])).moves
    rwa [Request.takings_of_not_sent (by simp [Request.isSent, stage])] at move
  | waiting stage patient => exact ⟨.done h, r.stage, stage, live, patient⟩

/-- A polled request takes along the resource it has got. If it has no outcome, it
waits, and was not told anything since. -/
theorem poll_moves (coherent : h.Coherent) (tie : Tie) {k : RequestId} {r : Request ι ρ}
    (live : h.requests.get? k = some r) :
    Moves (some k) h ((outcomeTaken r.target (h.poll tie k).1).toList.map .taken)
      (h.poll tie k).2 ∧
    match (h.poll tie k).1 with
    | some _ => (h.poll tie k).2.requests.get? k = none
    | none => ∃ stage, stage.IsWaiting ∧
        (h.poll tie k).2.requests.get? k = some { r.polledAt h.now with stage := stage } ∧
        (h.poll tie k).2.isCancelled r = false := by
  let looked := h.setRequest k (r.polledAt h.now)
  have look : Moves (some k) h [] looked := (Move.look live).moves
  have coherent' : looked.Coherent := look.coherent coherent
  have live' : looked.requests.get? k = some (r.polledAt h.now) := by simp [looked]
  have advance := advance_cases coherent' tie k (r.polledAt h.now)
  rcases hadvance : looked.advanceRequest tie k (r.polledAt h.now) with ⟨_ | outcome, h'⟩
  · have hpoll : h.poll tie k = if (r.polledAt h.now).isOverdue h'.now then
          (some (.error .timedOut), h'.drop k) else (none, h') := by
      simp only [poll, live]
      rw [hadvance]
    rw [hadvance] at advance
    obtain ⟨moved, stage, waiting, live'', patient⟩ := advance_moves coherent' live' advance
    split at hpoll
    · rw [hpoll]
      have notSent : ({ r.polledAt h.now with stage := stage } : Request ι ρ).isSent = false :=
        Request.isSent_of_isWaiting waiting
      obtain ⟨transfers, dropped, ⟨hsent, _⟩ | ⟨rfl, _⟩⟩ :=
        drop_moves (moved.coherent coherent') live''
      · exact absurd (notSent.symm.trans hsent) Bool.false_ne_true
      · rw [Request.takings_of_not_sent notSent] at dropped
        exact ⟨look.trans (moved.trans dropped), requests_drop h' k⟩
    · rw [hpoll]
      exact ⟨look.trans moved, stage, waiting, live'', patient⟩
  · have hpoll : h.poll tie k = (some outcome, h'.remove k) := by
      simp only [poll, live]
      rw [hadvance]
    rw [hadvance] at advance
    rw [hpoll]
    exact ⟨look.trans (advance_moves coherent' live' advance), by simp⟩

/-- A request that was sent the resource gets it at its next poll. -/
theorem poll_sent {k : RequestId} {r : Request ι ρ} {ticket : UInt64} {resource : ρ}
    (live : h.requests.get? k = some r) (stage : r.stage = .queued ticket (.sent resource))
    (tie : Tie) : (h.poll tie k).1 = some (.ok resource) := by
  simp [poll, live, advanceRequest, stage]

/-- A poll ends a request by what came of running it, or because its time is over. -/
theorem poll_ended (coherent : h.Coherent) {tie : Tie} {k : RequestId} {r : Request ι ρ}
    (live : h.requests.get? k = some r) {outcome : Outcome ι ρ}
    (ended : (h.poll tie k).1 = some outcome) :
    outcome = .error .timedOut ∨ ∃ h', Advance (h.setRequest k (r.polledAt h.now)) tie k
      (r.polledAt h.now) (some outcome) h' := by
  have coherent' := (Move.look live).coherent coherent
  have advance := advance_cases coherent' tie k (r.polledAt h.now)
  simp only [poll, live] at ended
  rcases hadvance : (h.setRequest k (r.polledAt h.now)).advanceRequest tie k (r.polledAt h.now) with
    ⟨_ | outcome', h'⟩
  · simp only [hadvance] at ended
    split at ended
    · exact .inl (Option.some.inj ended).symm
    · cases ended
  · simp only [hadvance] at ended advance
    exact .inr ⟨h', ended ▸ advance⟩

/-- A poll that brings the resource finds it free, or it was sent. -/
theorem poll_ok (coherent : h.Coherent) {tie : Tie} {k : RequestId} {r : Request ι ρ}
    (live : h.requests.get? k = some r) {resource : ρ}
    (ok : (h.poll tie k).1 = some (.ok resource)) :
    h.broker.isBusy? r.target = some false ∨ r.isSent = true := by
  rcases poll_ended coherent live ok with late | ⟨h', advance⟩
  · cases late
  · cases advance with
    | asked wasParked stage attempt =>
      cases attempt with
      | granted free => exact .inl free
    | received stage =>
      rw [Request.stage_polledAt] at stage
      exact .inr (by simp [Request.isSent, stage])

/-! ### All operations -/

theorem takeAny_moves (coherent : h.Coherent) (actor : Option RequestId) :
    Moves actor h ((h.takeAny.1.map Prod.fst).toList.map .taken) h.takeAny.2 := by
  rcases Broker.takeAny?_cases coherent.broker with
    ⟨_, heq⟩ | ⟨id, rest, record, _, _, free, resource, ticket, change⟩
  · simp only [takeAny, heq]
    exact .done h
  · rcases heq : h.broker.takeAny? with ⟨found, b⟩
    rw [heq] at resource ticket change
    cases resource
    simp only [takeAny, heq]
    exact .next (.incident (.take free ticket change))
      (Incident.report (by simp [Event.isQueued])).moves

theorem register_cases (coherent : h.Coherent) (id : ι) (resource : ρ)
    (priority? : Option Priority) :
    (∃ refusal, h.register id resource priority? = (.error refusal, h)) ∨
    ∃ b events, h.register id resource priority? = (.ok (), { h with broker := b }.report events) ∧
      (∀ event ∈ events, event.isQueued = false) ∧ h.broker.isBusy? id = none ∧
      id ∉ h.broker.retired ∧ b.nextTicket = h.broker.nextTicket ∧
      h.broker.Change b id (some false) [] False := by
  simp only [register]
  split
  · exact .inl ⟨_, rfl⟩
  · rename_i b hok
    obtain ⟨unknown, fresh, ticket, change⟩ := Broker.register_change coherent.broker hok
    exact .inr ⟨b, _, rfl, by simp [Event.isQueued], unknown, fresh, ticket, change⟩

theorem register_moves (coherent : h.Coherent) (id : ι) (resource : ρ)
    (priority? : Option Priority) : Moves none h [] (h.register id resource priority?).2 := by
  rcases register_cases coherent id resource priority? with
    ⟨_, heq⟩ | ⟨b, events, heq, quiet, unknown, fresh, ticket, change⟩
  · rw [heq]
    exact .done h
  · rw [heq]
    exact .next (.incident (.register unknown fresh ticket change)) (Incident.report quiet).moves

theorem unregister_cases (coherent : h.Coherent) (id : ι) :
    (∃ b, h.unregister id = (.error (.notRegistered id), { h with broker := b }) ∧
      b.nextTicket = h.broker.nextTicket ∧
      h.broker.Change b id (h.broker.isBusy? id) (h.broker.line id) (id ∈ h.broker.retired)) ∨
    ∃ b busy resource events, h.unregister id = (.ok resource,
        (({ h with broker := b }.discard (h.broker.line id)).notifyParked).report events) ∧
      (∀ event ∈ events, event.isQueued = false) ∧ h.broker.isBusy? id = some busy ∧
      b.nextTicket = h.broker.nextTicket ∧ h.broker.Change b id none [] (busy = true) := by
  rcases hbusy : h.broker.isBusy? id with _ | busy
  · left
    obtain ⟨verdict, ticket, records, retired, settings, valid⟩ :=
      Broker.unregister_unknown coherent.broker hbusy
    rcases heq : h.broker.unregister id with ⟨result, b⟩
    rw [heq] at verdict ticket records retired settings valid
    cases verdict
    refine ⟨b, by simp only [unregister, heq], ticket, ?_⟩
    rw [← hbusy]
    exact Broker.Change.of_same valid settings records retired id
  · right
    obtain ⟨record, known, verdict, ticket, change⟩ :=
      Broker.unregister_known coherent.broker hbusy
    rcases heq : h.broker.unregister id with ⟨result, b⟩
    rw [heq] at verdict ticket change
    cases verdict
    let waiting := record.waiters.toList
    refine ⟨b, busy, record.resource, (if waiting.isEmpty then [] else
      [.abandonedWaiters id waiting.length]) ++ [.unregistered id], ?_, ?_, rfl, ticket, change⟩
    · simp only [unregister, heq, Broker.line_of_get? known, waiting]
    · exact quiet_append (quiet_abandoned id waiting) rfl

theorem unregister_moves (coherent : h.Coherent) (id : ι) :
    Moves none h [] (h.unregister id).2 := by
  rcases unregister_cases coherent id with
    ⟨b, heq, ticket, change⟩ | ⟨b, busy, resource, events, heq, quiet, known, ticket, change⟩
  · rw [heq]
    exact (Incident.unrank ticket change).moves
  · rw [heq]
    exact .next (.incident (.unregister known ticket change)) (Incident.report quiet).moves

theorem withdraw_moves (coherent : h.Coherent) (actor : Option RequestId) (id : ι) :
    Moves actor h [] (h.withdraw id).2 := by
  obtain ⟨valid, records, retired, settings, ticket⟩ := Broker.withdraw_eq coherent.broker id
  exact (Incident.unrank ticket (Broker.Change.of_same valid settings records retired id)).moves

theorem start_moves (actor : Option RequestId) (k : RequestId) (target : ι) (patience : Patience) :
    Moves actor h [] (h.start k target patience).2 := by
  unfold start
  split
  · exact .done h
  · rename_i new
    exact (Incident.start target patience (Nat.le_of_not_lt new)).moves

/-- The request that an operation is about. -/
def Operation.actor : Operation ι ρ → Option RequestId
  | .poll request _ => some request
  | .drop request => some request
  | .register _ _ _ => none
  | .unregister _ => none
  | .start _ _ _ => none
  | .cancel _ => none
  | .elapse _ => none
  | .takeAny => none
  | .release _ _ => none
  | .withdraw _ => none

/-- Whose moves an operation may be made of. Registering and unregistering is no request's
doing, and what is not about a request may be the doing of any. -/
def Operation.IsBy (op : Operation ι ρ) (actor : Option RequestId) : Prop :=
  match op with
  | .poll request _ => actor = some request
  | .drop request => actor = some request
  | .register _ _ _ => actor = none
  | .unregister _ => actor = none
  | .start _ _ _ | .cancel _ | .elapse _ | .takeAny | .release _ _ | .withdraw _ => True

omit [DecidableEq ι] in
theorem Operation.isBy_actor (op : Operation ι ρ) : op.IsBy op.actor := by
  cases op <;> simp [IsBy, actor]

theorem step_poll (h : Hall ι ρ) (tie : Tie) (k : RequestId) :
    (h.step (.poll k tie)).2 = (h.poll tie k).2 := by
  rcases polled : h.poll tie k with ⟨_ | _, _⟩ <;> simp [step, polled]

/-- Every operation is made of moves. -/
theorem step_moves (coherent : h.Coherent) {op : Operation ι ρ} {actor : Option RequestId}
    (doer : op.IsBy actor) : ∃ transfers, Moves actor h transfers (h.step op).2 := by
  cases op with
  | register id resource priority? =>
    subst doer
    exact ⟨_, register_moves coherent id resource priority?⟩
  | unregister id =>
    subst doer
    exact ⟨_, unregister_moves coherent id⟩
  | start request id patience => exact ⟨_, start_moves actor request id patience⟩
  | poll request tie =>
    subst doer
    rw [step_poll]
    cases live : h.requests.get? request with
    | none =>
      simp only [poll, live]
      exact ⟨_, .done h⟩
    | some r => exact ⟨_, (poll_moves coherent tie live).1⟩
  | drop request =>
    subst doer
    cases live : h.requests.get? request with
    | none =>
      simp only [step, drop, live]
      exact ⟨_, .done h⟩
    | some r =>
      obtain ⟨transfers, moves, _⟩ := drop_moves coherent live
      exact ⟨_, moves⟩
  | cancel token => exact ⟨_, (Incident.cancel token).moves⟩
  | elapse milliseconds => exact ⟨_, (Incident.elapse milliseconds).moves⟩
  | takeAny => exact ⟨_, takeAny_moves coherent actor⟩
  | release priority id => exact ⟨_, release_moves coherent actor priority id⟩
  | withdraw id => exact ⟨_, withdraw_moves coherent actor id⟩

theorem Reachable.coherent {settings : Settings} (reachable : Reachable settings h) :
    h.Coherent := by
  induction reachable with
  | start => exact coherent_opening settings
  | next op _ ih =>
    obtain ⟨_, moves⟩ := step_moves ih op.isBy_actor
    exact moves.coherent ih

end Hall

end Custody
