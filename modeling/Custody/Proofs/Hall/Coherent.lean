import Custody.Proofs.Hall.Move

/-!
# The state of a hall

The signals in line and the requests that wait for them belong together, whoever calls
the broker and however often.

* `Hall.Coherent`: the state invariant of a hall;
* `Hall.Move.coherent`: every move keeps it.

A signal may outlive its request here: tickets are machine words, and once they have come
round, a request may withdraw the signal of another.
-/

namespace Custody

namespace Hall

variable {ι ρ : Type} [DecidableEq ι]

/-- A hall whose requests and lines agree. A request awaits exactly the signal that it has
in line, and one is parked only while the line is full. -/
structure Coherent (h : Hall ι ρ) : Prop where
  broker : h.broker.Valid
  numbered : ∀ k r, h.requests.get? k = some r → k < h.nextRequest
  known : ∀ x, ∀ signal ∈ h.broker.line x, signal.request < h.nextRequest
  distinct : ∀ x, ((h.broker.line x).map Signal.request).Nodup
  listening : ∀ x, ∀ signal ∈ h.broker.line x, ∀ r, h.requests.get? signal.request = some r →
    r.target = x ∧ r.stage = .queued signal.ticket .awaited
  awaited : ∀ k r ticket, h.requests.get? k = some r → r.stage = .queued ticket .awaited →
    ⟨ticket, k⟩ ∈ h.broker.line r.target
  parked : ∀ k r, h.requests.get? k = some r → r.stage = .parked false →
    h.broker.isBusy? r.target = some true ∧
    (h.broker.line r.target).length = h.broker.settings.waiterCapacity.toNat

theorem coherent_opening (settings : Settings) :
    (opening (.empty settings) : Hall ι ρ).Coherent where
  broker := Broker.valid_empty settings
  numbered k r live := by simp [opening] at live
  known x signal mem := by simp [opening, Broker.line, Broker.empty] at mem
  distinct x := by simp [opening, Broker.line, Broker.empty]
  listening x signal mem := by simp [opening, Broker.line, Broker.empty] at mem
  awaited k r ticket live := by simp [opening] at live
  parked k r live := by simp [opening] at live

/-! ### Requests that keep their place -/

/-- How a request may come out of a change: it awaits its signal as long as that is in
line, and if it is still parked, the line is still full. -/
structure Follows (b : Broker ι ρ) (capacity : Nat) (k : RequestId) (r r' : Request ι ρ) :
    Prop where
  target : r'.target = r.target
  queued : ∀ ticket, r'.stage = .queued ticket .awaited ↔
    r.stage = .queued ticket .awaited ∧ ⟨ticket, k⟩ ∈ b.line r.target
  parked : r'.stage = .parked false →
    b.isBusy? r.target = some true ∧ (b.line r.target).length = capacity

/-- No one joins a line. -/
theorem Coherent.follow {h : Hall ι ρ} (coherent : h.Coherent) (h' : Hall ι ρ)
    (valid : h'.broker.Valid)
    (settings : h'.broker.settings = h.broker.settings) (next : h'.nextRequest = h.nextRequest)
    (shorter : ∀ x, (h'.broker.line x).Sublist (h.broker.line x))
    (requests : ∀ k r', h'.requests.get? k = some r' → ∃ r, h.requests.get? k = some r ∧
      Follows h'.broker h.broker.settings.waiterCapacity.toNat k r r') : h'.Coherent where
  broker := valid
  numbered k r' live := by
    obtain ⟨r, hr, _⟩ := requests k r' live
    exact next ▸ coherent.numbered k r hr
  known x signal mem := next ▸ coherent.known x signal ((shorter x).mem mem)
  distinct x := ((shorter x).map Signal.request).nodup (coherent.distinct x)
  listening x signal mem r' live := by
    obtain ⟨r, hr, follows⟩ := requests _ r' live
    obtain ⟨rfl, stage⟩ := coherent.listening x signal ((shorter x).mem mem) r hr
    exact ⟨follows.target, (follows.queued _).2 ⟨stage, mem⟩⟩
  awaited k r' ticket live stage := by
    obtain ⟨r, _, follows⟩ := requests k r' live
    rw [follows.target]
    exact ((follows.queued ticket).1 stage).2
  parked k r' live stage := by
    obtain ⟨r, _, follows⟩ := requests k r' live
    rw [follows.target, settings]
    exact follows.parked stage

/-- A request that is left alone follows a change that leaves its line alone. -/
theorem Coherent.follows_same {h : Hall ι ρ} (coherent : h.Coherent) {b : Broker ι ρ}
    {k : RequestId} {r r' : Request ι ρ} (live : h.requests.get? k = some r)
    (target : r'.target = r.target) (stage : r'.stage = r.stage)
    (line : b.line r.target = h.broker.line r.target)
    (busy : h.broker.isBusy? r.target = some true → b.isBusy? r.target = some true) :
    Follows b h.broker.settings.waiterCapacity.toNat k r r' where
  target := target
  queued ticket := by
    rw [stage, line]
    exact ⟨fun hstage => ⟨hstage, coherent.awaited k r ticket live hstage⟩, And.left⟩
  parked hstage := by
    obtain ⟨held, full⟩ := coherent.parked k r live (stage ▸ hstage)
    rw [line]
    exact ⟨busy held, full⟩

/-- Nothing happens at the broker, and no request changes its stage. -/
theorem Coherent.of_stages {h : Hall ι ρ} (coherent : h.Coherent) (h' : Hall ι ρ)
    (broker : h'.broker = h.broker) (next : h'.nextRequest = h.nextRequest)
    (requests : ∀ k r', h'.requests.get? k = some r' → ∃ r, h.requests.get? k = some r ∧
      r'.target = r.target ∧ r'.stage = r.stage) : h'.Coherent := by
  refine coherent.follow h' (by rw [broker]; exact coherent.broker) (by rw [broker]) next
    (fun x => by rw [broker]) ?_
  intro k r' live
  obtain ⟨r, hr, target, stage⟩ := requests k r' live
  rw [broker]
  exact ⟨r, hr, coherent.follows_same hr target stage rfl id⟩

/-- An id comes to stand in another way, but for its line, and is not made free. -/
theorem Coherent.stand {h : Hall ι ρ} (coherent : h.Coherent) {b : Broker ι ρ} {id : ι}
    {busy? : Option Bool} {line : List Signal} {retired : Prop}
    (change : h.broker.Change b id busy? line retired) (same : line = h.broker.line id)
    (held : h.broker.isBusy? id = some true → busy? = some true) :
    ({ h with broker := b } : Hall ι ρ).Coherent := by
  have lines : ∀ x, b.line x = h.broker.line x := by
    intro x
    rw [change.line]
    split
    · rename_i heq
      rw [same, heq]
    · rfl
  refine coherent.follow { h with broker := b } change.valid change.settings rfl
    (fun x => (lines x) ▸ .refl _) ?_
  intro k r live
  refine ⟨r, live, coherent.follows_same live rfl rfl (lines _) ?_⟩
  intro hbusy
  rw [change.busy]
  split
  · rename_i heq
    exact held (heq ▸ hbusy)
  · exact hbusy

/-! ### Requests that are told -/

/-- The line of an id gets shorter, and of those who stood there and are gone, all who
are still waiting are told. -/
theorem Coherent.follows_told {h : Hall ι ρ} (coherent : h.Coherent) {b : Broker ι ρ} {id : ι}
    {busy? : Option Bool} {rest : List Signal} {retired : Prop}
    (change : h.broker.Change b id busy? rest retired) {k : RequestId} {r : Request ι ρ}
    (live : h.requests.get? k = some r) {mail : Mail ρ} (opened : mail ≠ .awaited) (c : Prop)
    [Decidable c] (told : ∀ ticket, ⟨ticket, k⟩ ∈ h.broker.line id → (c ↔ ⟨ticket, k⟩ ∉ rest))
    (inLine : c → ∃ ticket, ⟨ticket, k⟩ ∈ h.broker.line id) :
    Follows b h.broker.settings.waiterCapacity.toNat k r
      ((if c then r.receive mail else r).notify) where
  target := Request.target_told r mail c
  queued ticket := by
    rw [Request.stage_told_iff r opened, and_congr_right_iff]
    intro stage
    have mem := coherent.awaited k r ticket live stage
    rw [change.line]
    split
    · rename_i heq
      rw [told ticket (heq ▸ mem), not_not]
    · rename_i hne
      simp only [mem, iff_true]
      intro hc
      obtain ⟨ticket', hmem⟩ := inLine hc
      exact hne (coherent.listening id _ hmem r live).1
  parked stage := absurd stage (Request.stage_notify_ne _)

/-- In a line, a request has no signal but one. -/
theorem mem_split_iff {line front back : List Signal} {signal other : Signal}
    (nodup : (line.map Signal.request).Nodup) (split : line = front ++ signal :: back)
    (mem : other ∈ line) : signal.request = other.request ↔ other ∉ front ++ back := by
  subst split
  simp only [List.map_append, List.map_cons, List.nodup_append, List.nodup_cons,
    List.mem_map, List.mem_cons] at nodup
  obtain ⟨_, ⟨hback, _⟩, hfront⟩ := nodup
  constructor
  · intro heq hmem
    rcases List.mem_append.1 hmem with hmem | hmem
    · exact hfront _ ⟨other, hmem, rfl⟩ _ (.inl rfl) heq.symm
    · exact hback ⟨other, hmem, heq.symm⟩
  · intro hmem
    rcases List.mem_append.1 mem with hmem' | hmem'
    · exact absurd (List.mem_append_left _ hmem') hmem
    · rcases List.mem_cons.1 hmem' with rfl | hmem'
      · rfl
      · exact absurd (List.mem_append_right _ hmem') hmem

theorem find?_split {α : Type} {l : List α} {p : α → Bool} {a : α} (h : l.find? p = some a) :
    ∃ front back, l = front ++ a :: back ∧ l.eraseP p = front ++ back := by
  obtain ⟨hp, front, back, rfl, hfront⟩ := List.find?_eq_some_iff_append.1 h
  refine ⟨front, back, rfl, ?_⟩
  rw [List.eraseP_append_right _ (by simpa using hfront), List.eraseP_cons_of_pos hp]

/-! ### Moves -/

namespace Coherent

variable {h : Hall ι ρ} {b : Broker ι ρ} {id : ι} {k : RequestId} {r : Request ι ρ}

theorem unregister (coherent : h.Coherent) {retired : Prop}
    (change : h.broker.Change b id none [] retired) :
    (({ h with broker := b }.discard (h.broker.line id)).notifyParked).Coherent := by
  refine coherent.follow (({ h with broker := b }.discard (h.broker.line id)).notifyParked)
    change.valid change.settings rfl (fun x => ?_) ?_
  · exact change.line_sublist (List.nil_sublist _) x
  · intro k r' live'
    simp only [requests_notifyParked, requests_discard, Option.map_map,
      Option.map_eq_some_iff] at live'
    obtain ⟨r, live, rfl⟩ := live'
    refine ⟨r, live, coherent.follows_told change live (by simp) _ ?_ ?_⟩
    · intro ticket mem
      simp only [List.any_eq_true, decide_eq_true_eq, List.not_mem_nil, not_false_eq_true, iff_true]
      exact ⟨_, mem, rfl⟩
    · intro told
      simp only [List.any_eq_true, decide_eq_true_eq] at told
      obtain ⟨signal, mem, rfl⟩ := told
      exact ⟨_, mem⟩

theorem send (coherent : h.Coherent) {signal : Signal} {rest : List Signal}
    (first : (h.broker.line id).dropWhile (fun signal => !h.listens signal.request) =
      signal :: rest)
    (change : h.broker.Change b id (some true) rest False) (resource : ρ) :
    (({ h with broker := b }.deliver (some (signal.request, resource))).notifyParked).Coherent := by
  obtain ⟨gone, split, _, silent⟩ := dropWhile_split first
  refine coherent.follow
    (({ h with broker := b }.deliver (some (signal.request, resource))).notifyParked)
    change.valid change.settings rfl (fun x => ?_) ?_
  · refine change.line_sublist ?_ x
    rw [split]
    exact (List.sublist_cons_self _ _).trans (List.sublist_append_right _ _)
  · intro k r' live'
    simp only [requests_notifyParked, requests_deliver, Option.map_map,
      Option.map_eq_some_iff] at live'
    obtain ⟨r, live, rfl⟩ := live'
    refine ⟨r, live, coherent.follows_told change live (by simp) _ ?_ ?_⟩
    · intro ticket mem
      have hgone : (⟨ticket, k⟩ : Signal) ∉ gone := fun hmem => by
        have := silent _ hmem
        simp [live] at this
      have here := mem_split_iff (coherent.distinct id) split mem
      simpa [hgone, eq_comm] using here
    · rintro rfl
      exact ⟨signal.ticket, by simp [split]⟩

theorem idle (coherent : h.Coherent)
    (nobody : (h.broker.line id).dropWhile (fun signal => !h.listens signal.request) = [])
    (change : h.broker.Change b id (some false) [] False) :
    ({ h with broker := b }.notifyParked).Coherent := by
  refine coherent.follow ({ h with broker := b }.notifyParked) change.valid change.settings rfl
    (fun x => ?_) ?_
  · exact change.line_sublist (List.nil_sublist _) x
  · intro k r' live'
    simp only [requests_notifyParked, Option.map_eq_some_iff] at live'
    obtain ⟨r, live, rfl⟩ := live'
    have opened : (.discarded : Mail ρ) ≠ .awaited := by simp
    have follows := coherent.follows_told change live opened False
      (fun ticket mem => by simp [dropWhile_nil nobody _ mem] at live) False.elim
    simp only [if_false] at follows
    exact ⟨r, live, follows⟩

theorem notify (coherent : h.Coherent) : h.notifyParked.Coherent := by
  apply coherent.follow h.notifyParked coherent.broker rfl rfl (fun x => .refl _)
  intro k r' live'
  rw [requests_notifyParked] at live'
  obtain ⟨r, live, rfl⟩ := Option.map_eq_some_iff.1 live'
  refine ⟨r, live, (Request.told_notify r).target, fun ticket => ?_,
    fun stage => absurd stage (Request.stage_notify_ne r)⟩
  rw [Request.stage_notify]
  constructor
  · intro stage
    have same : r.stage = .queued ticket .awaited := by
      split at stage <;> simp_all
    exact ⟨same, coherent.awaited k r ticket live same⟩
  · rintro ⟨stage, _⟩
    rw [stage]

theorem quit (coherent : h.Coherent) {ticket : UInt64} {signal : Signal}
    (found : (h.broker.line id).find? (fun signal => signal.ticket == ticket) = some signal)
    (change : h.broker.Change b id (some true)
      ((h.broker.line id).eraseP fun signal => signal.ticket == ticket) False) (k : RequestId) :
    ((({ h with broker := b }.discard [signal]).notifyParked).remove k).Coherent := by
  obtain ⟨front, back, split, erased⟩ := find?_split found
  refine coherent.follow
    ((({ h with broker := b }.discard [signal]).notifyParked).remove k)
    change.valid change.settings rfl (fun x => ?_) ?_
  · exact change.line_sublist (List.eraseP_sublist ..) x
  · intro j r' live'
    simp only [requests_remove, requests_notifyParked, requests_discard, Option.map_map] at live'
    split at live'
    · cases live'
    obtain ⟨r, live, rfl⟩ := Option.map_eq_some_iff.1 live'
    refine ⟨r, live, coherent.follows_told change live (by simp) _ ?_ ?_⟩
    · intro other mem
      have here := mem_split_iff (coherent.distinct id) split mem
      rw [erased]
      simpa using here
    · intro told
      simp only [List.any_cons, List.any_nil, Bool.or_false, decide_eq_true_eq] at told
      exact ⟨signal.ticket, by simp [split, ← told]⟩

/-- A request that is not in line has no signal in any. -/
theorem not_inLine (coherent : h.Coherent) (live : h.requests.get? k = some r)
    (gone : ∀ ticket, r.stage ≠ .queued ticket .awaited) {x : ι} {signal : Signal}
    (mem : signal ∈ h.broker.line x) : signal.request ≠ k := by
  rintro rfl
  exact gone _ (coherent.listening x signal mem r live).2

theorem setRequest (coherent : h.Coherent) (live : h.requests.get? k = some r) {r' : Request ι ρ}
    (target : r'.target = r.target) (stage : r'.stage = r.stage) :
    (h.setRequest k r').Coherent := by
  apply coherent.of_stages (h.setRequest k r') rfl rfl
  intro j other live'
  rw [requests_setRequest] at live'
  split at live'
  · rename_i heq
    rw [Option.some.injEq] at live'
    exact ⟨r, heq ▸ live, live' ▸ target, live' ▸ stage⟩
  · exact ⟨other, live', rfl, rfl⟩

theorem remove (coherent : h.Coherent) (k : RequestId) : (h.remove k).Coherent := by
  apply coherent.of_stages (h.remove k) rfl rfl
  intro j r live
  rw [requests_remove] at live
  split at live
  · cases live
  · exact ⟨r, live, rfl, rfl⟩

theorem report (coherent : h.Coherent) (events : List (Event ι)) : (h.report events).Coherent :=
  coherent.of_stages _ rfl rfl fun _ r live => ⟨r, live, rfl, rfl⟩

theorem changeRequests (coherent : h.Coherent) {f : RequestId → Request ι ρ → Request ι ρ}
    (target : ∀ k r, (f k r).target = r.target) (stage : ∀ k r, (f k r).stage = r.stage) :
    (h.changeRequests f).Coherent := by
  apply coherent.of_stages (h.changeRequests f) rfl rfl
  intro k r' live'
  rw [requests_changeRequests] at live'
  obtain ⟨r, live, rfl⟩ := Option.map_eq_some_iff.1 live'
  exact ⟨r, live, target k r, stage k r⟩

theorem join (coherent : h.Coherent) (live : h.requests.get? k = some r)
    (stage : ∀ ticket mail, r.stage ≠ .queued ticket mail)
    (room : (h.broker.line r.target).length < h.broker.settings.waiterCapacity.toNat)
    {ticket : UInt64}
    (change : h.broker.Change b r.target (some true)
      (h.broker.line r.target ++ [⟨ticket, k⟩]) False) :
    ({ h with broker := b }.setRequest k { r with stage := .queued ticket .awaited }).Coherent := by
  have absent : ∀ {x signal}, signal ∈ h.broker.line x → signal.request ≠ k :=
    coherent.not_inLine live fun ticket => stage ticket .awaited
  constructor
  · exact change.valid
  · intro j other live'
    rw [requests_setRequest] at live'
    split at live'
    · rename_i heq
      exact heq ▸ coherent.numbered k r live
    · exact coherent.numbered j other live'
  · intro x signal mem
    rcases change.mem_line_append.1 mem with hmem | ⟨_, rfl⟩
    · exact coherent.known x signal hmem
    · exact coherent.numbered k r live
  · intro x
    show ((b.line x).map Signal.request).Nodup
    rw [change.line]
    split
    · rw [List.map_append, List.nodup_append]
      refine ⟨coherent.distinct _, by simp, ?_⟩
      intro a ha c hc
      obtain ⟨signal, hmem, rfl⟩ := List.mem_map.1 ha
      simp only [List.map_cons, List.map_nil, List.mem_singleton] at hc
      exact hc ▸ absent hmem
    · exact coherent.distinct x
  · intro x signal mem other live'
    rw [requests_setRequest] at live'
    rcases change.mem_line_append.1 mem with hmem | ⟨rfl, rfl⟩
    · rw [if_neg (absent hmem)] at live'
      exact coherent.listening x signal hmem other live'
    · rw [if_pos rfl, Option.some.injEq] at live'
      exact ⟨by rw [← live'], by rw [← live']⟩
  · intro j other ticket' live' awaited
    rw [requests_setRequest] at live'
    split at live'
    · rename_i heq
      rw [Option.some.injEq] at live'
      subst live'
      simp only [Stage.queued.injEq] at awaited
      exact change.mem_line_append.2 (.inr ⟨rfl, by rw [heq, awaited.1]⟩)
    · exact change.mem_line_append.2 (.inl (coherent.awaited j other ticket' live' awaited))
  · intro j other live' parked
    rw [requests_setRequest] at live'
    split at live'
    · rw [Option.some.injEq] at live'
      simp [← live'] at parked
    · obtain ⟨held, full⟩ := coherent.parked j other live' parked
      have elsewhere : other.target ≠ r.target := by
        intro heq
        rw [heq] at full
        omega
      show b.isBusy? other.target = some true ∧
        (b.line other.target).length = b.settings.waiterCapacity.toNat
      rw [change.busy, change.line, if_neg elsewhere, if_neg elsewhere, change.settings]
      exact ⟨held, full⟩

theorem park (coherent : h.Coherent) (live : h.requests.get? k = some r)
    (stage : ∀ ticket mail, r.stage ≠ .queued ticket mail)
    (held : h.broker.isBusy? r.target = some true)
    (full : (h.broker.line r.target).length = h.broker.settings.waiterCapacity.toNat) :
    (h.setRequest k { r with stage := .parked false }).Coherent := by
  refine coherent.follow (h.setRequest k { r with stage := .parked false })
    coherent.broker rfl rfl (fun x => .refl _) ?_
  intro j other live'
  rw [requests_setRequest] at live'
  split at live'
  · rename_i heq
    rw [Option.some.injEq] at live'
    subst live'
    exact ⟨r, heq ▸ live, rfl, fun ticket => by simp [stage], fun _ => ⟨held, full⟩⟩
  · exact ⟨other, live', coherent.follows_same live' rfl rfl rfl id⟩

theorem start (coherent : h.Coherent) {k : RequestId} (new : h.nextRequest ≤ k) (target : ι)
    (patience : Patience) :
    ({ h with nextRequest := k + 1 }.setRequest k (.start target patience)).Coherent := by
  have fresh : (Request.start target patience : Request ι ρ).stage = .fresh := rfl
  constructor
  · exact coherent.broker
  · intro j r live
    rw [requests_setRequest] at live
    split at live
    · rename_i heq
      exact heq ▸ Nat.lt_succ_self j
    · exact Nat.lt_succ_of_lt (Nat.lt_of_lt_of_le (coherent.numbered j r live) new)
  · intro x signal mem
    exact Nat.lt_succ_of_lt (Nat.lt_of_lt_of_le (coherent.known x signal mem) new)
  · exact coherent.distinct
  · intro x signal mem r live
    have hne := Nat.ne_of_lt (Nat.lt_of_lt_of_le (coherent.known x signal mem) new)
    rw [requests_setRequest, if_neg hne] at live
    exact coherent.listening x signal mem r live
  · intro j r ticket live stage
    rw [requests_setRequest] at live
    split at live
    · rw [Option.some.injEq] at live
      simp [← live, fresh] at stage
    · exact coherent.awaited j r ticket live stage
  · intro j r live stage
    rw [requests_setRequest] at live
    split at live
    · rw [Option.some.injEq] at live
      simp [← live, fresh] at stage
    · exact coherent.parked j r live stage

end Coherent

theorem Incident.coherent {h h' : Hall ι ρ} {actor : Option RequestId}
    {transfers : List (Transfer ι)}
    (incident : h.Incident actor transfers h') (coherent : h.Coherent) : h'.Coherent := by
  cases incident with
  | report quiet => exact coherent.report _
  | notify => exact coherent.notify
  | unrank ticket change => exact coherent.stand change rfl id
  | register unknown fresh ticket change =>
    refine coherent.stand change ?_ (by simp [unknown])
    exact (coherent.broker.line_eq_nil (by simp [unknown])).symm
  | take free ticket change =>
    exact coherent.stand change (coherent.broker.line_eq_nil (by simp [free])).symm fun _ => rfl
  | free retired ticket change =>
    have gone := coherent.broker.retired_gone _ retired
    refine coherent.stand change ?_ (by simp [gone])
    exact (coherent.broker.line_eq_nil (by simp [gone])).symm
  | unregister known ticket change => exact coherent.unregister change
  | send held first known ticket change => exact coherent.send first change _
  | idle held nobody ticket change => exact coherent.idle nobody change
  | start target patience new => exact coherent.start new target patience
  | cancel token =>
    refine Coherent.changeRequests (h := { h with cancelled := h.cancelled.insert token })
      (coherent.of_stages _ rfl rfl fun k r live => ⟨r, live, rfl, rfl⟩) ?_ ?_
    · exact fun _ r => (r.told_wake _).target
    · exact fun _ r => r.stage_wake _
  | elapse milliseconds =>
    refine Coherent.changeRequests (h := { h with now := h.now + milliseconds })
      (coherent.of_stages _ rfl rfl fun k r live => ⟨r, live, rfl, rfl⟩) ?_ ?_
    · exact fun _ r => (r.told_wake _).target
    · exact fun _ r => r.stage_wake _

theorem Move.coherent {h h' : Hall ι ρ} {actor : Option RequestId} {transfers : List (Transfer ι)}
    (move : h.Move actor transfers h') (coherent : h.Coherent) : h'.Coherent := by
  cases move with
  | incident incident => exact incident.coherent coherent
  | quit live stage found held ticket change => exact coherent.quit found change _
  | finish live gone => exact coherent.remove _
  | join live stage patient held room ticket change =>
    exact (coherent.join live stage room change).report _
  | park live stage patient held full => exact coherent.park live stage held full
  | look live => exact coherent.setRequest live rfl rfl

theorem Moves.coherent {h h' : Hall ι ρ} {actor : Option RequestId} {transfers : List (Transfer ι)}
    (moves : Moves actor h transfers h') (coherent : h.Coherent) : h'.Coherent :=
  moves.preserve (fun move => move.coherent) coherent

end Hall

end Custody
