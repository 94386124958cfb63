import Custody.Proofs.Hall.Tickets

/-!
# Where ownership is

A resource that is held, or was when it was unregistered, is either outside the broker or
under way to a request.

* `Hall.inFlight`: the requests that a resource was sent to and that did not take it yet;
* `Hall.outstanding`: how often a resource is outside;
* `Hall.Moves.outstanding`: it changes by what passes between the broker and those outside.
-/

namespace Custody

namespace Transfer

variable {ι : Type} [DecidableEq ι]

/-- How often a resource passes out of the broker, less how often it passes back. -/
def net (id : ι) (transfers : List (Transfer ι)) : Int :=
  transfers.count (.taken id) - transfers.count (.given id)

@[simp]
theorem net_nil (id : ι) : net id [] = 0 := rfl

@[simp]
theorem net_taken (id k : ι) : net k [.taken id] = if k = id then 1 else 0 := by
  by_cases h : k = id
  · simp [net, h]
  · simp [net, h, Ne.symm h]

@[simp]
theorem net_given (id k : ι) : net k [.given id] = if k = id then -1 else 0 := by
  by_cases h : k = id
  · simp [net, h]
  · simp [net, h, Ne.symm h]

theorem net_toList (found : Option ι) (k : ι) :
    net k (found.toList.map .taken) = if found = some k then 1 else 0 := by
  cases found with
  | none => simp
  | some id => simp [eq_comm]

theorem net_append (id : ι) (first second : List (Transfer ι)) :
    net id (first ++ second) = net id first + net id second := by
  simp only [net, List.count_append]
  omega

end Transfer

namespace Broker

variable {ι ρ : Type} [DecidableEq ι] {b b' : Broker ι ρ} {id : ι}

/-- How many hold the resource, by the account of the broker. -/
def owners (b : Broker ι ρ) (id : ι) : Int := if b.IsOwned id then 1 else 0

theorem owners_of_owned (owned : b.IsOwned id) : b.owners id = 1 := if_pos owned

theorem owners_of_not_owned (owned : ¬b.IsOwned id) : b.owners id = 0 := if_neg owned

theorem owners_of_held (held : b.isBusy? id = some true) : b.owners id = 1 :=
  owners_of_owned (.inl held)

theorem Valid.owners_free (h : b.Valid) (free : b.isBusy? id = some false) : b.owners id = 0 := by
  have fresh : id ∉ b.retired := h.not_retired (by simp [free])
  exact owners_of_not_owned (by simp [IsOwned, free, fresh])

/-- The broker accounts for the id as given, and for every other id as before. -/
theorem Change.owners {busy? : Option Bool} {line : List Signal} {retired : Prop}
    (change : Change b b' id busy? line retired) (k : ι) :
    b'.owners k = if k = id then b'.owners id else b.owners k := by
  split
  · rename_i heq
    rw [heq]
  · rename_i hne
    refine if_congr ?_ rfl rfl
    rw [IsOwned, IsOwned, change.busy, change.retired, if_neg hne, if_neg hne]

theorem Change.owned_iff {busy? : Option Bool} {line : List Signal} {retired : Prop}
    (change : Change b b' id busy? line retired) : b'.IsOwned id ↔ busy? = some true ∨ retired := by
  rw [IsOwned, change.busy, change.retired, if_pos rfl, if_pos rfl]

end Broker

namespace Hall

variable {ι ρ : Type} [DecidableEq ι] {h h' : Hall ι ρ} {actor : Option RequestId}
  {transfers : List (Transfer ι)} {x : ι}

/-- The request was sent the resource of the id and did not take it yet. -/
def isSentTo (x : ι) (r : Request ι ρ) : Bool := r.target = x && r.isSent

/-- The requests that were sent the resource and did not take it yet. -/
def inFlight (h : Hall ι ρ) (x : ι) : Nat := h.requests.values.countP (isSentTo x)

/-- How often the resource is outside the broker. -/
def outstanding (h : Hall ι ρ) (x : ι) : Int :=
  h.broker.owners x - h.inFlight x

/-- The resource is under way to the request. -/
def isSent (h : Hall ι ρ) (x : ι) (k : RequestId) : Bool := (h.requests.get? k).any (isSentTo x)

theorem inFlight_congr (same : ∀ k, h'.isSent x k = h.isSent x k) : h'.inFlight x = h.inFlight x :=
  Registry.countP_congr same

/-- The resource is sent to one request. -/
theorem inFlight_succ {k : RequestId} (before : h.isSent x k = false) (after : h'.isSent x k = true)
    (same : ∀ j, j ≠ k → h'.isSent x j = h.isSent x j) : h'.inFlight x = h.inFlight x + 1 :=
  Registry.countP_succ before after same

theorem isSent_iff {k : RequestId} :
    h.isSent x k = true ↔ ∃ r ticket resource, h.requests.get? k = some r ∧ r.target = x ∧
      r.stage = .queued ticket (.sent resource) := by
  constructor
  · intro sent
    obtain ⟨r, live, both⟩ := (Option.any_eq_true _ _).1 sent
    simp only [isSentTo, Bool.and_eq_true, decide_eq_true_eq, Request.isSent] at both
    obtain ⟨target, sent⟩ := both
    split at sent <;> try cases sent
    exact ⟨r, _, _, live, target, by assumption⟩
  · rintro ⟨r, ticket, resource, live, target, stage⟩
    simp [isSent, live, isSentTo, Request.isSent, target, stage]

/-- A resource is on its way just when some request is to get it. -/
theorem inFlight_pos_iff : 0 < h.inFlight x ↔ ∃ k, h.isSent x k = true := by
  rw [inFlight, Registry.countP_values, List.length_pos_iff_exists_mem]
  exact exists_congr fun k => Registry.mem_filter_keys _ _ k

theorem isSent_of_get? {k : RequestId} {r : Request ι ρ} (live : h.requests.get? k = some r) :
    h.isSent x k = isSentTo x r := by
  simp [isSent, live]

/-- A request that awaits its signal, and is told that it waits in vain, was not sent the
resource before and was not after. -/
theorem isSentTo_discarded {r : Request ι ρ} (c : Prop) [Decidable c]
    (inLine : c → ∃ ticket, r.stage = .queued ticket .awaited) :
    isSentTo x ((if c then r.receive .discarded else r).notify) = isSentTo x r := by
  have target := Request.target_told r .discarded c
  have sent : ((if c then r.receive .discarded else r).notify).isSent = r.isSent := by
    by_cases hc : c
    · obtain ⟨ticket, stage⟩ := inLine hc
      simp [hc, Request.isSent, Request.stage_notify, Request.stage_receive, stage]
    · rw [if_neg hc, Request.isSent, Request.stage_notify, Request.isSent]
      cases r.stage <;> rfl
  rw [isSentTo, target, sent, isSentTo]

theorem isSentTo_wake (r : Request ι ρ) (c : Prop) [Decidable c] :
    isSentTo x (if c then r.wake else r) = isSentTo x r := by
  simp only [isSentTo, Request.isSent, r.stage_wake, (r.told_wake c).target]

theorem isSentTo_notify (r : Request ι ρ) : isSentTo x r.notify = isSentTo x r := by
  have discarded := isSentTo_discarded (x := x) (r := r) False False.elim
  rwa [if_neg id] at discarded

theorem isSent_notifyParked (h : Hall ι ρ) (x : ι) (j : RequestId) :
    h.notifyParked.isSent x j = h.isSent x j := by
  simp [isSent, Option.any_map, isSentTo_notify]

/-- Whoever is told that he waits in vain was sent nothing, and is not. -/
theorem isSent_discard {signals : List Signal}
    (inLine : ∀ signal ∈ signals, ∀ r, h.requests.get? signal.request = some r →
      ∃ ticket, r.stage = .queued ticket .awaited) (x : ι) (j : RequestId) :
    (h.discard signals).notifyParked.isSent x j = h.isSent x j := by
  simp only [isSent, requests_notifyParked, requests_discard, Option.map_map, Option.any_map]
  cases live : h.requests.get? j with
  | none => rfl
  | some r =>
    apply isSentTo_discarded
    intro mem
    simp only [List.any_eq_true, decide_eq_true_eq] at mem
    obtain ⟨signal, mem, rfl⟩ := mem
    exact inLine signal mem r live

/-- Nothing is sent, and the account of one id changes as by the transfers. -/
theorem outstanding_of_change {b : Broker ι ρ} {id : ι} {busy? : Option Bool} {line : List Signal}
    {retired : Prop} (change : h.broker.Change b id busy? line retired) (broker : h'.broker = b)
    (same : h'.inFlight x = h.inFlight x) {n : Int}
    (net : Transfer.net x transfers = if x = id then n else 0)
    (account : b.owners id = h.broker.owners id + n) :
    h'.outstanding x = h.outstanding x + Transfer.net x transfers := by
  have owners := change.owners x
  rw [outstanding, outstanding, same, broker, owners, net]
  split
  · rename_i heq
    rw [account, heq]
    omega
  · omega

/-- Nothing happens at the broker, and nothing is sent. -/
theorem outstanding_of_requests (broker : h'.broker = h.broker)
    (same : ∀ k, h'.isSent x k = h.isSent x k) : h'.outstanding x = h.outstanding x := by
  rw [outstanding, outstanding, broker, inFlight_congr same]

theorem Incident.unregister_outstanding (coherent : h.Coherent) {b : Broker ι ρ} {id : ι}
    {busy : Bool} (known : h.broker.isBusy? id = some busy)
    (change : h.broker.Change b id none [] (busy = true)) (x : ι) :
    (({ h with broker := b }.discard (h.broker.line id)).notifyParked).outstanding x =
      h.outstanding x := by
  have same : ∀ k, (({ h with broker := b }.discard (h.broker.line id)).notifyParked).isSent x k =
      h.isSent x k :=
    isSent_discard (h := { h with broker := b }) (fun signal mem r live =>
      ⟨_, (coherent.listening id signal mem r live).2⟩) x
  have account : b.owners id = h.broker.owners id + 0 := by
    cases busy with
    | true =>
      rw [Broker.owners_of_owned (change.owned_iff.2 (.inr rfl)), Broker.owners_of_held known]
      rfl
    | false =>
      rw [Broker.owners_of_not_owned (by simp [change.owned_iff]),
        coherent.broker.owners_free known]
      rfl
  rw [← Int.add_zero (h.outstanding x), ← Transfer.net_nil x]
  exact outstanding_of_change change rfl (inFlight_congr same) (by simp) account

theorem Incident.send_outstanding (coherent : h.Coherent) {b : Broker ι ρ} {id : ι}
    {signal : Signal} {rest : List Signal} (held : h.broker.isBusy? id = some true)
    (first : (h.broker.line id).dropWhile (fun signal => !h.listens signal.request) =
      signal :: rest)
    (change : h.broker.Change b id (some true) rest False) (resource : ρ) (x : ι) :
    let passed := ({ h with broker := b }.deliver (some (signal.request, resource))).notifyParked
    passed.outstanding x = h.outstanding x + if x = id then -1 else 0 := by
  obtain ⟨gone, split, here, _⟩ := dropWhile_split first
  obtain ⟨r, live⟩ := Option.isSome_iff_exists.1 here
  obtain ⟨target, stage⟩ := coherent.listening id signal (by simp [split]) r live
  let passed := ({ h with broker := b }.deliver (some (signal.request, resource))).notifyParked
  have others : ∀ j, j ≠ signal.request → passed.isSent x j = h.isSent x j := by
    intro j hj
    simp only [passed, isSent, requests_notifyParked, requests_deliver, if_neg hj, Option.map_map,
      Option.any_map]
    cases h.requests.get? j with
    | none => rfl
    | some s => exact isSentTo_notify s
  have before : h.isSent x signal.request = false := by
    simp [isSent_of_get? live, isSentTo, Request.isSent, stage]
  have after : passed.isSent x signal.request = decide (id = x) := by
    have live' : passed.requests.get? signal.request =
        some ((r.receive (.sent resource)).notify) := by simp [passed, live]
    have told := Request.target_told r (.sent resource) True
    rw [if_pos trivial, target] at told
    simp [isSent_of_get? live', isSentTo, Request.isSent, Request.stage_notify,
      Request.stage_receive, stage, told]
  have owners : passed.broker.owners x = h.broker.owners x := by
    have account := change.owners x
    rw [Broker.owners_of_owned (change.owned_iff.2 (.inl rfl))] at account
    refine account.trans ?_
    split
    · rename_i heq
      rw [heq, Broker.owners_of_held held]
    · rfl
  show passed.outstanding x = _
  rw [outstanding, outstanding, owners]
  by_cases hx : x = id
  · rw [if_pos hx, inFlight_succ before (by rw [after, hx]; simp) others]
    omega
  · have same : ∀ k, passed.isSent x k = h.isSent x k := by
      intro k
      by_cases hk : k = signal.request
      · rw [hk, before, after]
        simp [Ne.symm hx]
      · exact others k hk
    rw [if_neg hx, inFlight_congr same]
    omega

theorem Incident.outstanding (incident : h.Incident actor transfers h') (coherent : h.Coherent)
    (x : ι) :
    h'.outstanding x = h.outstanding x + Transfer.net x transfers := by
  have valid := coherent.broker
  cases incident with
  | report => exact (Int.add_zero _).symm
  | notify =>
    rw [Transfer.net_nil, Int.add_zero]
    exact outstanding_of_requests rfl (isSent_notifyParked h x)
  | @unrank _ b id ticket change =>
    refine outstanding_of_change (n := 0) change rfl rfl (by simp) ?_
    rw [Int.add_zero]
    exact if_congr change.owned_iff rfl rfl
  | @register b id unknown fresh ticket change =>
    refine outstanding_of_change (n := 0) change rfl rfl (by simp) ?_
    rw [Broker.owners_of_not_owned (by simp [change.owned_iff]),
      Broker.owners_of_not_owned (by simp [Broker.IsOwned, unknown, fresh])]
    rfl
  | @take _ b id free ticket change =>
    refine outstanding_of_change change rfl rfl (Transfer.net_taken id x) ?_
    rw [Broker.owners_of_owned (change.owned_iff.2 (.inl rfl)), valid.owners_free free]
    rfl
  | @free _ b id retired ticket change =>
    refine outstanding_of_change change rfl rfl (Transfer.net_given id x) ?_
    rw [Broker.owners_of_not_owned (by simp [change.owned_iff]),
      Broker.owners_of_owned (.inr retired)]
    rfl
  | unregister known ticket change =>
    rw [Transfer.net_nil, Int.add_zero]
    exact unregister_outstanding coherent known change x
  | send held first known ticket change =>
    rw [Transfer.net_given]
    exact send_outstanding coherent held first change _ x
  | @idle _ b id held nobody ticket change =>
    have same := inFlight_congr (isSent_notifyParked { h with broker := b } x)
    refine outstanding_of_change change rfl same (Transfer.net_given id x) ?_
    rw [Broker.owners_of_not_owned (by simp [change.owned_iff]), Broker.owners_of_held held]
    rfl
  | @start _ k target patience new =>
    rw [Transfer.net_nil, Int.add_zero]
    refine outstanding_of_requests rfl fun j => ?_
    rw [isSent, requests_setRequest]
    split
    · rename_i heq
      have absent : h.requests.get? j = none := by
        cases live : h.requests.get? j with
        | none => rfl
        | some r => exact absurd (coherent.numbered j r live) (Nat.not_lt.2 (heq ▸ new))
      simp [isSent, absent, isSentTo, Request.isSent, Request.start]
    · rfl
  | cancel token =>
    rw [Transfer.net_nil, Int.add_zero]
    refine outstanding_of_requests rfl fun k => ?_
    simp only [isSent, Hall.cancel, requests_changeRequests, Option.any_map]
    exact congrArg (fun p => (h.requests.get? k).any p) (funext fun r => isSentTo_wake r _)
  | elapse milliseconds =>
    rw [Transfer.net_nil, Int.add_zero]
    refine outstanding_of_requests rfl fun k => ?_
    simp only [isSent, Hall.elapse, requests_changeRequests, Option.any_map]
    exact congrArg (fun p => (h.requests.get? k).any p) (funext fun r => isSentTo_wake r _)

theorem net_takings (r : Request ι ρ) :
    Transfer.net x r.takings = if isSentTo x r then 1 else 0 := by
  rw [Request.takings, isSentTo]
  cases r.isSent <;> simp [eq_comm]

/-- A request ends, and takes along what it was sent. -/
theorem outstanding_of_end {k : RequestId} {r : Request ι ρ}
    (owners : h'.broker.owners x = h.broker.owners x) (live : h.requests.get? k = some r)
    (gone : h'.requests.get? k = none) (others : ∀ j, j ≠ k → h'.isSent x j = h.isSent x j) :
    h'.outstanding x = h.outstanding x + Transfer.net x r.takings := by
  have after : h'.isSent x k = false := by simp [isSent, gone]
  have before := isSent_of_get? (x := x) live
  rw [outstanding, outstanding, owners, net_takings]
  cases sent : isSentTo x r with
  | true =>
    rw [sent] at before
    rw [inFlight_succ after before fun j hj => (others j hj).symm, if_pos rfl]
    omega
  | false =>
    have same : ∀ j, h'.isSent x j = h.isSent x j := by
      intro j
      by_cases hj : j = k
      · rw [hj, after, before, sent]
      · exact others j hj
    rw [inFlight_congr same, if_neg (by simp)]
    omega

/-- A request that was not sent the resource gets to a stage of waiting. -/
theorem isSent_setRequest {k : RequestId} {r r' : Request ι ρ} (live : h.requests.get? k = some r)
    (same : isSentTo x r' = isSentTo x r) (j : RequestId) :
    (h.setRequest k r').isSent x j = h.isSent x j := by
  rw [isSent, requests_setRequest]
  split
  · rename_i heq
    rw [heq, isSent_of_get? live]
    exact same
  · rfl

theorem Move.outstanding (move : h.Move actor transfers h') (coherent : h.Coherent) (x : ι) :
    h'.outstanding x = h.outstanding x + Transfer.net x transfers := by
  have owners_held : ∀ {b : Broker ι ρ} {id : ι} {line : List Signal},
      h.broker.isBusy? id = some true → h.broker.Change b id (some true) line False →
      b.owners x = h.broker.owners x := by
    intro b id line held change
    rw [change.owners]
    split
    · rename_i heq
      rw [Broker.owners_of_owned (change.owned_iff.2 (.inl rfl)), heq, Broker.owners_of_held held]
    · rfl
  have not_sent : ∀ {r : Request ι ρ}, (∀ ticket mail, r.stage ≠ .queued ticket mail) →
      isSentTo x r = false := by
    intro r stage
    rw [isSentTo, Request.isSent]
    split <;> simp_all
  cases move with
  | incident incident => exact incident.outstanding coherent x
  | @quit b k r ticket mail signal live stage found held same change =>
    obtain ⟨front, back, split, _⟩ := find?_split found
    have inLine : ∀ other ∈ [signal], ∀ s, h.requests.get? other.request = some s →
        ∃ ticket, s.stage = .queued ticket .awaited := by
      intro other mem s live'
      obtain rfl := List.mem_singleton.1 mem
      exact ⟨_, (coherent.listening r.target other (by simp [split]) s live').2⟩
    refine outstanding_of_end (owners_held held change) live (by simp) fun j hj => ?_
    rw [isSent, requests_remove, if_neg hj]
    exact isSent_discard (h := { h with broker := b }) inLine x j
  | finish live gone =>
    refine outstanding_of_end rfl live (by simp) fun j hj => ?_
    simp [isSent, hj]
  | @join b k r live stage patient held room ticket change =>
    rw [Transfer.net_nil, Int.add_zero, Hall.outstanding, Hall.outstanding]
    let joined := h.setRequest k { r with stage := .queued h.broker.nextTicket .awaited }
    have flight : joined.inFlight x = h.inFlight x := by
      refine inFlight_congr (isSent_setRequest live ?_)
      rw [not_sent stage]
      simp [isSentTo, Request.isSent]
    exact congrArg₂ (fun a n => a - Int.ofNat n) (owners_held held change) flight
  | @park k r live stage patient held full =>
    rw [Transfer.net_nil, Int.add_zero]
    refine outstanding_of_requests rfl (isSent_setRequest live ?_)
    rw [not_sent stage]
    simp [isSentTo, Request.isSent]
  | look live =>
    rw [Transfer.net_nil, Int.add_zero]
    exact outstanding_of_requests rfl (isSent_setRequest live rfl)

theorem Moves.outstanding (moves : Moves actor h transfers h') (coherent : h.Coherent) (x : ι) :
    h'.outstanding x = h.outstanding x + Transfer.net x transfers := by
  induction moves with
  | done => exact (Int.add_zero _).symm
  | next move _ ih =>
    rw [ih (move.coherent coherent), move.outstanding coherent x, Transfer.net_append]
    omega

end Hall

end Custody
