import Custody.Proofs.Hall.Basic

/-!
# Moves

Every operation of a hall is made of a few moves, and every invariant is proved move by
move. A move says which request acts, if one does, and which ownership passes between
the broker and those outside it.

* `Hall.Incident`, `Hall.Move`: all that can happen at once;
* `Hall.Moves`: moves of one actor, one after the other.
-/

namespace Custody

/-- Ownership that passes out of the broker or back to it. A resource that is under way
to a request has not passed out yet. -/
inductive Transfer (ι : Type)
  | taken (id : ι)
  | given (id : ι)
  deriving DecidableEq

/-- The event of a ticket being issued. -/
def Event.isQueued {ι : Type} : Event ι → Bool
  | .queued _ _ => true
  | _ => false

/-- What a request takes along that ends on its own account. -/
def Request.takings {ι ρ : Type} (r : Request ι ρ) : List (Transfer ι) :=
  if r.isSent then [.taken r.target] else []

namespace Hall

variable {ι ρ : Type} [DecidableEq ι]

/-- What can happen at once that is no request's own doing. Only while none acts do ids come
and go. -/
inductive Incident (h : Hall ι ρ) : Option RequestId → List (Transfer ι) → Hall ι ρ → Prop
  | report {actor : Option RequestId} {events : List (Event ι)}
      (quiet : ∀ event ∈ events, event.isQueued = false) :
      Incident h actor [] (h.report events)
  | notify {actor : Option RequestId} : Incident h actor [] h.notifyParked
  /-- An id leaves the ranking. -/
  | unrank {actor : Option RequestId} {b : Broker ι ρ} {id : ι}
      (ticket : b.nextTicket = h.broker.nextTicket)
      (change : h.broker.Change b id (h.broker.isBusy? id) (h.broker.line id)
        (id ∈ h.broker.retired)) :
      Incident h actor [] { h with broker := b }
  | register {b : Broker ι ρ} {id : ι} (unknown : h.broker.isBusy? id = none)
      (fresh : id ∉ h.broker.retired) (ticket : b.nextTicket = h.broker.nextTicket)
      (change : h.broker.Change b id (some false) [] False) :
      Incident h none [] { h with broker := b }
  | take {actor : Option RequestId} {b : Broker ι ρ} {id : ι}
      (free : h.broker.isBusy? id = some false)
      (ticket : b.nextTicket = h.broker.nextTicket)
      (change : h.broker.Change b id (some true) [] False) :
      Incident h actor [.taken id] { h with broker := b }
  /-- The holder of a retired id gives it up. -/
  | free {actor : Option RequestId} {b : Broker ι ρ} {id : ι} (retired : id ∈ h.broker.retired)
      (ticket : b.nextTicket = h.broker.nextTicket)
      (change : h.broker.Change b id none [] False) :
      Incident h actor [.given id] { h with broker := b }
  | unregister {b : Broker ι ρ} {id : ι} {busy : Bool} (known : h.broker.isBusy? id = some busy)
      (ticket : b.nextTicket = h.broker.nextTicket)
      (change : h.broker.Change b id none [] (busy = true)) :
      Incident h none [] (({ h with broker := b }.discard (h.broker.line id)).notifyParked)
  /-- A resource is given up, and sent to the first in line who is still there. -/
  | send {actor : Option RequestId} {b : Broker ι ρ} {id : ι} {record : Record ρ}
      {signal : Signal} {rest : List Signal}
      (held : h.broker.isBusy? id = some true)
      (first : (h.broker.line id).dropWhile (fun signal => !h.listens signal.request) =
        signal :: rest)
      (known : h.broker.records.get? id = some record)
      (ticket : b.nextTicket = h.broker.nextTicket)
      (change : h.broker.Change b id (some true) rest False) :
      Incident h actor [.given id]
        ({ h with broker := b }.deliver (some (signal.request, record.resource))).notifyParked
  /-- A resource is given up, and nobody is in line for it. -/
  | idle {actor : Option RequestId} {b : Broker ι ρ} {id : ι}
      (held : h.broker.isBusy? id = some true)
      (nobody : (h.broker.line id).dropWhile (fun signal => !h.listens signal.request) = [])
      (ticket : b.nextTicket = h.broker.nextTicket)
      (change : h.broker.Change b id (some false) [] False) :
      Incident h actor [.given id] { h with broker := b }.notifyParked
  | start {actor : Option RequestId} {k : RequestId} (target : ι) (patience : Patience)
      (new : h.nextRequest ≤ k) :
      Incident h actor [] ({ h with nextRequest := k + 1 }.setRequest k (.start target patience))
  | cancel {actor : Option RequestId} (token : String) : Incident h actor [] (h.cancel token)
  | elapse {actor : Option RequestId} (milliseconds : Nat) :
      Incident h actor [] (h.elapse milliseconds)

/-- One move, which may be that of a request. -/
inductive Move (h : Hall ι ρ) : Option RequestId → List (Transfer ι) → Hall ι ρ → Prop
  | incident {actor : Option RequestId} {transfers : List (Transfer ι)} {h' : Hall ι ρ}
      (incident : h.Incident actor transfers h') : Move h actor transfers h'
  /-- A request ends, and a signal with its ticket is withdrawn. -/
  | quit {b : Broker ι ρ} {k : RequestId} {r : Request ι ρ} {ticket : UInt64} {mail : Mail ρ}
      {signal : Signal} (live : h.requests.get? k = some r) (stage : r.stage = .queued ticket mail)
      (found : (h.broker.line r.target).find? (fun signal => signal.ticket == ticket) =
        some signal)
      (held : h.broker.isBusy? r.target = some true)
      (same : b.nextTicket = h.broker.nextTicket)
      (change : h.broker.Change b r.target (some true)
        ((h.broker.line r.target).eraseP fun signal => signal.ticket == ticket) False) :
      Move h (some k) r.takings
        ((({ h with broker := b }.discard [signal]).notifyParked).remove k)
  /-- A request that is not in line ends. -/
  | finish {k : RequestId} {r : Request ι ρ} (live : h.requests.get? k = some r)
      (gone : ∀ ticket, r.stage ≠ .queued ticket .awaited) :
      Move h (some k) r.takings (h.remove k)
  /-- A request comes last in line. -/
  | join {b : Broker ι ρ} {k : RequestId} {r : Request ι ρ}
      (live : h.requests.get? k = some r) (stage : ∀ ticket mail, r.stage ≠ .queued ticket mail)
      (patient : h.isCancelled r = false) (held : h.broker.isBusy? r.target = some true)
      (room : (h.broker.line r.target).length < h.broker.settings.waiterCapacity.toNat)
      (ticket : b.nextTicket = h.broker.nextTicket + 1)
      (change : h.broker.Change b r.target (some true)
        (h.broker.line r.target ++ [⟨h.broker.nextTicket, k⟩]) False) :
      Move h (some k) []
        (({ h with broker := b }.setRequest k
          { r with stage := .queued h.broker.nextTicket .awaited }).report
            [.queued r.target h.broker.nextTicket])
  /-- A request finds the line full. -/
  | park {k : RequestId} {r : Request ι ρ} (live : h.requests.get? k = some r)
      (stage : ∀ ticket mail, r.stage ≠ .queued ticket mail)
      (patient : h.isCancelled r = false) (held : h.broker.isBusy? r.target = some true)
      (full : (h.broker.line r.target).length = h.broker.settings.waiterCapacity.toNat) :
      Move h (some k) [] (h.setRequest k { r with stage := .parked false })
  /-- A poll begins. -/
  | look {k : RequestId} {r : Request ι ρ} (live : h.requests.get? k = some r) :
      Move h (some k) [] (h.setRequest k (r.polledAt h.now))

/-- Moves of one actor, one after the other. -/
inductive Moves (actor : Option RequestId) : Hall ι ρ → List (Transfer ι) → Hall ι ρ → Prop
  | done (h : Hall ι ρ) : Moves actor h [] h
  | next {h h' h'' : Hall ι ρ} {transfers transfers' : List (Transfer ι)}
      (move : h.Move actor transfers h') (moves : Moves actor h' transfers' h'') :
      Moves actor h (transfers ++ transfers') h''

variable {actor : Option RequestId} {h h' h'' : Hall ι ρ} {transfers transfers' : List (Transfer ι)}

theorem Move.moves (move : h.Move actor transfers h') : Moves actor h transfers h' := by
  rw [← List.append_nil transfers]
  exact .next move (.done h')

theorem Moves.trans (first : Moves actor h transfers h') (second : Moves actor h' transfers' h'') :
    Moves actor h (transfers ++ transfers') h'' := by
  induction first with
  | done => exact second
  | next move _ ih =>
    rw [List.append_assoc]
    exact .next move (ih second)

theorem Incident.moves (incident : h.Incident actor transfers h') : Moves actor h transfers h' :=
  Move.moves (.incident incident)

/-- What every move preserves, moves preserve. -/
theorem Moves.preserve {P : Hall ι ρ → Prop} (moves : Moves actor h transfers h')
    (step : ∀ {h h' : Hall ι ρ} {transfers}, h.Move actor transfers h' → P h → P h') (start : P h) :
    P h' := by
  induction moves with
  | done => exact start
  | next move _ ih => exact ih (step move start)

end Hall

end Custody
