import Custody.Broker.Event
import Custody.Broker.Request

/-!
# The hall

A broker with the requests under way, the tokens that were cancelled and the
clock. Nothing runs by itself: a request moves when it is polled, and the clock
when it is set forward.

* `Hall.poll`: one request runs until it has an outcome or must wait;
* `Hall.abandon`: what giving up a wait does to everyone else;
* `Hall.step`: one operation of the outside world;
* `Hall.settle`: all requests are polled, over and over, until none finishes.

A request that is queued looks at its mail before its token, so ownership that
was sent is never refused. One that gives up withdraws its signal, or passes on
the ownership that it was sent and did not take.
-/

namespace Custody

/-- A broker and the requests it has not settled. -/
structure Hall (ι ρ : Type) where
  broker : Broker ι ρ
  /-- In the order of their start. -/
  requests : Registry RequestId (Request ι ρ)
  /-- Requests are numbered upwards. This number was not given yet, nor was any
  above it. -/
  nextRequest : RequestId
  cancelled : List String
  /-- The time in milliseconds. -/
  now : Nat
  log : List (Event ι)

/-- How a request ended. -/
abbrev Outcome (ι ρ : Type) := Except (Refusal ι) ρ

/-- Which comes first for a parked request that finds itself both cancelled and
notified. -/
inductive Tie
  | cancelFirst
  | retryFirst
  deriving DecidableEq, Repr

namespace Hall

variable {ι ρ : Type} [DecidableEq ι]

/-- A broker that nobody has called yet. -/
def opening (broker : Broker ι ρ) : Hall ι ρ where
  broker := broker
  requests := .empty
  nextRequest := 0
  cancelled := []
  now := 0
  log := []

def report (h : Hall ι ρ) (events : List (Event ι)) : Hall ι ρ :=
  { h with log := h.log ++ events }

def setRequest (h : Hall ι ρ) (id : RequestId) (r : Request ι ρ) : Hall ι ρ :=
  { h with requests := h.requests.put id r }

def changeRequests (h : Hall ι ρ) (f : RequestId → Request ι ρ → Request ι ρ) : Hall ι ρ :=
  { h with requests := h.requests.mapValues f }

def remove (h : Hall ι ρ) (id : RequestId) : Hall ι ρ :=
  { h with requests := h.requests.erase id }

/-- Tells everyone who is parked that a waiting queue may have room. -/
def notifyParked (h : Hall ι ρ) : Hall ι ρ := h.changeRequests fun _ r => r.notify

/-- Hands a resource to the request it was sent to. -/
def deliver (h : Hall ι ρ) : Option (RequestId × ρ) → Hall ι ρ
  | none => h
  | some (id, resource) =>
    h.changeRequests fun k r => if k = id then r.receive (.sent resource) else r

/-- Tells the requests of the signals that they wait in vain. -/
def discard (h : Hall ι ρ) (signals : List Signal) : Hall ι ρ :=
  h.changeRequests fun k r =>
    if signals.any fun signal => signal.request = k then r.receive .discarded else r

/-- The request is still there to be told something. -/
def listens (h : Hall ι ρ) (id : RequestId) : Bool := h.requests.contains id

/-- The token of the request has been cancelled. -/
def isCancelled (h : Hall ι ρ) (r : Request ι ρ) : Bool :=
  match r.patience with
  | .token name => name ∈ h.cancelled
  | .unlimited => false
  | .limit _ => false

/-- What giving up the wait with a ticket does: the signal is withdrawn, or the
ownership it brought is passed on at the priority of the latest release. Whoever
waits for a signal that was withdrawn waits in vain. -/
def abandonSignal (h : Hall ι ρ) (target : ι) (ticket : UInt64) (mail : Mail ρ) : Hall ι ρ :=
  match h.broker.leave? target ticket with
  | some (signal, broker) =>
    (({ h with broker := broker }.discard [signal]).notifyParked).report
      [.withdrew target ticket]
  | none =>
    match mail with
    | .sent _ =>
      let handing :=
        h.broker.handOver h.listens target (h.broker.lastPriority target)
      (({ h with broker := handing.broker }.deliver handing.delivery).notifyParked).report
        (Event.ofHanding target handing ++ [Event.passedOn target ticket handing.verdict])
    | .awaited => h
    | .discarded => h

/-- What giving up a request does to everyone else. -/
def abandon (h : Hall ι ρ) (r : Request ι ρ) : Hall ι ρ :=
  match r.stage with
  | .queued ticket mail => h.abandonSignal r.target ticket mail
  | .fresh => h
  | .parked _ => h

/-- Gives up a request. -/
def drop (h : Hall ι ρ) (id : RequestId) : Hall ι ρ :=
  match h.requests.get? id with
  | none => h
  | some r => (h.abandon r).remove id

/-- Asks the broker for the resource. A caller that was parked knows that the
resource was registered, and takes its absence for an unregistration. -/
def attempt (h : Hall ι ρ) (id : RequestId) (r : Request ι ρ) (wasParked : Bool) :
    Option (Outcome ι ρ) × Hall ι ρ :=
  match h.broker.request r.target id (h.isCancelled r) with
  | (.unknown, broker) =>
    let refusal := if wasParked then .unregistered r.target else .notRegistered r.target
    (some (.error refusal), { h with broker := broker })
  | (.granted resource, broker) =>
    (some (.ok resource), { h with broker := broker }.report [.tookIdle r.target])
  | (.cancelled, broker) => (some (.error .cancelled), { h with broker := broker })
  | (.full, broker) =>
    (none, { h with broker := broker }.setRequest id { r with stage := .parked false })
  | (.queued ticket, broker) =>
    (none,
      ({ h with broker := broker }.setRequest id
        { r with stage := .queued ticket .awaited }).report [.queued r.target ticket])

/-- Runs a request until it has an outcome or must wait, whatever the time. -/
def advanceRequest (h : Hall ι ρ) (tie : Tie) (id : RequestId) (r : Request ι ρ) :
    Option (Outcome ι ρ) × Hall ι ρ :=
  match r.stage with
  | .fresh => h.attempt id r false
  | .queued ticket (.sent resource) => (some (.ok resource), h.report [.woken r.target ticket])
  | .queued _ .discarded => (some (.error (.unregistered r.target)), h)
  | .queued _ .awaited =>
    if h.isCancelled r then (some (.error .cancelled), h.abandon r) else (none, h)
  | .parked notified =>
    if h.isCancelled r && (!notified || tie = .cancelFirst) then (some (.error .cancelled), h)
    else if notified then h.attempt id r true
    else (none, h)

/-- Polls a request: it runs until it has an outcome or must wait, and only when
it must wait, it may be told that its time is over. -/
def poll (h : Hall ι ρ) (tie : Tie) (id : RequestId) : Option (Outcome ι ρ) × Hall ι ρ :=
  match h.requests.get? id with
  | none => (none, h)
  | some r =>
    let r := r.polledAt h.now
    match (h.setRequest id r).advanceRequest tie id r with
    | (some outcome, h) => (some outcome, h.remove id)
    | (none, h) =>
      if r.isOverdue h.now then (some (.error .timedOut), h.drop id) else (none, h)

/-- Starts a request, which is not polled, unless its number was given before. -/
def start (h : Hall ι ρ) (id : RequestId) (target : ι) (patience : Patience) :
    Bool × Hall ι ρ :=
  if id < h.nextRequest then
    (false, h)
  else
    (true, { h with nextRequest := id + 1 }.setRequest id (.start target patience))

/-- Cancels a token. -/
def cancel (h : Hall ι ρ) (token : String) : Hall ι ρ :=
  { h with cancelled := h.cancelled.insert token }.changeRequests fun _ r =>
    if r.patience = Patience.token token then r.wake else r

/-- Sets the clock forward. -/
def elapse (h : Hall ι ρ) (milliseconds : Nat) : Hall ι ρ :=
  let now := h.now + milliseconds
  { h with now := now }.changeRequests fun _ r => if r.isOverdue now then r.wake else r

/-- Registers a resource, at the default priority unless one is given. -/
def register (h : Hall ι ρ) (id : ι) (resource : ρ) (priority? : Option Priority) :
    Except (Refusal ι) Unit × Hall ι ρ :=
  let priority := priority?.getD h.broker.settings.defaultPriority
  match h.broker.register id resource priority with
  | .error refusal => (.error refusal, h)
  | .ok broker => (.ok (), { h with broker := broker }.report [.registered id priority])

/-- Unregisters a resource. Everyone who waits for it is told. -/
def unregister (h : Hall ι ρ) (id : ι) : Except (Refusal ι) ρ × Hall ι ρ :=
  match h.broker.unregister id with
  | (.error refusal, broker) => (.error refusal, { h with broker := broker })
  | (.ok record, broker) =>
    let waiting := record.waiters.toList
    let told := ({ h with broker := broker }.discard waiting).notifyParked
    let abandoned := if waiting.isEmpty then [] else [.abandonedWaiters id waiting.length]
    (.ok record.resource, told.report (abandoned ++ [.unregistered id]))

/-- Takes the best ranked resource. -/
def takeAny (h : Hall ι ρ) : Option (ι × ρ) × Hall ι ρ :=
  match h.broker.takeAny? with
  | (none, broker) => (none, { h with broker := broker })
  | (some (id, resource), broker) =>
    (some (id, resource), { h with broker := broker }.report [.tookAny id])

/-- Gives up a resource: the first caller in its queue gets it, or it becomes
idle at the priority. -/
def release (h : Hall ι ρ) (priority : Priority) (id : ι) : Except (Refusal ι) Unit × Hall ι ρ :=
  let handing := h.broker.handOver h.listens id priority
  let h := { h with broker := handing.broker }.report (Event.ofHanding id handing)
  match handing.verdict with
  | .error refusal => (.error refusal, h)
  | .ok handover =>
    let event :=
      match handover with
      | .waiter => .handedToWaiter id
      | .idle => .becameIdle id priority
    (.ok (), ((h.deliver handing.delivery).notifyParked).report [event])

/-- Takes an id out of the ranking without taking the resource. -/
def withdraw (h : Hall ι ρ) (id : ι) : Bool × Hall ι ρ :=
  match h.broker.withdraw id with
  | (found, broker) => (found, { h with broker := broker })

/-- Polls the requests once each and gives those that finished. -/
def pass (tie : Tie) : List RequestId → Hall ι ρ → List (RequestId × Outcome ι ρ) × Hall ι ρ
  | [], h => ([], h)
  | id :: rest, h =>
    match h.poll tie id with
    | (none, h) => pass tie rest h
    | (some outcome, h) =>
      let (finished, h) := pass tie rest h
      ((id, outcome) :: finished, h)

/-- At most `n` passes over all requests. -/
def passes (tie : Tie) : Nat → Hall ι ρ → List (RequestId × Outcome ι ρ) × Hall ι ρ
  | 0, h => ([], h)
  | n + 1, h =>
    match pass tie h.requests.keys h with
    | ([], h) => ([], h)
    | (finished, h) =>
      let (later, h) := passes tie n h
      (finished ++ later, h)

/-- Polls all requests in the order of their start, pass after pass, until a pass
finishes none. Every other pass finishes one, which bounds their number. -/
def settle (tie : Tie) (h : Hall ι ρ) : List (RequestId × Outcome ι ρ) × Hall ι ρ :=
  passes tie (h.requests.size + 1) h

/-- The requests that were woken since their last poll. -/
def woken (h : Hall ι ρ) : List RequestId :=
  (h.requests.entries.filter fun (_, r) => r.woken).map Prod.fst

/-- The hall with its log taken down. -/
def clearLog (h : Hall ι ρ) : Hall ι ρ := { h with log := [] }

/-- What the outside world can do. -/
inductive Operation (ι ρ : Type)
  | register (id : ι) (resource : ρ) (priority? : Option Priority)
  | unregister (id : ι)
  | start (request : RequestId) (id : ι) (patience : Patience)
  | poll (request : RequestId) (tie : Tie)
  | drop (request : RequestId)
  | cancel (token : String)
  | elapse (milliseconds : Nat)
  | takeAny
  | release (priority : Priority) (id : ι)
  | withdraw (id : ι)
  deriving DecidableEq, Repr

/-- What it is answered. -/
inductive Answer (ι ρ : Type)
  | nothing
  | verdict (result : Except (Refusal ι) Unit)
  | outcome (result : Outcome ι ρ)
  | pending
  | taken (resource? : Option (ι × ρ))
  | flag (value : Bool)

/-- One operation. -/
def step (h : Hall ι ρ) : Operation ι ρ → Answer ι ρ × Hall ι ρ
  | .register id resource priority? =>
    let (result, h) := h.register id resource priority?
    (.verdict result, h)
  | .unregister id =>
    let (result, h) := h.unregister id
    (.outcome result, h)
  | .start request id patience =>
    let (started, h) := h.start request id patience
    (.flag started, h)
  | .poll request tie =>
    match h.poll tie request with
    | (none, h) => (.pending, h)
    | (some outcome, h) => (.outcome outcome, h)
  | .drop request => (.nothing, h.drop request)
  | .cancel token => (.nothing, h.cancel token)
  | .elapse milliseconds => (.nothing, h.elapse milliseconds)
  | .takeAny =>
    let (resource?, h) := h.takeAny
    (.taken resource?, h)
  | .release priority id =>
    let (result, h) := h.release priority id
    (.verdict result, h)
  | .withdraw id =>
    let (found, h) := h.withdraw id
    (.flag found, h)

/-- Operations one after the other. -/
def run (h : Hall ι ρ) : List (Operation ι ρ) → List (Answer ι ρ) × Hall ι ρ
  | [] => ([], h)
  | op :: rest =>
    let (answer, h) := h.step op
    let (answers, h) := h.run rest
    (answer :: answers, h)

end Hall

end Custody
