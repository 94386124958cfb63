import Custody.Broker.Refusal
import Custody.Queue
import Custody.RankedQueue
import Custody.Registry
import Custody.Settings.Basic

/-!
# The broker

A broker hands out registered resources, each to one holder at a time. Idle
resources are ranked by priority; for a busy one, callers queue in order of
arrival, and a resource that is given up goes straight to the first of them. An
id that is unregistered while it is held is retired: it cannot be registered
again until its holder gives it up.

Each function is one step that nothing interrupts, and says what the callers in
the queues are to be told.

* `Broker.register`, `Broker.unregister`: resources come and go;
* `Broker.request`: a caller asks for one resource;
* `Broker.takeAny?`: the best idle resource;
* `Broker.handOver`: a holder gives its resource up;
* `Broker.withdraw`, `Broker.leave`: an id leaves the ranking, a caller its queue.
-/

namespace Custody

/-- Names one of the requests under way. -/
abbrev RequestId := Nat

/-- A caller's place in a waiting queue. Tickets are numbered by 64-bit words. -/
structure Signal where
  ticket : UInt64
  request : RequestId
  deriving DecidableEq, Repr

/-- A registered resource. -/
structure Record (ρ : Type) where
  resource : ρ
  busy : Bool
  waiters : Queue Signal
  /-- The priority it was last given up at, or registered at. -/
  lastPriority : Priority

/-- The state that all callers of a broker share. -/
structure Broker (ι ρ : Type) where
  settings : Settings
  records : Registry ι (Record ρ)
  idle : RankedQueue ι
  /-- Ids that were unregistered while held, and are held still. -/
  retired : List ι
  nextTicket : UInt64

/-- Where a resource went that was given up. -/
inductive Handover
  | waiter
  | idle
  deriving DecidableEq, Repr

/-- What a broker answers to a request. -/
inductive Reception (ρ : Type)
  | unknown
  | granted (resource : ρ)
  | cancelled
  /-- The waiting queue has no room. -/
  | full
  | queued (ticket : UInt64)
  deriving DecidableEq, Repr

namespace Broker

variable {ι ρ : Type} [DecidableEq ι]

/-- A broker without resources. -/
def empty (settings : Settings) : Broker ι ρ where
  settings := settings
  records := .empty
  idle := .empty settings.maxResources.toNat settings.order
  retired := []
  nextTicket := 0

/-- A broker without resources, of valid settings. Memory that cannot be reserved is not
modelled: with a capacity near the largest word the call breaks off. -/
def new? (settings : Settings) : Except Settings.Fault (Broker ι ρ) :=
  match settings.validate with
  | .error fault => .error fault
  | .ok () => .ok (empty settings)

/-- A broker of the given capacities, which may be zero, and for which memory can be reserved. -/
def withCapacity (maxResources waiterCapacity : UInt64) (order : ServingOrder) : Broker ι ρ :=
  empty
    { Settings.standard with
      maxResources := maxResources, waiterCapacity := waiterCapacity, order := order }

/-- Takes the id out of the ranking, wherever it stands. -/
def unrank (b : Broker ι ρ) (id : ι) : RankedQueue ι :=
  match b.idle.erase? id with
  | some (_, idle) => idle
  | none => b.idle

/-- Registers a resource, ranked at the priority. Memory that cannot be reserved is not modelled:
with a waiter capacity near the largest word the call breaks off when the id is ranked already,
and without a record. -/
def register (b : Broker ι ρ) (id : ι) (resource : ρ) (priority : Priority) :
    Except (Refusal ι) (Broker ι ρ) :=
  if b.records.contains id || id ∈ b.retired then
    .error (.duplicateId id)
  else if b.settings.maxResources.toNat ≤ b.records.size then
    .error (.capacityExhausted b.settings.maxResources)
  else
    match b.idle.push priority id with
    | .error _ => .error (.capacityExhausted b.settings.maxResources)
    | .ok idle =>
      let record : Record ρ :=
        { resource := resource
          busy := false
          waiters := .empty b.settings.waiterCapacity.toNat
          lastPriority := priority }
      .ok { b with records := b.records.put id record, idle := idle }

/-- Takes a resource out, and gives its record: whoever is still queued in it
waits in vain. A holder is not disturbed, and the id is retired until it gives
the resource up. -/
def unregister (b : Broker ι ρ) (id : ι) : Except (Refusal ι) (Record ρ) × Broker ι ρ :=
  let b := { b with idle := b.unrank id }
  match b.records.get? id with
  | none => (.error (.notRegistered id), b)
  | some record =>
    (.ok record,
      { b with
        records := b.records.erase id
        retired := if record.busy then b.retired.insert id else b.retired })

/-- A request for a resource. An idle resource is granted even to a caller that
has been cancelled; a busy one queues the caller if there is room. -/
def request (b : Broker ι ρ) (id : ι) (caller : RequestId) (cancelled : Bool) :
    Reception ρ × Broker ι ρ :=
  match b.records.get? id with
  | none => (.unknown, b)
  | some record =>
    if record.busy then
      if cancelled then
        (.cancelled, b)
      else
        match record.waiters.push ⟨b.nextTicket, caller⟩ with
        | .error _ => (.full, b)
        | .ok waiters =>
          (.queued b.nextTicket,
            { b with
              records := b.records.put id { record with waiters := waiters }
              nextTicket := b.nextTicket + 1 })
    else
      (.granted record.resource,
        { b with
          records := b.records.put id { record with busy := true }
          idle := b.unrank id })

/-- Takes the best ranked resource. -/
def takeAny? (b : Broker ι ρ) : Option (ι × ρ) × Broker ι ρ :=
  match b.idle.pull? with
  | none => (none, b)
  | some (id, idle) =>
    match b.records.get? id with
    | none => (none, { b with idle := idle })
    | some record =>
      (some (id, record.resource),
        { b with records := b.records.put id { record with busy := true }, idle := idle })

/-- The first of at most `n` signals whose caller still listens, the signals
before it, and the queue behind it. -/
def firstListening (listens : RequestId → Bool) :
    Nat → Queue Signal → List Signal × Option Signal × Queue Signal
  | 0, q => ([], none, q)
  | n + 1, q =>
    match q.pull? with
    | none => ([], none, q)
    | some (signal, q) =>
      if listens signal.request then
        ([], some signal, q)
      else
        let (vanished, found, q) := firstListening listens n q
        (signal :: vanished, found, q)

/-- What became of a resource that was given up. -/
structure Handing (ι ρ : Type) where
  verdict : Except (Refusal ι) Handover
  broker : Broker ι ρ
  /-- The caller that now holds the resource. -/
  delivery : Option (RequestId × ρ)
  /-- The id was retired and is free again. -/
  freed : Bool
  /-- Signals of callers that were gone. -/
  vanished : List Signal
  /-- The resource is idle, and the ranking had no room for it. -/
  unranked : Bool

/-- Passes a held resource to the first caller in its queue, or makes it idle at
the priority. A holder of a retired id frees the id. -/
def handOver (b : Broker ι ρ) (listens : RequestId → Bool) (id : ι) (priority : Priority) :
    Handing ι ρ :=
  match b.records.get? id with
  | none =>
    { verdict := .error (.notRegistered id)
      broker := { b with retired := b.retired.erase id }
      delivery := none
      freed := id ∈ b.retired
      vanished := []
      unranked := false }
  | some record =>
    if record.busy then
      match firstListening listens record.waiters.size record.waiters with
      | (vanished, some signal, waiters) =>
        { verdict := .ok .waiter
          broker :=
            { b with
              records :=
                b.records.put id { record with waiters := waiters, lastPriority := priority } }
          delivery := some (signal.request, record.resource)
          freed := false
          vanished := vanished
          unranked := false }
      | (vanished, none, waiters) =>
        let records :=
          b.records.put id
            { record with busy := false, waiters := waiters, lastPriority := priority }
        let (idle, unranked) :=
          match b.idle.push priority id with
          | .ok idle => (idle, false)
          | .error _ => (b.idle, true)
        { verdict := .ok .idle
          broker := { b with records := records, idle := idle }
          delivery := none
          freed := false
          vanished := vanished
          unranked := unranked }
    else
      { verdict := .error (.notHeld id)
        broker := b
        delivery := none
        freed := false
        vanished := []
        unranked := false }

/-- Takes an id out of the ranking, and says whether it was there. -/
def withdraw (b : Broker ι ρ) (id : ι) : Bool × Broker ι ρ :=
  ((b.idle.erase? id).isSome, { b with idle := b.unrank id })

/-- Takes the signal of a ticket out of a waiting queue, if it is there. -/
def leave? (b : Broker ι ρ) (id : ι) (ticket : UInt64) : Option (Signal × Broker ι ρ) :=
  match b.records.get? id with
  | none => none
  | some record =>
    match record.waiters.extract? fun signal => signal.ticket == ticket with
    | none => none
    | some (signal, waiters) =>
      some (signal, { b with records := b.records.put id { record with waiters := waiters } })

/-- The priority at which abandoned ownership is passed on. -/
def lastPriority (b : Broker ι ρ) (id : ι) : Priority :=
  match b.records.get? id with
  | some record => record.lastPriority
  | none => 0

def contains (b : Broker ι ρ) (id : ι) : Bool := b.records.contains id

/-- Whether the resource is held, if it is registered. -/
def isBusy? (b : Broker ι ρ) (id : ι) : Option Bool := (b.records.get? id).map (·.busy)

/-- The ids of the ranked resources, the best first. -/
def idleIds (b : Broker ι ρ) : List ι := b.idle.toList

end Broker

def Broker.describe {ι ρ : Type} (b : Broker ι ρ) : String :=
  Text.openRecord "ResourceBroker" [("config", b.settings.describe)]

end Custody
