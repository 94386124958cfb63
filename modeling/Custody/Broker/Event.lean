import Custody.Broker.Basic
import Custody.Log.Line

/-!
# Events

What a broker reports to the log, each event with its level and its wording.
-/

namespace Custody

/-- Something that happened at a broker. -/
inductive Event (ι : Type)
  | registered (id : ι) (priority : Priority)
  | abandonedWaiters (id : ι) (waiters : Nat)
  | unregistered (id : ι)
  | tookIdle (id : ι)
  | queued (id : ι) (ticket : UInt64)
  | woken (id : ι) (ticket : UInt64)
  | tookAny (id : ι)
  | handedToWaiter (id : ι)
  | becameIdle (id : ι) (priority : Priority)
  | retiredFreed (id : ι)
  | waiterVanished (id : ι) (ticket : UInt64)
  | leftUnranked (id : ι)
  | withdrew (id : ι) (ticket : UInt64)
  | passedOn (id : ι) (ticket : UInt64) (verdict : Except (Refusal ι) Handover)

namespace Handover

def tag : Handover → String
  | waiter => "Waiter"
  | idle => "Idle"

/-- The description of what became of abandoned ownership. -/
def describeVerdict {ι : Type} (text : ι → String) : Except (Refusal ι) Handover → String
  | .ok handover => Text.applied "Ok" handover.tag
  | .error refusal => Text.applied "Err" (refusal.describe text)

end Handover

namespace Event

variable {ι : Type}

/-- The line of the log for an event. -/
def line (text : ι → String) : Event ι → Log.Line
  | registered id priority =>
    ⟨.debug, "resource registered", [("id", text id), ("priority", toString priority)]⟩
  | abandonedWaiters id waiters =>
    ⟨.debug, "unregistered with pending waiters",
      [("id", text id), ("waiters", toString waiters)]⟩
  | unregistered id => ⟨.debug, "resource unregistered", [("id", text id)]⟩
  | tookIdle id => ⟨.trace, "acquired idle resource", [("id", text id)]⟩
  | queued id ticket =>
    ⟨.trace, "queued behind holder", [("id", text id), ("ticket", toString ticket)]⟩
  | woken id ticket =>
    ⟨.debug, "woken with ownership", [("id", text id), ("ticket", toString ticket)]⟩
  | tookAny id => ⟨.trace, "acquired any idle resource", [("id", text id)]⟩
  | handedToWaiter id => ⟨.debug, "ownership handed to waiter", [("id", text id)]⟩
  | becameIdle id priority =>
    ⟨.trace, "resource idle", [("id", text id), ("priority", toString priority)]⟩
  | retiredFreed id => ⟨.debug, "retired resource released", [("id", text id)]⟩
  | waiterVanished id ticket =>
    ⟨.warn, "waiter vanished before handoff", [("id", text id), ("ticket", toString ticket)]⟩
  | leftUnranked id =>
    ⟨.warn, "idle queue full; resource left out of rotation", [("id", text id)]⟩
  | withdrew id ticket =>
    ⟨.debug, "waiter withdrew", [("id", text id), ("ticket", toString ticket)]⟩
  | passedOn id ticket verdict =>
    ⟨.debug, "abandoned ownership passed on",
      [("id", text id), ("ticket", toString ticket),
        ("outcome", Handover.describeVerdict text verdict)]⟩

/-- The events of handing a resource over, but for its verdict. -/
def ofHanding {ρ : Type} (id : ι) (h : Broker.Handing ι ρ) : List (Event ι) :=
  (if h.freed then [retiredFreed id] else [])
    ++ h.vanished.map (fun signal => waiterVanished id signal.ticket)
    ++ if h.unranked then [leftUnranked id] else []

end Event

end Custody
