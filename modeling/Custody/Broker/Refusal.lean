import Custody.Text.Quoted
import Custody.Text.Structure

/-!
# Refusals

Why a broker turns a caller away. A full waiting queue is no refusal: the caller
is parked until there is room.
-/

namespace Custody

/-- Why a call to a broker failed; `ι` are the ids of resources. -/
inductive Refusal (ι : Type)
  /-- The id is registered, or still held from before it was unregistered. -/
  | duplicateId (id : ι)
  | notRegistered (id : ι)
  | notHeld (id : ι)
  /-- The broker already has as many resources as it takes. -/
  | capacityExhausted (limit : UInt64)
  /-- The resource was unregistered while the caller waited for it. -/
  | unregistered (id : ι)
  | cancelled
  | timedOut
  | invalidSettings (reason : String)
  deriving DecidableEq, Repr

namespace Refusal

variable {ι : Type}

/-- The name of the kind of refusal. -/
def tag : Refusal ι → String
  | duplicateId _ => "DuplicateId"
  | notRegistered _ => "NotRegistered"
  | notHeld _ => "NotHeld"
  | capacityExhausted _ => "CapacityExhausted"
  | unregistered _ => "Unregistered"
  | cancelled => "Cancelled"
  | timedOut => "Timeout"
  | invalidSettings _ => "InvalidConfig"

def invalidMessage (reason : String) : String := "invalid configuration: " ++ reason

def message (text : ι → String) : Refusal ι → String
  | duplicateId id => "duplicate resource id: " ++ text id
  | notRegistered id => "resource not registered: " ++ text id
  | notHeld id => "resource not held: " ++ text id
  | capacityExhausted limit => s!"broker capacity exhausted ({limit} resources)"
  | unregistered id => "resource unregistered while waiting: " ++ text id
  | cancelled => "acquire cancelled"
  | timedOut => "acquire timed out"
  | invalidSettings reason => invalidMessage reason

def describe (text : ι → String) (r : Refusal ι) : String :=
  match r with
  | duplicateId id | notRegistered id | notHeld id | unregistered id =>
    Text.applied r.tag (Text.quoted (text id))
  | capacityExhausted limit => Text.applied r.tag (toString limit)
  | invalidSettings reason => Text.applied r.tag (Text.quoted reason)
  | cancelled | timedOut => r.tag

end Refusal

end Custody
