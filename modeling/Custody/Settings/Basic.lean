import Custody.ServingOrder
import Custody.Text.Structure

/-!
# Settings of a broker

How many resources a broker takes, how many callers may queue for each of them,
and in which order idle resources are handed out.

* `Settings.validate`: both capacities must be positive, the resources' first.
-/

namespace Custody

/-- The settings of one broker. -/
structure Settings where
  maxResources : UInt64
  waiterCapacity : UInt64
  order : ServingOrder
  /-- The priority of a resource that is registered without one. -/
  defaultPriority : Priority
  deriving DecidableEq, Repr

namespace Settings

def standard : Settings where
  maxResources := 64
  waiterCapacity := 16
  order := .ascending
  defaultPriority := 0

instance : Inhabited Settings := ⟨standard⟩

/-- A capacity that no broker can work with. -/
inductive Fault
  | noResources
  | noWaiters
  deriving DecidableEq, Repr

def Fault.message : Fault → String
  | .noResources => "max_resources must be greater than 0"
  | .noWaiters => "waiter_capacity must be greater than 0"

/-- Refuses settings with a capacity of zero. -/
def validate (s : Settings) : Except Fault Unit :=
  if s.maxResources = 0 then .error .noResources
  else if s.waiterCapacity = 0 then .error .noWaiters
  else .ok ()

/-- The settings themselves, once validated. -/
def validated (s : Settings) : Except Fault Settings := s.validate.map fun _ => s

def describe (s : Settings) : String :=
  Text.record "BrokerConfig"
    [("max_resources", toString s.maxResources), ("waiter_capacity", toString s.waiterCapacity),
      ("order", s.order.tag), ("default_priority", toString s.defaultPriority)]

theorem validate_eq_ok (s : Settings) :
    s.validate = .ok () ↔ s.maxResources ≠ 0 ∧ s.waiterCapacity ≠ 0 := by
  unfold validate
  split
  · simp [*]
  · split <;> simp [*]

end Settings

end Custody
