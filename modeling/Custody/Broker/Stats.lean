import Custody.Broker.Basic
import Custody.Json.Text

/-!
# Counts of a broker

How many resources, holders and waiting callers a broker has at one moment.

* `Broker.stats`: the counts of a broker;
* `Broker.Stats.toJson`: their written form.
-/

namespace Custody

/-- Counts of a broker at one moment. -/
structure Broker.Stats where
  registered : Nat
  idle : Nat
  busy : Nat
  waiting : Nat
  retired : Nat
  maxResources : UInt64
  deriving DecidableEq, Repr, Inhabited

def Broker.stats {ι ρ : Type} (b : Broker ι ρ) : Broker.Stats where
  registered := b.records.size
  idle := b.idle.size
  busy := b.records.values.countP (·.busy)
  waiting := (b.records.values.map (·.waiters.size)).foldr (· + ·) 0
  retired := b.retired.length
  maxResources := b.settings.maxResources

namespace Broker.Stats

/-- The counts by name, in the order in which they are written. -/
def fields (s : Stats) : List (String × String) :=
  [("registered", toString s.registered), ("idle", toString s.idle), ("busy", toString s.busy),
    ("waiting", toString s.waiting), ("retired", toString s.retired),
    ("max_resources", toString s.maxResources)]

def describe (s : Stats) : String := Text.record "BrokerStats" s.fields

/-- The written form, an object without blanks. -/
def toJson (s : Stats) : String :=
  "\x7b" ++ ",".intercalate (s.fields.map fun (name, count) => Json.quote name ++ ":" ++ count)
    ++ "\x7d"

end Broker.Stats

end Custody
