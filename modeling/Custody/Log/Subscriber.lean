import Custody.Log.Filter

/-!
# Subscribers

Where the lines of the log go. There is at most one subscriber, and whoever comes
first stays.

* `Subscriber.install`: puts a subscriber in place unless there is one;
* `Subscriber.written`: the lines that are written.
-/

namespace Custody.Log

/-- Who takes the lines. -/
inductive Subscriber
  | nobody
  /-- Somebody who drops them. -/
  | silent
  /-- They are written if the filter shows them. -/
  | writer (filter : Filter)
  deriving DecidableEq, Repr

/-- The filter of an embedder that names none. -/
def defaultFilter : String := "prometheus_broker=info"

/-- The origin of the lines of a broker. -/
def brokerOrigin : String := "prometheus_broker::core::broker"

namespace Subscriber

def isSet : Subscriber → Bool
  | nobody => false
  | silent => true
  | writer _ => true

/-- The filter of the environment if it has a well-formed one, or the fallback. -/
def chooseFilter (environment : Option String) (fallback : String) : Filter :=
  match environment.bind Filter.ofText? with
  | some filter => filter
  | none => Filter.ofTextLossy fallback

/-- Puts a writer in place if nobody is there. -/
def install (environment : Option String) (fallback : String) (s : Subscriber) : Subscriber :=
  match s with
  | nobody => writer (chooseFilter environment fallback)
  | silent => silent
  | writer filter => writer filter

/-- The lines that are written of those from an origin. -/
def written (s : Subscriber) (origin : String) (lines : List Line) : List String :=
  match s with
  | nobody => []
  | silent => []
  | writer filter =>
    (lines.filter (filter.shows origin)).map (Line.textFrom origin)

end Subscriber

end Custody.Log
