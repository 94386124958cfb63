import Custody.Broker.Basic

/-!
# Requests

A request for one resource, from its start until it has an outcome or is given
up. It makes progress only when it is polled.
-/

namespace Custody

/-- When a caller stops waiting. -/
inductive Patience
  | unlimited
  /-- When the token is cancelled. -/
  | token (name : String)
  /-- So many milliseconds after the first poll. -/
  | limit (milliseconds : Nat)
  deriving DecidableEq, Repr

/-- What has become of a signal. -/
inductive Mail (ρ : Type)
  | awaited
  | sent (resource : ρ)
  | discarded
  deriving DecidableEq, Repr

/-- How far a request has come. -/
inductive Stage (ρ : Type)
  /-- It was never polled. -/
  | fresh
  /-- It has a signal in the waiting queue, or had one there. -/
  | queued (ticket : UInt64) (mail : Mail ρ)
  /-- The waiting queue was full. It tries again once it is notified. -/
  | parked (notified : Bool)
  deriving DecidableEq, Repr

/-- A request for one resource. -/
structure Request (ι ρ : Type) where
  target : ι
  patience : Patience
  deadline : Option Nat
  stage : Stage ρ
  /-- Something happened since the last poll that it was waiting for. -/
  woken : Bool
  deriving DecidableEq, Repr

namespace Request

variable {ι ρ : Type}

def start (target : ι) (patience : Patience) : Request ι ρ where
  target := target
  patience := patience
  deadline := none
  stage := .fresh
  woken := false

/-- The request was polled before. -/
def isUnderway (r : Request ι ρ) : Bool :=
  match r.stage with
  | .fresh => false
  | .queued _ _ => true
  | .parked _ => true

/-- The last millisecond that the clock can be waited for. -/
def lastMoment : Nat := UInt64.size - 3

/-- The request at the start of a poll. The first poll sets the deadline. -/
def polledAt (r : Request ι ρ) (now : Nat) : Request ι ρ :=
  let deadline :=
    match r.stage, r.patience with
    | .fresh, .limit milliseconds => some (min (now + milliseconds) lastMoment)
    | _, _ => r.deadline
  { r with woken := false, deadline := deadline }

/-- The time has come to stop waiting. -/
def isOverdue (r : Request ι ρ) (now : Nat) : Bool :=
  match r.deadline with
  | some deadline => deadline ≤ now
  | none => false

/-- Hands the request the mail of its signal. -/
def receive (r : Request ι ρ) (mail : Mail ρ) : Request ι ρ :=
  match r.stage with
  | .queued ticket _ => { r with stage := .queued ticket mail, woken := true }
  | .fresh => r
  | .parked _ => r

/-- Tells a parked request that a waiting queue may have room. -/
def notify (r : Request ι ρ) : Request ι ρ :=
  match r.stage with
  | .parked _ => { r with stage := .parked true, woken := true }
  | .fresh => r
  | .queued _ _ => r

/-- Wakes a request that has been polled. -/
def wake (r : Request ι ρ) : Request ι ρ :=
  if r.isUnderway then { r with woken := true } else r

end Request

end Custody
