import Custody.Proofs.Hall.Order

/-!
# Chronicles

A run as those outside the hall see it: the resources that were handed out and not given
up, and the requests in the order in which they came to wait.

* `Chronicle.next`: the chronicle after one more operation;
* `Chronicle.Reachable`: the chronicles of runs in which clients keep to some rule.
-/

namespace Custody

open Hall (Operation Answer)

/-- A run so far. -/
structure Chronicle (ι ρ : Type) where
  hall : Hall ι ρ
  /-- What was handed out and not given up since. -/
  held : List ι
  /-- For each id, the requests that came to stand in line since it was last registered, in
  that order. -/
  arrivals : ι → List RequestId

namespace Hall

variable {ι ρ : Type} [DecidableEq ι]

/-- The id whose resource an operation hands out by its answer. -/
def handedOut (h : Hall ι ρ) : Operation ι ρ → Answer ι ρ → Option ι
  | .poll request _, .outcome (.ok _) => (h.requests.get? request).map Request.target
  | .takeAny, .taken (some (id, _)) => some id
  | _, _ => none

end Hall

namespace Chronicle

variable {ι ρ : Type} [DecidableEq ι]

def opening (settings : Settings) : Chronicle ι ρ where
  hall := .opening (.empty settings)
  held := []
  arrivals := fun _ => []

/-- What is held after an operation. Giving up a resource ends a hold, whatever it is
answered. -/
def heldAfter (c : Chronicle ι ρ) (op : Operation ι ρ) (answer : Answer ι ρ) : List ι :=
  match op with
  | .release _ id => c.held.erase id
  | _ => (c.hall.handedOut op answer).toList ++ c.held

/-- The arrivals after an operation, which led to the hall. -/
def arrivalsAfter (c : Chronicle ι ρ) (op : Operation ι ρ) (answer : Answer ι ρ)
    (hall : Hall ι ρ) (x : ι) : List RequestId :=
  match op, answer with
  | .register id _ _, .verdict (.ok _) => if x = id then [] else c.arrivals x
  | .poll k _, _ =>
    if hall.awaits x k && !c.hall.awaits x k then c.arrivals x ++ [k] else c.arrivals x
  | _, _ => c.arrivals x

/-- The chronicle with one more operation. -/
def next (c : Chronicle ι ρ) (op : Operation ι ρ) : Chronicle ι ρ :=
  let (answer, hall) := c.hall.step op
  { hall := hall
    held := c.heldAfter op answer
    arrivals := c.arrivalsAfter op answer hall }

/-- The chronicle with more operations, one after the other. -/
def run (c : Chronicle ι ρ) (ops : List (Operation ι ρ)) : Chronicle ι ρ := ops.foldl next c

/-- The chronicles of runs in which clients only do what they may. -/
inductive Reachable (settings : Settings) (may : Chronicle ι ρ → Operation ι ρ → Prop) :
    Chronicle ι ρ → Prop
  | start : Reachable settings may (opening settings)
  | next {c : Chronicle ι ρ} (op : Operation ι ρ) (allowed : may c op) :
      Reachable settings may c → Reachable settings may (c.next op)

/-- Nothing is forbidden. -/
def Anything (_ : Chronicle ι ρ) (_ : Operation ι ρ) : Prop := True

/-- A resource is given up only while it is held. -/
def Honest (c : Chronicle ι ρ) (op : Operation ι ρ) : Prop :=
  ∀ priority id, op = .release priority id → id ∈ c.held

theorem Reachable.hall {settings : Settings} {may : Chronicle ι ρ → Operation ι ρ → Prop}
    {c : Chronicle ι ρ} (reachable : c.Reachable settings may) : c.hall.Reachable settings := by
  induction reachable with
  | start => exact .start
  | next op _ _ ih => exact .next op ih

theorem run_cons (c : Chronicle ι ρ) (op : Operation ι ρ) (rest : List (Operation ι ρ)) :
    c.run (op :: rest) = (c.next op).run rest := rfl

theorem hall_run (c : Chronicle ι ρ) (ops : List (Operation ι ρ)) :
    (c.run ops).hall = (c.hall.run ops).2 := by
  induction ops generalizing c with
  | nil => rfl
  | cons op rest ih => exact ih (c.next op)

/-- Operations that are always allowed can follow. -/
theorem Reachable.run_allowed {settings : Settings} {may : Chronicle ι ρ → Operation ι ρ → Prop}
    {c : Chronicle ι ρ} (reachable : c.Reachable settings may) {ops : List (Operation ι ρ)}
    (allowed : ∀ op ∈ ops, ∀ c, may c op) : (c.run ops).Reachable settings may := by
  induction ops generalizing c with
  | nil => exact reachable
  | cons op rest ih =>
    have next := Reachable.next op (allowed op List.mem_cons_self c) reachable
    exact ih next fun op mem => allowed op (List.mem_cons_of_mem _ mem)

/-- Where nothing is given up, everybody is honest. -/
theorem Reachable.run_kept {settings : Settings} {c : Chronicle ι ρ}
    (reachable : c.Reachable settings Honest) {ops : List (Operation ι ρ)}
    (kept : ∀ op ∈ ops, ∀ priority id, op ≠ .release priority id) :
    (c.run ops).Reachable settings Honest :=
  reachable.run_allowed fun op mem _ priority id heq => absurd heq (kept op mem priority id)

theorem Reachable.run {settings : Settings} {c : Chronicle ι ρ}
    (reachable : c.Reachable settings Anything) (ops : List (Operation ι ρ)) :
    (c.run ops).Reachable settings Anything :=
  reachable.run_allowed fun _ _ _ => trivial

end Chronicle

end Custody
