import Custody.Broker.Hall
import Custody.Proofs.Broker.Change
import Mathlib.Data.List.TakeWhile

/-!
# Requests after a change of the hall

What a look-up among the requests finds after each change that operations are made of,
and what the requests were told meanwhile.

* `Request.Told`: a request is as before, or it was woken;
* `Hall.Reachable`: the halls that some run of operations leads to.
-/

namespace Custody

namespace Request

variable {ι ρ : Type}

/-- The request was sent the resource and did not take it yet. -/
def isSent (r : Request ι ρ) : Bool :=
  match r.stage with
  | .queued _ (.sent _) => true
  | .queued _ .awaited => false
  | .queued _ .discarded => false
  | .fresh => false
  | .parked _ => false

/-- The request has a signal in line and no answer yet. -/
def isAwaiting (r : Request ι ρ) : Bool :=
  match r.stage with
  | .queued _ .awaited => true
  | .queued _ (.sent _) => false
  | .queued _ .discarded => false
  | .fresh => false
  | .parked _ => false

/-- What a request was told changes neither what it wants nor how long it waits, and
wakes it. -/
structure Told (r r' : Request ι ρ) : Prop where
  target : r'.target = r.target
  patience : r'.patience = r.patience
  deadline : r'.deadline = r.deadline
  heard : r' = r ∨ r'.woken = true

theorem Told.rfl {r : Request ι ρ} : Told r r := ⟨Eq.refl _, Eq.refl _, Eq.refl _, .inl (Eq.refl _)⟩

theorem Told.trans {r r' r'' : Request ι ρ} (h : Told r r') (h' : Told r' r'') : Told r r'' where
  target := h'.target.trans h.target
  patience := h'.patience.trans h.patience
  deadline := h'.deadline.trans h.deadline
  heard := by
    rcases h'.heard with heq | hwoken
    · exact heq ▸ h.heard
    · exact .inr hwoken

theorem told_receive (r : Request ι ρ) (mail : Mail ρ) : Told r (r.receive mail) := by
  unfold receive
  split
  · exact ⟨rfl, rfl, rfl, .inr rfl⟩
  · exact .rfl
  · exact .rfl

theorem told_notify (r : Request ι ρ) : Told r r.notify := by
  unfold notify
  split
  · exact ⟨rfl, rfl, rfl, .inr rfl⟩
  · exact .rfl
  · exact .rfl

theorem told_wake (r : Request ι ρ) (c : Prop) [Decidable c] :
    Told r (if c then r.wake else r) := by
  unfold wake
  split
  · split
    · exact ⟨rfl, rfl, rfl, .inr rfl⟩
    · exact .rfl
  · exact .rfl

theorem stage_wake (r : Request ι ρ) (c : Prop) [Decidable c] :
    (if c then r.wake else r).stage = r.stage := by
  unfold wake
  split
  · split <;> rfl
  · rfl

@[simp]
theorem stage_polledAt (r : Request ι ρ) (now : Nat) : (r.polledAt now).stage = r.stage := rfl

@[simp]
theorem target_polledAt (r : Request ι ρ) (now : Nat) : (r.polledAt now).target = r.target := rfl

/-- The stage of a request after its signal brought mail. -/
theorem stage_receive (r : Request ι ρ) (mail : Mail ρ) :
    (r.receive mail).stage =
      match r.stage with
      | .queued ticket _ => .queued ticket mail
      | .fresh => .fresh
      | .parked notified => .parked notified := by
  unfold receive
  split <;> simp_all

theorem stage_notify (r : Request ι ρ) :
    r.notify.stage =
      match r.stage with
      | .parked _ => .parked true
      | .fresh => .fresh
      | .queued ticket mail => .queued ticket mail := by
  unfold notify
  split <;> simp_all

/-- Of a request that got mail, or was notified, only one that got none awaits any. -/
theorem stage_told_iff (r : Request ι ρ) {mail : Mail ρ} (opened : mail ≠ .awaited) (c : Prop)
    [Decidable c] (ticket : UInt64) :
    ((if c then r.receive mail else r).notify).stage = .queued ticket .awaited ↔
      r.stage = .queued ticket .awaited ∧ ¬c := by
  split
  · rw [stage_notify, stage_receive]
    cases r.stage <;> simp_all
  · rw [stage_notify]
    cases r.stage <;> simp_all

/-- What becomes of the mail of a request that gets mail, or is notified. -/
theorem stage_told_queued {r : Request ι ρ} {ticket : UInt64} {mail : Mail ρ}
    (stage : r.stage = .queued ticket mail) (mail' : Mail ρ) (c : Prop) [Decidable c] :
    ((if c then r.receive mail' else r).notify).stage =
      .queued ticket (if c then mail' else mail) := by
  split <;> simp [stage_notify, stage_receive, stage]

theorem stage_notify_ne (r : Request ι ρ) : r.notify.stage ≠ .parked false := by
  rw [stage_notify]
  cases r.stage <;> simp

theorem target_received (r : Request ι ρ) (mail : Mail ρ) (c : Prop) [Decidable c] :
    (if c then r.receive mail else r).target = r.target := by
  split
  · exact (told_receive r mail).target
  · rfl

theorem target_told (r : Request ι ρ) (mail : Mail ρ) (c : Prop) [Decidable c] :
    ((if c then r.receive mail else r).notify).target = r.target := by
  rw [(told_notify _).target, target_received]

end Request

namespace Hall

/-! ### Look-ups -/

section Lookups

variable {ι ρ : Type} (h : Hall ι ρ) (k : RequestId)

@[simp]
theorem requests_setRequest (id : RequestId) (r : Request ι ρ) :
    (h.setRequest id r).requests.get? k = if k = id then some r else h.requests.get? k := by
  simp [setRequest]

@[simp]
theorem requests_remove (id : RequestId) :
    (h.remove id).requests.get? k = if k = id then none else h.requests.get? k := by
  simp [remove]

@[simp]
theorem requests_changeRequests (f : RequestId → Request ι ρ → Request ι ρ) :
    (h.changeRequests f).requests.get? k = (h.requests.get? k).map (f k) := by
  simp [changeRequests]

@[simp]
theorem requests_notifyParked :
    h.notifyParked.requests.get? k = (h.requests.get? k).map Request.notify := by
  simp [notifyParked]

@[simp]
theorem requests_discard (signals : List Signal) :
    (h.discard signals).requests.get? k = (h.requests.get? k).map fun r =>
      if signals.any fun signal => signal.request = k then r.receive .discarded else r := by
  simp [discard]

@[simp]
theorem requests_deliver (id : RequestId) (resource : ρ) :
    (h.deliver (some (id, resource))).requests.get? k = (h.requests.get? k).map fun r =>
      if k = id then r.receive (.sent resource) else r := by
  simp [deliver]

theorem isCancelled_congr {h h' : Hall ι ρ} (same : h'.cancelled = h.cancelled)
    (r : Request ι ρ) : h'.isCancelled r = h.isCancelled r := by
  simp [isCancelled, same]

end Lookups

section Lines

variable {ι ρ : Type} {h : Hall ι ρ} {line rest : List Signal} {signal : Signal}

/-- Those at the front of a line whose requests are over do not count. -/
theorem dropWhile_split
    (first : line.dropWhile (fun signal => !h.listens signal.request) = signal :: rest) :
    ∃ gone, line = gone ++ signal :: rest ∧ h.listens signal.request = true ∧
      ∀ signal ∈ gone, h.requests.get? signal.request = none := by
  have ne : line.dropWhile (fun signal => !h.listens signal.request) ≠ [] := by simp [first]
  have head := List.head_dropWhile_not (fun signal : Signal => !h.listens signal.request) ne
  refine ⟨line.takeWhile fun signal => !h.listens signal.request, ?_, ?_, ?_⟩
  · rw [← first, List.takeWhile_append_dropWhile]
  · simpa [first] using head
  · intro other hmem
    have hgone := List.mem_takeWhile_imp hmem
    rw [← Registry.contains_eq_false_iff]
    simpa [listens] using hgone

theorem dropWhile_nil
    (nobody : line.dropWhile (fun signal => !h.listens signal.request) = []) :
    ∀ signal ∈ line, h.requests.get? signal.request = none := by
  intro signal hmem
  have hgone := List.dropWhile_eq_nil_iff.1 nobody signal hmem
  rw [← Registry.contains_eq_false_iff]
  simpa [listens] using hgone

end Lines

/-! ### Runs -/

variable {ι ρ : Type} [DecidableEq ι]

/-- The halls that operations lead to, from a broker that nobody has called yet. -/
inductive Reachable (settings : Settings) : Hall ι ρ → Prop
  | start : Reachable settings (.opening (.empty settings))
  | next {h : Hall ι ρ} (op : Operation ι ρ) :
      Reachable settings h → Reachable settings (h.step op).2

theorem run_append (h : Hall ι ρ) (ops later : List (Operation ι ρ)) :
    h.run (ops ++ later) =
      ((h.run ops).1 ++ ((h.run ops).2.run later).1, ((h.run ops).2.run later).2) := by
  induction ops generalizing h with
  | nil => rfl
  | cons op rest ih => simp only [List.cons_append, run, ih]

theorem run_concat (h : Hall ι ρ) (ops : List (Operation ι ρ)) (op : Operation ι ρ) :
    h.run (ops ++ [op]) =
      ((h.run ops).1 ++ [((h.run ops).2.step op).1], ((h.run ops).2.step op).2) :=
  run_append h ops [op]

theorem length_run (h : Hall ι ρ) (ops : List (Operation ι ρ)) :
    (h.run ops).1.length = ops.length := by
  induction ops generalizing h with
  | nil => rfl
  | cons op rest ih => exact congrArg (· + 1) (ih (h.step op).2)

theorem Reachable.run {settings : Settings} {h : Hall ι ρ} (reachable : Reachable settings h)
    (ops : List (Operation ι ρ)) : Reachable settings (h.run ops).2 := by
  induction ops generalizing h with
  | nil => exact reachable
  | cons op rest ih => exact ih (.next op reachable)

end Hall

end Custody
