import Custody.Proofs.Broker.Apart
import Custody.Proofs.Hall.Limits
import Custody.Proofs.Hall.Polls

/-!
# Halls that differ in one id

Two halls may agree on every id but one, and on the requests for every id but one. What
happens to that id is not noticed from the others.

* `Hall.AgreeOff`: the same but for one id, tickets and notifications aside;
* `Hall.step_apart`: an operation on an id changes nothing off it.
-/

namespace Custody

/-- A stage without its ticket, and without what a parked request was told. -/
def Stage.outline {ρ : Type} : Stage ρ → Stage ρ
  | .fresh => .fresh
  | .queued _ mail => .queued 0 mail
  | .parked _ => .parked true

namespace Request

variable {ι ρ : Type} {r r' : Request ι ρ}

/-- A request without its ticket, and without what it was told that changes nothing. -/
def outline (r : Request ι ρ) : Request ι ρ := { r with stage := r.stage.outline, woken := false }

theorem outline_eq_iff : r'.outline = r.outline ↔ r'.target = r.target ∧
    r'.patience = r.patience ∧ r'.deadline = r.deadline ∧ r'.stage.outline = r.stage.outline := by
  simp [outline]

@[simp]
theorem outline_notify (r : Request ι ρ) : r.notify.outline = r.outline := by
  have told := told_notify r
  refine outline_eq_iff.2 ⟨told.target, told.patience, told.deadline, ?_⟩
  rw [stage_notify]
  cases r.stage <;> rfl

theorem outline_wake (r : Request ι ρ) (c : Prop) [Decidable c] :
    (if c then r.wake else r).outline = r.outline := by
  have told := told_wake r c
  refine outline_eq_iff.2 ⟨told.target, told.patience, told.deadline, ?_⟩
  rw [stage_wake]

theorem outline_receive (same : r'.outline = r.outline) (mail : Mail ρ) :
    (r'.receive mail).outline = (r.receive mail).outline := by
  obtain ⟨target, patience, deadline, stage⟩ := outline_eq_iff.1 same
  have told := told_receive r mail
  have told' := told_receive r' mail
  refine outline_eq_iff.2 ⟨?_, ?_, ?_, ?_⟩
  · rw [told.target, told'.target, target]
  · rw [told.patience, told'.patience, patience]
  · rw [told.deadline, told'.deadline, deadline]
  · rw [stage_receive, stage_receive]
    cases hr : r.stage <;> cases hr' : r'.stage <;> simp_all [Stage.outline]

theorem outline_received (same : r'.outline = r.outline) (mail : Mail ρ) (c : Prop)
    [Decidable c] : (if c then r'.receive mail else r').outline =
      (if c then r.receive mail else r).outline := by
  split
  · exact outline_receive same mail
  · exact same

theorem outline_polledAt (same : r'.outline = r.outline) (now : Nat) :
    (r'.polledAt now).outline = (r.polledAt now).outline := by
  obtain ⟨target, patience, deadline, stage⟩ := outline_eq_iff.1 same
  refine outline_eq_iff.2 ⟨target, patience, ?_, stage⟩
  simp only [polledAt, patience, deadline]
  cases hr : r.stage <;> cases hr' : r'.stage <;> simp_all [Stage.outline]

theorem isOverdue_congr (same : r'.outline = r.outline) (now : Nat) :
    r'.isOverdue now = r.isOverdue now := by
  rw [isOverdue, isOverdue, (outline_eq_iff.1 same).2.2.1]

end Request

namespace Hall

variable {ι ρ : Type} [DecidableEq ι] {h h' g g' : Hall ι ρ} {x y : ι} {k : RequestId}
  {r r' : Request ι ρ}

/-- A request that is for another id, in outline. -/
def seenOff (h : Hall ι ρ) (x : ι) (k : RequestId) : Option (Request ι ρ) :=
  ((h.requests.get? k).filter fun r => r.target ≠ x).map Request.outline

theorem seenOff_of_get? (live : h.requests.get? k = some r) :
    h.seenOff x k = if r.target = x then none else some r.outline := by
  by_cases target : r.target = x <;> simp [seenOff, live, Option.filter, target]

theorem seenOff_of_gone (gone : h.requests.get? k = none) : h.seenOff x k = none := by
  simp [seenOff, gone]

theorem seenOff_eq_none_iff :
    h.seenOff x k = none ↔ ∀ r, h.requests.get? k = some r → r.target = x := by
  cases live : h.requests.get? k with
  | none => simp [seenOff_of_gone live]
  | some r => simp [seenOff_of_get? live]

/-- Two halls are the same but for one id and its requests, tickets and notifications
aside. -/
structure AgreeOff (x : ι) (h g : Hall ι ρ) : Prop where
  broker : Broker.AgreeOff x h.broker g.broker
  seen : ∀ k, g.seenOff x k = h.seenOff x k
  cancelled : g.cancelled = h.cancelled
  now : g.now = h.now

namespace AgreeOff

theorem refl (x : ι) (h : Hall ι ρ) : AgreeOff x h h := ⟨.refl x _, fun _ => rfl, rfl, rfl⟩

theorem symm (agree : AgreeOff x h g) : AgreeOff x g h where
  broker := agree.broker.symm
  seen k := (agree.seen k).symm
  cancelled := agree.cancelled.symm
  now := agree.now.symm

theorem trans {i : Hall ι ρ} (first : AgreeOff x h g) (second : AgreeOff x g i) :
    AgreeOff x h i where
  broker := first.broker.trans second.broker
  seen k := (second.seen k).trans (first.seen k)
  cancelled := second.cancelled.trans first.cancelled
  now := second.now.trans first.now

/-- A request for another id is there in both halls or in neither. -/
theorem seen_cases (agree : AgreeOff x h g) (k : RequestId) :
    ((∀ r, h.requests.get? k = some r → r.target = x) ∧
      ∀ r, g.requests.get? k = some r → r.target = x) ∨
    ∃ r r', h.requests.get? k = some r ∧ g.requests.get? k = some r' ∧ r.target ≠ x ∧
      r'.outline = r.outline := by
  have same := agree.seen k
  cases off : h.seenOff x k with
  | none =>
    rw [off] at same
    exact .inl ⟨seenOff_eq_none_iff.1 off, seenOff_eq_none_iff.1 same⟩
  | some s =>
    rw [off] at same
    have found : ∀ {i : Hall ι ρ}, i.seenOff x k = some s →
        ∃ r, i.requests.get? k = some r ∧ r.target ≠ x ∧ r.outline = s := by
      intro i seen
      cases live : i.requests.get? k with
      | none => simp [seenOff_of_gone live] at seen
      | some r =>
        rw [seenOff_of_get? live] at seen
        split at seen
        · cases seen
        · rename_i other
          exact ⟨r, rfl, other, Option.some.inj seen⟩
    obtain ⟨r, live, other, outline⟩ := found off
    obtain ⟨r', live', _, outline'⟩ := found same
    exact .inr ⟨r, r', live, live', other, outline'.trans outline.symm⟩

end AgreeOff

/-! ### Changes that are not noticed -/

theorem withBroker_apart {b : Broker ι ρ} (agree : Broker.AgreeOff x h.broker b) :
    AgreeOff x h { h with broker := b } := ⟨agree, fun _ => rfl, rfl, rfl⟩

theorem report_apart (x : ι) (h : Hall ι ρ) (events : List (Event ι)) :
    AgreeOff x h (h.report events) := ⟨.refl x _, fun _ => rfl, rfl, rfl⟩

/-- Requests change, and those for other ids do in nothing that counts. -/
theorem changeRequests_apart {f : RequestId → Request ι ρ → Request ι ρ}
    (target : ∀ k r, (f k r).target = r.target)
    (same : ∀ k r, h.requests.get? k = some r → r.target ≠ x → (f k r).outline = r.outline) :
    AgreeOff x h (h.changeRequests f) where
  broker := .refl x _
  seen k := by
    cases live : h.requests.get? k with
    | none =>
      rw [seenOff_of_gone live, seenOff_of_gone]
      simp [live]
    | some r =>
      have live' : (h.changeRequests f).requests.get? k = some (f k r) := by simp [live]
      rw [seenOff_of_get? live, seenOff_of_get? live', target]
      split
      · rfl
      · rename_i other
        rw [same k r live other]
  cancelled := rfl
  now := rfl

theorem notifyParked_apart (x : ι) (h : Hall ι ρ) : AgreeOff x h h.notifyParked :=
  changeRequests_apart (fun _ r => (r.told_notify).target) fun _ r _ _ => r.outline_notify

theorem deliver_apart {delivery : Option (RequestId × ρ)}
    (own : ∀ j resource, delivery = some (j, resource) → ∀ r, h.requests.get? j = some r →
      r.target = x) : AgreeOff x h (h.deliver delivery) := by
  cases delivery with
  | none => exact .refl x h
  | some sent =>
    obtain ⟨j, resource⟩ := sent
    refine changeRequests_apart (fun k r => r.target_received _ _) fun k r live other => ?_
    rw [if_neg]
    rintro rfl
    exact other (own k resource rfl r live)

theorem discard_apart {signals : List Signal}
    (own : ∀ signal ∈ signals, ∀ r, h.requests.get? signal.request = some r → r.target = x) :
    AgreeOff x h (h.discard signals) := by
  refine changeRequests_apart (fun k r => r.target_received _ _) fun k r live other => ?_
  rw [if_neg]
  simp only [List.any_eq_true, decide_eq_true_eq]
  rintro ⟨signal, mem, rfl⟩
  exact other (own signal mem r live)

theorem setRequest_apart (target : r.target = x)
    (own : ∀ old, h.requests.get? k = some old → old.target = x) :
    AgreeOff x h (h.setRequest k r) where
  broker := .refl x _
  seen j := by
    by_cases hj : j = k
    · subst hj
      have live' : (h.setRequest j r).requests.get? j = some r := by simp
      rw [seenOff_of_get? live', if_pos target, seenOff_eq_none_iff.2 own]
    · simp [seenOff, hj]
  cancelled := rfl
  now := rfl

theorem remove_apart (own : ∀ old, h.requests.get? k = some old → old.target = x) :
    AgreeOff x h (h.remove k) where
  broker := .refl x _
  seen j := by
    by_cases hj : j = k
    · subst hj
      rw [seenOff_eq_none_iff.2 own, seenOff_of_gone]
      simp
    · simp [seenOff, hj]
  cancelled := rfl
  now := rfl

/-! ### Operations on the id itself -/

/-- What is given up goes to someone in line. -/
theorem delivery_own (coherent : h.Coherent) (x : ι) (priority : Priority) (j : RequestId)
    (resource : ρ)
    (sent : (h.broker.handOver h.listens x priority).delivery = some (j, resource))
    (r : Request ι ρ) (live : h.requests.get? j = some r) : r.target = x := by
  have valid := coherent.broker
  rcases hbusy : h.broker.isBusy? x with _ | _ | _
  · rw [(Broker.handOver_unknown valid hbusy h.listens priority).2.1] at sent
    cases sent
  · rw [(Broker.handOver_free hbusy h.listens priority).2.1] at sent
    cases sent
  · cases first : (h.broker.line x).dropWhile fun signal => !h.listens signal.request with
    | nil =>
      rw [(Broker.handOver_idle valid hbusy first priority).2.1] at sent
      cases sent
    | cons signal rest =>
      obtain ⟨_, _, _, delivery, _⟩ := Broker.handOver_waiter valid hbusy first priority
      rw [delivery, Option.some.injEq, Prod.mk.injEq] at sent
      obtain ⟨rfl, _⟩ := sent
      have listening : signal ∈ (h.broker.line x).dropWhile fun signal =>
          !h.listens signal.request := by simp [first]
      have mem := (List.dropWhile_sublist _).mem listening
      exact (coherent.listening x signal mem r live).1

theorem abandonSignal_apart (coherent : h.Coherent) (x : ι) (ticket : UInt64) (mail : Mail ρ) :
    AgreeOff x h (h.abandonSignal x ticket mail) := by
  unfold abandonSignal
  split
  · rename_i signal b left
    have own : ∀ other ∈ [signal], ∀ r, h.requests.get? other.request = some r →
        r.target = x := by
      intro other mem r live
      obtain rfl := List.mem_singleton.1 mem
      obtain ⟨entry, known, _, found, _⟩ := Broker.leave_edit coherent.broker left
      have mem := List.mem_of_find?_eq_some found
      rw [← Broker.line_of_onRecord? known] at mem
      exact (coherent.listening x other mem r live).1
    refine (withBroker_apart (Broker.leave_apart coherent.broker left)).trans ?_
    refine (discard_apart (h := { h with broker := b }) own).trans ?_
    exact (notifyParked_apart x _).trans (report_apart x _ _)
  · split
    · have passed := Broker.handOver_apart coherent.broker h.listens x (h.broker.lastPriority x)
      refine (withBroker_apart passed).trans ?_
      refine (deliver_apart ?_).trans ((notifyParked_apart x _).trans (report_apart x _ _))
      exact delivery_own coherent x (h.broker.lastPriority x)
    · exact .refl x h
    · exact .refl x h

theorem abandon_apart (coherent : h.Coherent) (target : r.target = x) :
    AgreeOff x h (h.abandon r) := by
  unfold abandon
  split
  · exact target ▸ abandonSignal_apart coherent r.target _ _
  · exact .refl x h
  · exact .refl x h

theorem drop_apart (coherent : h.Coherent)
    (own : ∀ r, h.requests.get? k = some r → r.target = x) : AgreeOff x h (h.drop k) := by
  unfold drop
  split
  · exact .refl x h
  · rename_i r live
    have abandoned := abandon_apart coherent (own r live)
    refine abandoned.trans (remove_apart ?_)
    have seen := abandoned.seen k
    rw [seenOff_eq_none_iff.2 own] at seen
    exact seenOff_eq_none_iff.1 seen

theorem attempt_apart (coherent : h.Coherent) (target : r.target = x)
    (own : ∀ old, h.requests.get? k = some old → old.target = x) (wasParked : Bool) :
    AgreeOff x h (h.attempt k r wasParked).2 := by
  subst target
  have asked := Broker.request_apart coherent.broker r.target k (h.isCancelled r)
  have written : ∀ {b : Broker ι ρ}, Broker.AgreeOff r.target h.broker b → ∀ stage,
      AgreeOff r.target h ({ h with broker := b }.setRequest k { r with stage := stage }) :=
    fun {b} agree stage => (withBroker_apart agree).trans
      (setRequest_apart (h := { h with broker := b }) rfl own)
  unfold attempt
  split <;> (rename_i heq; rw [heq] at asked)
  · exact withBroker_apart asked
  · exact (withBroker_apart asked).trans (report_apart r.target _ _)
  · exact withBroker_apart asked
  · exact written asked _
  · exact (written asked _).trans (report_apart r.target _ _)

theorem advance_apart (coherent : h.Coherent) (target : r.target = x)
    (own : ∀ old, h.requests.get? k = some old → old.target = x) (tie : Tie) :
    AgreeOff x h (h.advanceRequest tie k r).2 := by
  unfold advanceRequest
  split
  · exact attempt_apart coherent target own false
  · exact report_apart x h _
  · exact .refl x h
  · split
    · exact abandon_apart coherent target
    · exact .refl x h
  · split
    · exact .refl x h
    · split
      · exact attempt_apart coherent target own true
      · exact .refl x h

theorem poll_apart (coherent : h.Coherent)
    (own : ∀ r, h.requests.get? k = some r → r.target = x) (tie : Tie) :
    AgreeOff x h (h.poll tie k).2 := by
  cases live : h.requests.get? k with
  | none =>
    simp only [poll, live]
    exact .refl x h
  | some r =>
    have coherent' := look_coherent coherent live
    have live' := requests_look h k r
    have target : (r.polledAt h.now).target = x := own r live
    have looked : AgreeOff x h (h.look k r) := setRequest_apart target own
    have own' : ∀ old, (h.look k r).requests.get? k = some old → old.target = x := by
      intro old live
      rw [live', Option.some.injEq] at live
      exact live ▸ target
    have advanced := looked.trans (advance_apart coherent' target own' tie)
    have advance := advance_cases coherent' tie k (r.polledAt h.now)
    have polled := poll_eq live tie
    rcases hadvance : (h.look k r).advanceRequest tie k (r.polledAt h.now) with ⟨_ | outcome, h₁⟩
    · rw [hadvance] at advanced advance polled
      have coherent₁ := (advance_moves coherent' live' advance).1.coherent coherent'
      have seen := advanced.seen k
      rw [seenOff_eq_none_iff.2 own] at seen
      simp only at polled
      split at polled
      · rw [polled]
        exact advanced.trans (drop_apart coherent₁ (seenOff_eq_none_iff.1 seen))
      · rw [polled]
        exact advanced
    · rw [hadvance] at advanced polled
      have seen := advanced.seen k
      rw [seenOff_eq_none_iff.2 own] at seen
      simp only at polled
      rw [polled]
      exact advanced.trans (remove_apart (seenOff_eq_none_iff.1 seen))

theorem register_apart (coherent : h.Coherent) (x : ι) (resource : ρ)
    (priority? : Option Priority) : AgreeOff x h (h.register x resource priority?).2 := by
  simp only [register]
  split
  · exact .refl x h
  · rename_i hok
    exact (withBroker_apart (Broker.register_apart coherent.broker hok)).trans (report_apart x _ _)

theorem unregister_apart (coherent : h.Coherent) (x : ι) :
    AgreeOff x h (h.unregister x).2 := by
  have gone := Broker.unregister_apart coherent.broker x
  unfold unregister
  cases known : h.broker.onRecord? x with
  | none =>
    rw [Broker.unregister_of_unknown coherent.broker known]
    exact .refl x h
  | some entry =>
    obtain ⟨record, outline, ok, _⟩ := Broker.unregister_edit coherent.broker known
    have waiting : record.waiters.toList = h.broker.line x := by
      rw [Broker.line_of_onRecord? known, ← outline]
      rfl
    rcases heq : h.broker.unregister x with ⟨result, b⟩
    rw [heq] at ok gone
    obtain rfl : result = .ok record := ok
    refine (withBroker_apart gone).trans ?_
    refine (discard_apart (h := { h with broker := b }) fun signal mem r live => ?_).trans
      ((notifyParked_apart x _).trans (report_apart x _ _))
    exact (coherent.listening x signal (waiting ▸ mem) r live).1

theorem release_apart (coherent : h.Coherent) (priority : Priority) (x : ι) :
    AgreeOff x h (h.release priority x).2 := by
  have passed := Broker.handOver_apart coherent.broker h.listens x priority
  have told := (withBroker_apart passed).trans
    (report_apart x _ (Event.ofHanding x (h.broker.handOver h.listens x priority)))
  unfold release
  simp only
  split
  · exact told
  · refine told.trans ((deliver_apart ?_).trans ((notifyParked_apart x _).trans
      (report_apart x _ _)))
    exact delivery_own coherent x priority

theorem withdraw_apart (coherent : h.Coherent) (x : ι) : AgreeOff x h (h.withdraw x).2 :=
  withBroker_apart (Broker.withdraw_apart coherent.broker x)

theorem start_apart (coherent : h.Coherent) (k : RequestId) (x : ι) (patience : Patience) :
    AgreeOff x h (h.start k x patience).2 := by
  unfold start
  split
  · exact .refl x h
  · rename_i new
    have given : AgreeOff x h { h with nextRequest := k + 1 } :=
      ⟨.refl x _, fun _ => rfl, rfl, rfl⟩
    refine given.trans (setRequest_apart rfl fun old live => ?_)
    exact absurd (coherent.numbered k old live) new

end Hall

end Custody
