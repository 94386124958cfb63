import Custody.Proofs.Hall.Coherent

/-!
# Requests that do nothing

What can happen to a request through the moves of others.

* `Stage.Later`: what was sent stays sent, what was discarded stays discarded, and who was
  notified stays notified;
* `Hall.Moves.bystander`: nobody ends the request of another, and all that changes about it
  wakes it.
-/

namespace Custody

/-- How a stage may change while the request does nothing. -/
def Stage.Later {ρ : Type} : Stage ρ → Stage ρ → Prop
  | .fresh, s => s = .fresh
  | .queued ticket mail, s => ∃ mail', s = .queued ticket mail' ∧ (mail ≠ .awaited → mail' = mail)
  | .parked notified, s => ∃ notified', s = .parked notified' ∧ (notified = true → notified' = true)

namespace Stage

variable {ρ : Type} {s s' s'' : Stage ρ}

theorem Later.rfl : s.Later s := by
  cases s <;> simp [Later]

theorem Later.trans (h : s.Later s') (h' : s'.Later s'') : s.Later s'' := by
  cases s with
  | fresh =>
    cases h
    exact h'
  | queued ticket mail =>
    obtain ⟨mail', rfl, kept⟩ := h
    obtain ⟨mail'', rfl, kept'⟩ := h'
    refine ⟨mail'', Eq.refl _, fun opened => ?_⟩
    have same := kept opened
    rw [kept' (same ▸ opened), same]
  | parked notified =>
    obtain ⟨notified', rfl, kept⟩ := h
    obtain ⟨notified'', rfl, kept'⟩ := h'
    exact ⟨notified'', Eq.refl _, fun was => kept' (kept was)⟩

end Stage

namespace Request

variable {ι ρ : Type}

theorem later_notify (r : Request ι ρ) : r.stage.Later r.notify.stage := by
  rw [stage_notify]
  cases r.stage <;> simp [Stage.Later]

theorem later_wake (r : Request ι ρ) (c : Prop) [Decidable c] :
    r.stage.Later (if c then r.wake else r).stage := by
  rw [stage_wake]
  exact .rfl

/-- Only a request that awaits its signal gets mail. -/
theorem later_receive (r : Request ι ρ) (mail : Mail ρ) {ticket : UInt64}
    (stage : r.stage = .queued ticket .awaited) : r.stage.Later (r.receive mail).stage := by
  rw [stage_receive]
  simp [stage, Stage.Later]

theorem told_both (r : Request ι ρ) (mail : Mail ρ) (c : Prop) [Decidable c] :
    Told r ((if c then r.receive mail else r).notify) := by
  refine Told.trans ?_ (told_notify _)
  split
  · exact told_receive r mail
  · exact .rfl

theorem later_told {r : Request ι ρ} {mail : Mail ρ} {c : Prop} [Decidable c]
    (inLine : c → ∃ ticket, r.stage = .queued ticket .awaited) :
    r.stage.Later ((if c then r.receive mail else r).notify).stage := by
  refine Stage.Later.trans ?_ (later_notify _)
  split
  · rename_i hc
    obtain ⟨ticket, stage⟩ := inLine hc
    exact later_receive r mail stage
  · exact .rfl

end Request

namespace Hall

variable {ι ρ : Type} [DecidableEq ι] {h h' : Hall ι ρ} {actor : Option RequestId}
  {transfers : List (Transfer ι)} {k : RequestId} {r : Request ι ρ}

/-- All that an incident changes about a request wakes it. -/
theorem Incident.bystander (incident : h.Incident actor transfers h') (coherent : h.Coherent)
    (live : h.requests.get? k = some r) :
    ∃ r', h'.requests.get? k = some r' ∧ r.Told r' ∧ r.stage.Later r'.stage := by
  cases incident with
  | report | unrank | register | take | free => exact ⟨r, live, .rfl, .rfl⟩
  | notify => exact ⟨r.notify, by simp [live], r.told_notify, r.later_notify⟩
  | @unregister b id =>
    have live' := requests_notifyParked ({ h with broker := b }.discard (h.broker.line id)) k
    rw [requests_discard, live] at live'
    refine ⟨_, live', r.told_both .discarded _, Request.later_told ?_⟩
    intro mem
    simp only [List.any_eq_true, decide_eq_true_eq] at mem
    obtain ⟨signal, mem, rfl⟩ := mem
    exact ⟨_, (coherent.listening id signal mem r live).2⟩
  | @send _ b id record signal rest held first =>
    obtain ⟨gone, split, _, _⟩ := dropWhile_split first
    have live' := requests_notifyParked
      ({ h with broker := b }.deliver (some (signal.request, record.resource))) k
    rw [requests_deliver, live] at live'
    refine ⟨_, live', r.told_both (.sent record.resource) _, Request.later_told ?_⟩
    rintro rfl
    exact ⟨_, (coherent.listening id signal (by simp [split]) r live).2⟩
  | idle => exact ⟨r.notify, by simp [live], r.told_notify, r.later_notify⟩
  | start target patience new =>
    have hne := Nat.ne_of_lt (Nat.lt_of_lt_of_le (coherent.numbered k r live) new)
    exact ⟨r, by simpa [hne] using live, .rfl, .rfl⟩
  | cancel token =>
    exact ⟨if r.patience = .token token then r.wake else r, by simp [Hall.cancel, live],
      r.told_wake _, r.later_wake _⟩
  | elapse milliseconds =>
    exact ⟨if r.isOverdue (h.now + milliseconds) then r.wake else r, by simp [Hall.elapse, live],
      r.told_wake _, r.later_wake _⟩

theorem Move.bystander (move : h.Move actor transfers h') (coherent : h.Coherent)
    (other : actor ≠ some k) (live : h.requests.get? k = some r) :
    ∃ r', h'.requests.get? k = some r' ∧ r.Told r' ∧ r.stage.Later r'.stage := by
  cases move with
  | incident incident => exact incident.bystander coherent live
  | @quit b j quitter ticket mail signal _ _ found =>
    obtain ⟨front, back, split, _⟩ := find?_split found
    have hne : k ≠ j := fun heq => other (heq ▸ rfl)
    have live' := requests_remove (({ h with broker := b }.discard [signal]).notifyParked) k j
    rw [if_neg hne, requests_notifyParked, requests_discard, live] at live'
    refine ⟨_, live', r.told_both .discarded _, Request.later_told ?_⟩
    intro mem
    simp only [List.any_cons, List.any_nil, Bool.or_false, decide_eq_true_eq] at mem
    subst mem
    exact ⟨_, (coherent.listening quitter.target signal (by simp [split]) r live).2⟩
  | finish | join | park | look =>
    have hne : k ≠ _ := fun heq => other (heq ▸ rfl)
    exact ⟨r, by simpa [Hall.report, hne] using live, .rfl, .rfl⟩

theorem Moves.bystander (moves : Moves actor h transfers h') (coherent : h.Coherent)
    (other : actor ≠ some k) (live : h.requests.get? k = some r) :
    ∃ r', h'.requests.get? k = some r' ∧ r.Told r' ∧ r.stage.Later r'.stage := by
  induction moves generalizing r with
  | done => exact ⟨r, live, .rfl, .rfl⟩
  | next move _ ih =>
    obtain ⟨r', live', told, later⟩ := move.bystander coherent other live
    obtain ⟨r'', live'', told', later'⟩ := ih (move.coherent coherent) live'
    exact ⟨r'', live'', told.trans told', later.trans later'⟩

/-- A request was there before an incident, or was started by it. -/
theorem Incident.live_before {r' : Request ι ρ} (incident : h.Incident actor transfers h')
    (live : h'.requests.get? k = some r') :
    (∃ r, h.requests.get? k = some r) ∨ h.nextRequest ≤ k ∧ r'.stage = .fresh := by
  cases incident with
  | report | unrank | register | take | free => exact .inl ⟨r', live⟩
  | notify | idle =>
    rw [requests_notifyParked, Option.map_eq_some_iff] at live
    obtain ⟨r, live, _⟩ := live
    exact .inl ⟨r, live⟩
  | send | unregister =>
    simp only [requests_notifyParked, requests_discard, requests_deliver,
      Option.map_eq_some_iff] at live
    obtain ⟨_, ⟨r, live, _⟩, _⟩ := live
    exact .inl ⟨r, live⟩
  | @start _ k' target patience new =>
    rw [requests_setRequest] at live
    split at live
    · rename_i heq
      rw [Option.some.injEq] at live
      exact .inr ⟨heq ▸ new, live ▸ rfl⟩
    · exact .inl ⟨r', live⟩
  | cancel | elapse =>
    simp only [Hall.cancel, Hall.elapse, requests_changeRequests, Option.map_eq_some_iff] at live
    obtain ⟨r, live, _⟩ := live
    exact .inl ⟨r, live⟩

theorem Move.live_before {r' : Request ι ρ} (move : h.Move actor transfers h')
    (other : actor ≠ some k) (live : h'.requests.get? k = some r') :
    (∃ r, h.requests.get? k = some r) ∨ h.nextRequest ≤ k ∧ r'.stage = .fresh := by
  cases move with
  | incident incident => exact incident.live_before live
  | quit =>
    have hne : k ≠ _ := fun heq => other (heq ▸ rfl)
    simp only [requests_remove, if_neg hne, requests_notifyParked, requests_discard,
      Option.map_eq_some_iff] at live
    obtain ⟨_, ⟨r, live, _⟩, _⟩ := live
    exact .inl ⟨r, live⟩
  | finish | join | park | look =>
    have hne : k ≠ _ := fun heq => other (heq ▸ rfl)
    exact .inl ⟨r', by simpa [Hall.report, hne] using live⟩

/-- What a request may have been before a move that is not its own. -/
theorem Incident.before {r' : Request ι ρ} (incident : h.Incident actor transfers h')
    (coherent : h.Coherent) (live' : h'.requests.get? k = some r') :
    (∃ r, h.requests.get? k = some r ∧ r.Told r' ∧ r.stage.Later r'.stage) ∨
      h.nextRequest ≤ k ∧ r'.stage = .fresh := by
  rcases incident.live_before live' with ⟨r, live⟩ | fresh
  · obtain ⟨r'', live'', told, later⟩ := incident.bystander coherent live
    obtain rfl : r'' = r' := by simpa [live'] using live''.symm
    exact .inl ⟨r, live, told, later⟩
  · exact .inr fresh

theorem Move.before {r' : Request ι ρ} (move : h.Move actor transfers h') (coherent : h.Coherent)
    (other : actor ≠ some k) (live' : h'.requests.get? k = some r') :
    (∃ r, h.requests.get? k = some r ∧ r.Told r' ∧ r.stage.Later r'.stage) ∨
      h.nextRequest ≤ k ∧ r'.stage = .fresh := by
  rcases move.live_before other live' with ⟨r, live⟩ | fresh
  · obtain ⟨r'', live'', told, later⟩ := move.bystander coherent other live
    obtain rfl : r'' = r' := by simpa [live'] using live''.symm
    exact .inl ⟨r, live, told, later⟩
  · exact .inr fresh

end Hall

end Custody
