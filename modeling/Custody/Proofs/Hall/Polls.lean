import Custody.Proofs.Hall.Arrivals

/-!
# Polls

What a poll does to the requests, and what it cannot do.

* `Hall.poll_eq`: a poll runs the request, and then looks at the clock;
* `Hall.Lasts`: what asking and giving up preserve, every poll preserves;
* `Hall.poll_finished`, `Hall.poll_pending`: a request is gone just when its poll had an
  outcome, and a poll without one leaves all other requests alone.
-/

namespace Custody

namespace Registry

variable {ι β : Type} [DecidableEq ι]

omit [DecidableEq ι] in
@[simp]
theorem keys_mapValues {γ : Type} (f : ι → β → γ) (r : Registry ι β) :
    (r.mapValues f).keys = r.keys := by
  simp [keys, mapValues, Function.comp_def]

theorem keys_put_of_some {r : Registry ι β} {key : ι} {old : β} (value : β)
    (known : r.get? key = some old) : (r.put key value).keys = r.keys := by
  obtain ⟨front, back, before, after⟩ := entries_put_of_some value known
  simp [keys, before, after]

theorem keys_erase (r : Registry ι β) (key : ι) : (r.erase key).keys = r.keys.erase key := by
  rw [r.nodup_keys.erase_eq_filter, keys, erase, keys, List.filter_map]
  congr 1
  apply List.filter_congr
  intro entry _
  simp [bne, Bool.beq_eq_decide_eq]

omit [DecidableEq ι] in
theorem length_keys (r : Registry ι β) : r.keys.length = r.size := List.length_map _

end Registry

namespace Hall

variable {ι ρ : Type} [DecidableEq ι] {h : Hall ι ρ} {k : RequestId} {r : Request ι ρ}

omit [DecidableEq ι] in
theorem keys_deliver (h : Hall ι ρ) (delivery : Option (RequestId × ρ)) :
    (h.deliver delivery).requests.keys = h.requests.keys := by
  cases delivery with
  | none => rfl
  | some sent => simp [deliver, changeRequests]

/-- Giving up a request ends no other. -/
theorem keys_abandon (h : Hall ι ρ) (r : Request ι ρ) :
    (h.abandon r).requests.keys = h.requests.keys := by
  unfold abandon
  split
  · unfold abandonSignal
    split
    · simp [report, notifyParked, discard, changeRequests]
    · split
      · simp [report, notifyParked, changeRequests, keys_deliver]
      · rfl
      · rfl
  · rfl
  · rfl

theorem keys_attempt (live : h.requests.get? k = some r) (r' : Request ι ρ) (wasParked : Bool) :
    (h.attempt k r' wasParked).2.requests.keys = h.requests.keys := by
  unfold attempt
  split
  · rfl
  · rfl
  · rfl
  · exact Registry.keys_put_of_some _ live
  · exact Registry.keys_put_of_some _ live

theorem keys_advance (live : h.requests.get? k = some r) (tie : Tie) :
    (h.advanceRequest tie k r).2.requests.keys = h.requests.keys := by
  unfold advanceRequest
  split
  · exact keys_attempt live r false
  · rfl
  · rfl
  · split
    · exact keys_abandon h r
    · rfl
  · split
    · rfl
    · split
      · exact keys_attempt live r true
      · rfl

/-- The hall when a poll of the request begins. -/
def look (h : Hall ι ρ) (k : RequestId) (r : Request ι ρ) : Hall ι ρ :=
  h.setRequest k (r.polledAt h.now)

omit [DecidableEq ι] in
theorem requests_look (h : Hall ι ρ) (k : RequestId) (r : Request ι ρ) :
    (h.look k r).requests.get? k = some (r.polledAt h.now) := by
  simp [look]

theorem look_coherent (coherent : h.Coherent) (live : h.requests.get? k = some r) :
    (h.look k r).Coherent := coherent.setRequest live rfl rfl

/-- A poll runs the request, and gives it up if it must wait and its time is over. -/
theorem poll_eq (live : h.requests.get? k = some r) (tie : Tie) :
    h.poll tie k = match (h.look k r).advanceRequest tie k (r.polledAt h.now) with
      | (some outcome, h') => (some outcome, h'.remove k)
      | (none, h') =>
        if (r.polledAt h.now).isOverdue h'.now then (some (.error .timedOut), h'.drop k)
        else (none, h') := by
  simp only [poll, live]
  rfl

/-- A request whose signal was discarded ends, and nothing else happens. -/
theorem poll_discarded_eq (live : h.requests.get? k = some r) {ticket : UInt64}
    (stage : r.stage = .queued ticket .discarded) (tie : Tie) :
    h.poll tie k = (some (.error (.unregistered r.target)), (h.look k r).remove k) := by
  have advanced : (h.look k r).advanceRequest tie k (r.polledAt h.now) =
      (some (.error (.unregistered r.target)), h.look k r) := by
    simp [advanceRequest, stage]
  rw [poll_eq live, advanced]

/-! ### What requests cannot change -/

/-- What holds of a hall and lasts as long as all that happens is that requests ask, take
what they were sent, and give up. -/
structure Lasts (P : Hall ι ρ → Prop) : Prop where
  attempt : ∀ {h : Hall ι ρ}, P h → ∀ k r wasParked, P (h.attempt k r wasParked).2
  abandon : ∀ {h : Hall ι ρ}, P h → ∀ r, P (h.abandon r)
  woken : ∀ {h : Hall ι ρ}, P h → ∀ id ticket, P (h.report [.woken id ticket])
  setRequest : ∀ {h : Hall ι ρ}, P h → ∀ k r, P (h.setRequest k r)
  remove : ∀ {h : Hall ι ρ}, P h → ∀ k, P (h.remove k)

namespace Lasts

variable {P : Hall ι ρ → Prop}

theorem advance (lasts : Lasts P) (before : P h) (tie : Tie) (k : RequestId)
    (r : Request ι ρ) : P (h.advanceRequest tie k r).2 := by
  unfold advanceRequest
  split
  · exact lasts.attempt before k r false
  · exact lasts.woken before _ _
  · exact before
  · split
    · exact lasts.abandon before r
    · exact before
  · split
    · exact before
    · split
      · exact lasts.attempt before k r true
      · exact before

theorem drop (lasts : Lasts P) (before : P h) (k : RequestId) : P (h.drop k) := by
  unfold Hall.drop
  split
  · exact before
  · exact lasts.remove (lasts.abandon before _) k

theorem poll (lasts : Lasts P) (before : P h) (tie : Tie) (k : RequestId) :
    P (h.poll tie k).2 := by
  cases live : h.requests.get? k with
  | none =>
    simp only [Hall.poll, live]
    exact before
  | some r =>
    have looked : P (h.look k r) := lasts.setRequest before k _
    have advanced := lasts.advance looked tie k (r.polledAt h.now)
    rw [poll_eq live]
    rcases hadvance : (h.look k r).advanceRequest tie k (r.polledAt h.now) with ⟨_ | outcome, h'⟩
    · rw [hadvance] at advanced
      simp only
      split
      · exact lasts.drop advanced k
      · exact advanced
    · rw [hadvance] at advanced
      exact lasts.remove advanced k

end Lasts

/-! ### Numbers of requests -/

omit [DecidableEq ι] in
theorem nextRequest_deliver (h : Hall ι ρ) (delivery : Option (RequestId × ρ)) :
    (h.deliver delivery).nextRequest = h.nextRequest := by
  cases delivery <;> rfl

theorem nextRequest_abandon (h : Hall ι ρ) (r : Request ι ρ) :
    (h.abandon r).nextRequest = h.nextRequest := by
  unfold abandon
  split
  · unfold abandonSignal
    split
    · rfl
    · split
      · exact nextRequest_deliver _ _
      · rfl
      · rfl
  · rfl
  · rfl

theorem nextRequest_attempt (h : Hall ι ρ) (k : RequestId) (r : Request ι ρ)
    (wasParked : Bool) : (h.attempt k r wasParked).2.nextRequest = h.nextRequest := by
  unfold attempt
  split <;> rfl

theorem lasts_nextRequest (n : RequestId) :
    Lasts fun h : Hall ι ρ => h.nextRequest = n where
  attempt next k r wasParked := (nextRequest_attempt _ k r wasParked).trans next
  abandon next r := (nextRequest_abandon _ r).trans next
  woken next _ _ := next
  setRequest next _ _ := next
  remove next _ := next

/-! ### Requests after a poll -/

theorem keys_drop (h : Hall ι ρ) (k : RequestId) :
    (h.drop k).requests.keys = h.requests.keys.erase k := by
  unfold drop
  split
  · rename_i gone
    rw [List.erase_of_not_mem]
    rw [Registry.mem_keys_iff, gone]
    simp
  · rw [remove, Registry.keys_erase, keys_abandon]

/-- The polled request is gone just when it has an outcome. -/
theorem keys_poll (h : Hall ι ρ) (tie : Tie) (k : RequestId) :
    match (h.poll tie k).1 with
    | some _ => k ∈ h.requests.keys ∧ (h.poll tie k).2.requests.keys = h.requests.keys.erase k
    | none => (h.poll tie k).2.requests.keys = h.requests.keys := by
  cases live : h.requests.get? k with
  | none => simp [poll, live]
  | some r =>
    have mem : k ∈ h.requests.keys := by simp [Registry.mem_keys_iff, live]
    have looked : (h.look k r).requests.keys = h.requests.keys :=
      Registry.keys_put_of_some _ live
    have advanced := keys_advance (requests_look h k r) tie
    rw [looked] at advanced
    have polled := poll_eq live tie
    rcases hadvance : (h.look k r).advanceRequest tie k (r.polledAt h.now) with ⟨_ | outcome, h'⟩
    · rw [hadvance] at advanced polled
      simp only at polled
      split at polled
      · rw [polled]
        exact ⟨mem, by rw [keys_drop, advanced]⟩
      · rw [polled]
        exact advanced
    · rw [hadvance] at advanced polled
      simp only at polled
      rw [polled]
      exact ⟨mem, by rw [remove, Registry.keys_erase, advanced]⟩

/-- A poll without an outcome leaves all other requests alone. -/
theorem poll_pending (coherent : h.Coherent) {tie : Tie} (live : h.requests.get? k = some r)
    (pending : (h.poll tie k).1 = none) {j : RequestId} (other : j ≠ k) :
    (h.poll tie k).2.requests.get? j = h.requests.get? j := by
  have looked : (h.look k r).requests.get? j = h.requests.get? j := by simp [look, other]
  have advance := advance_cases (look_coherent coherent live) tie k (r.polledAt h.now)
  have polled := poll_eq live tie
  rcases hadvance : (h.look k r).advanceRequest tie k (r.polledAt h.now) with ⟨_ | outcome, h'⟩
  · rw [hadvance] at advance polled
    simp only at advance polled
    split at polled
    · simp [polled] at pending
    · rw [polled, ← looked]
      cases advance with
      | asked wasParked stage attempt =>
        cases attempt with
        | full => simp [other]
        | queued => simp [report, setRequest, other]
      | waiting => rfl
  · simp [polled, hadvance] at pending

end Hall

end Custody
