import Custody.Proofs.Broker.Priorities
import Custody.Proofs.Hall.Limits
import Custody.Proofs.Hall.Ownership
import Custody.Proofs.Hall.Polls

/-!
# What is under way

Which operations send a resource to a request, and which write its priority.

* `Hall.step_isSent`: a resource is under way only if it was before, or is given up;
* `Hall.step_keepsPriority`: only registering and giving up write a priority.
-/

namespace Custody

/-! ### Resources under way -/

namespace Hall

variable {ι ρ : Type} [DecidableEq ι] {h h' : Hall ι ρ} {actor : Option RequestId}
  {transfers : List (Transfer ι)} {x : ι} {j k : RequestId}

/-- A request that is written anew was not sent the resource by that. -/
theorem isSent_of_setRequest {r : Request ι ρ} (sent : (h.setRequest k r).isSent x j = true)
    (kept : isSentTo x r = true → h.isSent x k = true) : h.isSent x j = true := by
  rw [isSent, requests_setRequest] at sent
  split at sent
  · rename_i heq
    exact heq ▸ kept sent
  · exact sent

theorem isSent_of_remove (sent : (h.remove k).isSent x j = true) : h.isSent x j = true := by
  rw [isSent, requests_remove] at sent
  split at sent
  · cases sent
  · exact sent

theorem Incident.isSent_before (incident : h.Incident actor transfers h')
    (coherent : h.Coherent) (sent : h'.isSent x j = true) :
    h.isSent x j = true ∨ .given x ∈ transfers := by
  cases incident with
  | report | unrank | register | take | free => exact .inl sent
  | notify | idle =>
    rw [isSent_notifyParked] at sent
    exact .inl sent
  | @unregister b id =>
    left
    rwa [isSent_discard (h := { h with broker := b })] at sent
    intro signal mem r live
    exact ⟨_, (coherent.listening id signal mem r live).2⟩
  | @send _ b id record signal rest held first =>
    by_cases hx : x = id
    · exact .inr (by simp [hx])
    · left
      obtain ⟨gone, split, _⟩ := dropWhile_split first
      rw [isSent_notifyParked, isSent, requests_deliver, Option.any_map] at sent
      obtain ⟨r, live, passes⟩ := (Option.any_eq_true _ _).1 sent
      by_cases hj : j = signal.request
      · have target := (coherent.listening id signal (by simp [split]) r (hj ▸ live)).1
        simp [hj, isSentTo, (Request.told_receive r _).target, target, Ne.symm hx] at passes
      · simp only [if_neg hj] at passes
        exact (Option.any_eq_true _ _).2 ⟨r, live, passes⟩
  | start target patience new =>
    refine .inl (isSent_of_setRequest sent ?_)
    simp [isSentTo, Request.isSent, Request.start]
  | cancel token =>
    left
    simpa [isSent, Hall.cancel, Option.any_map, Function.comp_def, isSentTo_wake] using sent
  | elapse milliseconds =>
    left
    simpa [isSent, Hall.elapse, Option.any_map, Function.comp_def, isSentTo_wake] using sent

/-- Nobody is sent a resource but by a move that gives it up. -/
theorem Move.isSent_before (move : h.Move actor transfers h') (coherent : h.Coherent)
    (sent : h'.isSent x j = true) : h.isSent x j = true ∨ .given x ∈ transfers := by
  cases move with
  | incident incident => exact incident.isSent_before coherent sent
  | @quit b k r ticket mail signal live stage found =>
    left
    have sent := isSent_of_remove sent
    rwa [isSent_discard (h := { h with broker := b })] at sent
    intro other mem s live'
    obtain rfl := List.mem_singleton.1 mem
    have inLine := List.mem_of_find?_eq_some found
    exact ⟨_, (coherent.listening r.target other inLine s live').2⟩
  | finish => exact .inl (isSent_of_remove sent)
  | @join b k r live =>
    refine .inl (isSent_of_setRequest (h := { h with broker := b }) sent ?_)
    simp [isSentTo, Request.isSent]
  | park =>
    refine .inl (isSent_of_setRequest sent ?_)
    simp [isSentTo, Request.isSent]
  | look live =>
    refine .inl (isSent_of_setRequest sent fun passes => ?_)
    rw [isSent_of_get? live]
    exact passes

theorem Moves.isSent_before (moves : Moves actor h transfers h') (coherent : h.Coherent)
    (sent : h'.isSent x j = true) : h.isSent x j = true ∨ .given x ∈ transfers := by
  induction moves with
  | done => exact .inl sent
  | next move _ ih =>
    rcases ih (move.coherent coherent) sent with sent | given
    · rcases move.isSent_before coherent sent with sent | given
      · exact .inl sent
      · exact .inr (List.mem_append_left _ given)
    · exact .inr (List.mem_append_right _ given)

/-- A resource is under way only if it was before, or is given up. -/
theorem step_isSent (coherent : h.Coherent) {op : Operation ι ρ}
    (sent : (h.step op).2.isSent x j = true) :
    (∃ i, h.isSent x i = true) ∨ ∃ priority, op = .release priority x := by
  have quiet : ∀ {transfers}, Moves op.actor h transfers (h.step op).2 →
      .given x ∉ transfers → (∃ i, h.isSent x i = true) ∨ ∃ priority, op = .release priority x := by
    intro transfers moves nothing
    exact .inl ⟨j, (moves.isSent_before coherent sent).resolve_right nothing⟩
  cases op with
  | register id resource priority? =>
    exact quiet (register_moves coherent id resource priority?) (by simp)
  | unregister id => exact quiet (unregister_moves coherent id) (by simp)
  | start request id patience => exact quiet (start_moves none request id patience) (by simp)
  | cancel token => exact quiet (Incident.cancel token).moves (by simp)
  | elapse milliseconds => exact quiet (Incident.elapse milliseconds).moves (by simp)
  | withdraw id => exact quiet (withdraw_moves coherent none id) (by simp)
  | takeAny => exact quiet (takeAny_moves coherent none) (by simp)
  | poll k tie =>
    cases live : h.requests.get? k with
    | none => exact .inl ⟨j, by simpa [step_poll, poll, live] using sent⟩
    | some r =>
      have moves := (poll_moves coherent tie live).1
      rw [← step_poll] at moves
      exact quiet moves (by simp)
  | drop k =>
    cases live : h.requests.get? k with
    | none => exact .inl ⟨j, by simpa [step, drop, live] using sent⟩
    | some r =>
      obtain ⟨transfers, moves, ⟨hsent, rfl⟩ | ⟨rfl, _⟩⟩ := drop_moves coherent live
      · rcases moves.isSent_before coherent sent with before | given
        · exact .inl ⟨j, before⟩
        · have target : x = r.target := by simpa using given
          exact .inl ⟨k, by simp [isSent_of_get? live, isSentTo, target, hsent]⟩
      · refine quiet moves ?_
        unfold Request.takings
        split <;> simp
  | release priority id =>
    rcases (release_moves coherent none priority id).isSent_before coherent sent with before | given
    · exact .inl ⟨j, before⟩
    · have hx : x = id := by
        split at given
        · simpa using given
        · cases given
      exact .inr ⟨priority, by rw [hx]⟩

/-! ### Priorities -/

theorem abandon_keeps (h : Hall ι ρ) (r : Request ι ρ) (x : ι) :
    h.broker.KeepsPriority x (h.abandon r).broker := by
  unfold abandon
  split
  · unfold abandonSignal
    split
    · rename_i left
      exact Broker.leave_keeps left x
    · split
      · simp only [report, notifyParked, changeRequests, broker_deliver]
        exact Broker.handOver_keeps _ _ fun _ => rfl
      · exact .of_same rfl x
      · exact .of_same rfl x
  · exact .of_same rfl x
  · exact .of_same rfl x

theorem attempt_keeps (h : Hall ι ρ) (k : RequestId) (r : Request ι ρ) (wasParked : Bool)
    (x : ι) : h.broker.KeepsPriority x (h.attempt k r wasParked).2.broker := by
  have asked := h.broker.request_keeps r.target x k (h.isCancelled r)
  unfold attempt
  split <;> (rename_i heq; rw [heq] at asked; exact asked)

theorem lasts_keepsPriority (b : Broker ι ρ) (x : ι) :
    Lasts fun h : Hall ι ρ => b.KeepsPriority x h.broker where
  attempt keeps k r wasParked := keeps.trans (attempt_keeps _ k r wasParked x)
  abandon keeps r := keeps.trans (abandon_keeps _ r x)
  woken keeps _ _ := keeps
  setRequest keeps _ _ := keeps
  remove keeps _ := keeps

/-- Only registering an id and giving it up write its priority. -/
theorem step_keepsPriority (h : Hall ι ρ) {op : Operation ι ρ}
    (unregistered : ∀ resource priority?, op ≠ .register x resource priority?)
    (kept : ∀ priority, op ≠ .release priority x) :
    h.broker.KeepsPriority x (h.step op).2.broker := by
  have lasts := lasts_keepsPriority h.broker x
  have still : h.broker.KeepsPriority x h.broker := .of_same rfl x
  cases op with
  | register id resource priority? =>
    have other : x ≠ id := fun heq => unregistered resource priority? (by rw [heq])
    simp only [step, register]
    split
    · exact .of_same rfl x
    · rename_i hok
      exact Broker.register_keeps other hok
  | unregister id =>
    have gone := h.broker.unregister_keeps id x
    simp only [step, unregister]
    split <;> (rename_i heq; rw [heq] at gone; exact gone)
  | start k id patience =>
    simp only [step, start]
    split <;> exact .of_same rfl x
  | poll k tie =>
    rw [step_poll]
    exact lasts.poll still tie k
  | drop k => exact lasts.drop still k
  | cancel | elapse | withdraw => exact .of_same rfl x
  | takeAny =>
    have taken := h.broker.takeAny_keeps x
    simp only [step, takeAny]
    split <;> (rename_i heq; rw [heq] at taken; exact taken)
  | release priority id =>
    have other : x ≠ id := fun heq => kept priority (by rw [heq])
    simp only [step, release_broker]
    exact Broker.handOver_keeps _ _ fun heq => absurd heq other

end Hall

end Custody
