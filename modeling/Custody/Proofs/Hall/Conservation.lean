import Custody.Proofs.Hall.Wraparound

/-!
# Ownership is conserved

* `Hall.step_outstanding`, `Hall.release_outstanding`, `Hall.drop_outstanding`: what one
  operation does to the number of times that a resource is outside;
* `Chronicle.ownership_conserved`: as long as no one gives up what was not handed out to
  him, whatever is owned is held once, outside or by a request.
-/

namespace Custody

open Hall (Operation Answer)

namespace Hall

variable {ι ρ : Type} [DecidableEq ι] {h : Hall ι ρ}

theorem release_outstanding (coherent : h.Coherent) (priority : Priority) (id x : ι) :
    (h.release priority id).2.outstanding x =
      h.outstanding x + if x = id ∧ h.broker.IsOwned id then -1 else 0 := by
  rw [(release_moves coherent none priority id).outstanding coherent x]
  by_cases owned : h.broker.IsOwned id <;> simp [owned]

/-- A request that is dropped passes on what it was sent. If its ticket was given to another
since, it may fail to. -/
theorem drop_outstanding (coherent : h.Coherent) (k : RequestId) (x : ι) :
    h.outstanding x ≤ (h.drop k).outstanding x ∧
    (h.Ticketed → (h.isSent x k = true → h.broker.IsOwned x) →
      (h.drop k).outstanding x = h.outstanding x) := by
  cases live : h.requests.get? k with
  | none => simp [drop, live]
  | some r =>
    obtain ⟨transfers, moves, ends⟩ := drop_moves coherent live
    rw [moves.outstanding coherent x]
    rcases ends with ⟨_, rfl⟩ | ⟨rfl, excuse⟩
    · have balance : Transfer.net x [.given r.target, .taken r.target] = 0 := by
        rw [← List.singleton_append, Transfer.net_append]
        by_cases hx : x = r.target <;> simp [hx]
      rw [balance]
      exact ⟨by omega, fun _ _ => by omega⟩
    · rw [net_takings]
      refine ⟨by split <;> omega, fun ticketed owned => ?_⟩
      rw [isSent_of_get? live] at owned
      by_cases sent : isSentTo x r = true
      · have both := sent
        simp only [isSentTo, Bool.and_eq_true, decide_eq_true_eq] at both
        rcases excuse both.2 with strays | notOwned
        · exact absurd strays (ticketed.not_strays coherent live)
        · exact absurd (both.1 ▸ owned sent) notOwned
      · rw [if_neg sent]
        omega

/-- Every other operation hands out what it is seen to. -/
theorem step_outstanding (coherent : h.Coherent) {op : Operation ι ρ}
    (kept : ∀ priority id, op ≠ .release priority id) (stays : ∀ k, op ≠ .drop k) (x : ι) :
    (h.step op).2.outstanding x =
      h.outstanding x + if h.handedOut op (h.step op).1 = some x then 1 else 0 := by
  have silent : ∀ {h' : Hall ι ρ}, Moves none h [] h' →
      h'.outstanding x = h.outstanding x + 0 := fun moves => moves.outstanding coherent x
  cases op with
  | register id resource priority? => exact silent (register_moves coherent id resource priority?)
  | unregister id => exact silent (unregister_moves coherent id)
  | start request id patience => exact silent (start_moves none request id patience)
  | cancel token => exact silent ((Incident.cancel token).moves)
  | elapse milliseconds => exact silent ((Incident.elapse milliseconds).moves)
  | withdraw id => exact silent (withdraw_moves coherent none id)
  | drop k => exact absurd rfl (stays k)
  | release priority id => exact absurd rfl (kept priority id)
  | takeAny =>
    have moved := (takeAny_moves coherent none).outstanding coherent x
    have seen : h.handedOut .takeAny (.taken h.takeAny.1) = h.takeAny.1.map Prod.fst := by
      cases h.takeAny.1 <;> rfl
    rw [Transfer.net_toList, ← seen] at moved
    exact moved
  | poll k tie =>
    cases live : h.requests.get? k with
    | none => simp [step, poll, live, handedOut]
    | some r =>
      have moved := (poll_moves coherent tie live).1.outstanding coherent x
      have seen : h.handedOut (.poll k tie) (h.step (.poll k tie)).1 =
          outcomeTaken r.target (h.poll tie k).1 := by
        rcases polled : h.poll tie k with ⟨_ | _ | _, _⟩ <;>
          simp [step, polled, handedOut, outcomeTaken, live]
      rw [Transfer.net_toList, ← seen, ← step_poll] at moved
      exact moved

/-- Giving up the resource succeeds, or frees the id that was retired. -/
def Frees (h : Hall ι ρ) (priority : Priority) (x : ι) : Prop :=
  (h.release priority x).1 = .ok () ∨
    (h.release priority x).1 = .error (.notRegistered x) ∧ x ∈ h.broker.retired ∧
      x ∉ (h.release priority x).2.broker.retired

/-- What is owned can be given up. -/
theorem frees_of_owned (coherent : h.Coherent) {x : ι} (owned : h.broker.IsOwned x)
    (priority : Priority) : h.Frees priority x := by
  have valid := coherent.broker
  rcases owned with held | retired
  · left
    cases first : (h.broker.line x).dropWhile fun signal => !h.listens signal.request with
    | nil => exact release_of_ok (Broker.handOver_idle valid held first priority).1
    | cons signal rest =>
      obtain ⟨_, _, verdict, _⟩ := Broker.handOver_waiter valid held first priority
      exact release_of_ok verdict
  · have gone := valid.retired_gone x retired
    obtain ⟨verdict, _, _, _, change⟩ := Broker.handOver_unknown valid gone h.listens priority
    refine .inr ⟨by simp [release, verdict], retired, ?_⟩
    have freed : x ∉ (h.broker.handOver h.listens x priority).broker.retired := by
      simp [change.retired]
    simpa [release, verdict, report] using freed

end Hall

namespace Chronicle

variable {ι ρ : Type} [DecidableEq ι] {settings : Settings} {c : Chronicle ι ρ} {x : ι}

theorem heldAfter_of_kept {op : Operation ι ρ} (kept : ∀ priority id, op ≠ .release priority id)
    (answer : Answer ι ρ) :
    c.heldAfter op answer = (c.hall.handedOut op answer).toList ++ c.held := by
  cases op with
  | release priority id => exact absurd rfl (kept priority id)
  | _ => rfl

theorem count_handed (held : List ι) (found : Option ι) (x : ι) :
    ((found.toList ++ held).count x : Int) = held.count x + if found = some x then 1 else 0 := by
  cases found with
  | none => simp
  | some id => by_cases hx : id = x <;> simp [hx]

theorem owned_of_held (held : (c.held.count x : Int) ≤ c.hall.outstanding x)
    (holder : x ∈ c.held ∨ 0 < c.hall.inFlight x) : c.hall.broker.IsOwned x := by
  by_contra notOwned
  rw [Hall.outstanding, Broker.owners_of_not_owned notOwned] at held
  rcases holder with mem | flying
  · have positive := List.count_pos_iff.2 mem
    omega
  · omega

theorem outstanding_opening (x : ι) :
    (Hall.opening (.empty settings) : Hall ι ρ).outstanding x = 0 := by
  have notOwned : ¬(Broker.empty settings : Broker ι ρ).IsOwned x := by
    simp [Broker.IsOwned, Broker.empty, Broker.isBusy?]
  exact congrArg (fun n => n - Int.ofNat 0) (Broker.owners_of_not_owned notOwned)

/-- Nothing is held more often than it is outside, and until tickets come round, just as
often. -/
theorem Reachable.held_outstanding (reachable : c.Reachable settings Honest) (x : ι) :
    (c.held.count x : Int) ≤ c.hall.outstanding x ∧
    (c.hall.ticketsIssued < 2 ^ 64 → (c.held.count x : Int) = c.hall.outstanding x) := by
  induction reachable with
  | start => simp [opening, outstanding_opening]
  | @next c op allowed reachable ih =>
    have coherent := reachable.hall.coherent
    obtain ⟨_, moves⟩ := Hall.step_moves coherent op.isBy_actor
    have bound_before : (c.next op).hall.ticketsIssued < 2 ^ 64 → c.hall.ticketsIssued < 2 ^ 64 :=
      Nat.lt_of_le_of_lt moves.issued_le
    by_cases dropped : ∃ k, op = .drop k
    · obtain ⟨k, rfl⟩ := dropped
      obtain ⟨more, same⟩ := Hall.drop_outstanding coherent k x
      refine ⟨Int.le_trans ih.1 more, fun bound => ?_⟩
      have ticketed := reachable.hall.ticketed (bound_before bound)
      refine (ih.2 (bound_before bound)).trans (same ticketed fun sent => ?_).symm
      exact owned_of_held ih.1 (.inr (Hall.inFlight_pos_iff.2 ⟨k, sent⟩))
    · by_cases released : ∃ priority id, op = .release priority id
      · obtain ⟨priority, id, rfl⟩ := released
        have mem := allowed priority id rfl
        have moved : (c.next (.release priority id)).hall.outstanding x =
            c.hall.outstanding x + _ := Hall.release_outstanding coherent priority id x
        have held : (c.next (.release priority id)).held = c.held.erase id := rfl
        rw [moved, held]
        by_cases hx : x = id
        · subst hx
          have positive := List.count_pos_iff.2 mem
          have owned := owned_of_held ih.1 (.inl mem)
          rw [if_pos ⟨rfl, owned⟩, List.count_erase_self]
          refine ⟨by omega, fun bound => ?_⟩
          have exactly := ih.2 (bound_before bound)
          omega
        · rw [if_neg (fun both => hx both.1), List.count_erase_of_ne hx, Int.add_zero]
          exact ⟨ih.1, fun bound => ih.2 (bound_before bound)⟩
      · have kept : ∀ priority id, op ≠ .release priority id := fun p id heq =>
          released ⟨p, id, heq⟩
        have stays : ∀ k, op ≠ .drop k := fun k heq => dropped ⟨k, heq⟩
        have moved : (c.next op).hall.outstanding x = c.hall.outstanding x + _ :=
          Hall.step_outstanding coherent kept stays x
        have held : (c.next op).held = _ := heldAfter_of_kept kept (c.hall.step op).1
        rw [moved, held, count_handed]
        refine ⟨by omega, fun bound => ?_⟩
        have exactly := ih.2 (bound_before bound)
        omega

/-- Ownership is conserved. In every run in which a resource is only given up by those who
hold it, no id is both registered and retired, and whatever is held or was retired is held
once, by a request that is about to get it or by someone who got it; nothing else is. Each
of them can give it up. For the lower bound tickets must not have come round; the upper
bound holds without end. -/
theorem ownership_conserved (reachable : c.Reachable settings Honest) (x : ι) :
    (c.hall.broker.contains x = true → x ∉ c.hall.broker.retired) ∧
    c.held.count x + c.hall.inFlight x ≤ (if c.hall.broker.IsOwned x then 1 else 0) ∧
    (c.hall.ticketsIssued < 2 ^ 64 →
      c.held.count x + c.hall.inFlight x = (if c.hall.broker.IsOwned x then 1 else 0) ∧
      (c.hall.broker.IsOwned x →
        (x ∈ c.held ∧ ∀ priority, c.hall.Frees priority x) ∨
        ∃ k r ticket resource, c.hall.requests.get? k = some r ∧ r.target = x ∧
          r.stage = .queued ticket (.sent resource) ∧
          ∀ tie, (c.hall.poll tie k).1 = some (.ok resource))) := by
  have coherent := reachable.hall.coherent
  obtain ⟨atMost, exactly⟩ := reachable.held_outstanding x
  have account : c.hall.broker.owners x =
      ((if c.hall.broker.IsOwned x then 1 else 0 : Nat) : Int) := by
    by_cases owned : c.hall.broker.IsOwned x
    · rw [Broker.owners_of_owned owned, if_pos owned]
      rfl
    · rw [Broker.owners_of_not_owned owned, if_neg owned]
      rfl
  rw [Hall.outstanding, account] at atMost exactly
  refine ⟨?_, by omega, fun bound => ⟨by have := exactly bound; omega, fun owned => ?_⟩⟩
  · intro registered
    apply coherent.broker.not_retired
    exact (c.hall.broker.contains_iff x).1 registered
  · have once := exactly bound
    rw [if_pos owned] at once
    by_cases mem : x ∈ c.held
    · exact .inl ⟨mem, Hall.frees_of_owned coherent owned⟩
    · have none := List.count_eq_zero.2 mem
      have flying : 0 < c.hall.inFlight x := by omega
      obtain ⟨k, sent⟩ := Hall.inFlight_pos_iff.1 flying
      obtain ⟨r, ticket, resource, live, target, stage⟩ := Hall.isSent_iff.1 sent
      exact .inr ⟨k, r, ticket, resource, live, target, stage, Hall.poll_sent live stage⟩

/-- A resource is given up to a request in line, and unregistered before the request takes
it. -/
def retiredInFlight : Chronicle Nat Nat :=
  (((((opening .standard).next (.register 7 70 none)).next .takeAny).next
    (.start 0 7 .unlimited)).next (.poll 0 .cancelFirst)).next (.release 0 7)
    |>.next (.unregister 7)

theorem ownership_conserved_in_flight :
    7 ∈ retiredInFlight.hall.broker.retired ∧ retiredInFlight.held = [] ∧
    retiredInFlight.held.count 7 + retiredInFlight.hall.inFlight 7 = 1 ∧
    ∃ k r ticket resource, retiredInFlight.hall.requests.get? k = some r ∧ r.target = 7 ∧
      r.stage = .queued ticket (.sent resource) ∧
      ∀ tie, (retiredInFlight.hall.poll tie k).1 = some (.ok resource) := by
  have kept : ∀ {c : Chronicle Nat Nat} {op : Operation Nat Nat},
      (∀ priority id, op ≠ .release priority id) → Honest c op :=
    fun kept priority id heq => absurd heq (kept priority id)
  have queued : Reachable .standard Honest (((((opening .standard).next (.register 7 70 none)).next
      .takeAny).next (.start 0 7 .unlimited)).next (.poll 0 .cancelFirst)) :=
    .next _ (kept (by simp)) (.next _ (kept (by simp)) (.next _ (kept (by simp))
      (.next _ (kept (by simp)) .start)))
  have reachable : Reachable .standard Honest retiredInFlight := by
    refine .next _ (kept (by simp)) (.next _ ?_ queued)
    rintro priority id ⟨rfl, rfl⟩
    decide
  obtain ⟨_, _, conserved⟩ := ownership_conserved reachable 7
  obtain ⟨once, holder⟩ := conserved (by decide)
  have owned : retiredInFlight.hall.broker.IsOwned 7 := by decide
  rw [if_pos owned] at once
  refine ⟨by decide, by decide, once, ?_⟩
  rcases holder owned with ⟨mem, _⟩ | holder
  · exact absurd mem (by decide)
  · exact holder

/-! ### Ownership that is lost -/

/-- Where nothing is given up or handed out, everybody holds what he held. -/
theorem held_run_of_quiet {ops : List (Operation ι ρ)}
    (kept : ∀ op ∈ ops, ∀ priority id, op ≠ .release priority id)
    (quiet : ∀ answer ∈ (c.hall.run ops).1, answer ∈ [.flag true, .pending, .nothing]) :
    (c.run ops).held = c.held := by
  induction ops generalizing c with
  | nil => rfl
  | cons op rest ih =>
    have later := ih (c := c.next op) (fun op mem => kept op (List.mem_cons_of_mem _ mem))
      fun answer mem => quiet answer (List.mem_cons_of_mem _ mem)
    have first : (c.next op).held = _ :=
      heldAfter_of_kept (kept op List.mem_cons_self) (c.hall.step op).1
    have nothing : c.hall.handedOut op (c.hall.step op).1 = none := by
      have answer := quiet (c.hall.step op).1 List.mem_cons_self
      simp only [List.mem_cons, List.not_mem_nil, or_false] at answer
      rcases answer with heq | heq | heq <;> rw [heq] <;> cases op <;> rfl
    rw [nothing] at first
    exact later.trans first

/-- A resource is held, and someone waits for it with the first ticket. -/
def awaited : Chronicle Nat Nat :=
  ((((opening .standard).next (.register 7 70 none)).next .takeAny).next
    (.start 0 7 .unlimited)).next (.poll 0 .cancelFirst)

/-- Others have come and gone, and each took a ticket. -/
def visited (n : Nat) : Chronicle Nat Nat := awaited.run (Hall.visits 7 1 n)

/-- The resource is sent to the one who waits for it, and he is dropped when one more has come
to wait. -/
def lost (n : Nat) : Chronicle Nat Nat := (visited n).run (Hall.relay 7 0 (n + 1) 3)

omit [DecidableEq ι] in
theorem visits_kept {k : RequestId} {n : Nat} :
    ∀ op ∈ (Hall.visits x k n : List (Operation ι ρ)),
      ∀ priority id, op ≠ .release priority id := by
  intro op mem
  obtain ⟨i, rfl | rfl | rfl⟩ := Hall.eq_of_mem_visits mem <;> simp

/-- The visits leave the resource held and someone in line for it, until all tickets have been
issued. -/
theorem visited_waits {n : Nat} (few : n < 2 ^ 64) :
    (visited n).Reachable .standard Honest ∧ (visited n).held = [7] ∧
      (visited n).hall.nextRequest ≤ 1 + n ∧ awaited.hall.Visited 7 n (visited n).hall := by
  have opened : (opening .standard : Chronicle Nat Nat).Reachable .standard Honest := .start
  let ops : List (Operation Nat Nat) :=
    [.register 7 70 none, .takeAny, .start 0 7 .unlimited, .poll 0 .cancelFirst]
  have kept : ∀ op ∈ ops, ∀ priority id, op ≠ .release priority id := by simp [ops]
  have reachable : awaited.Reachable .standard Honest := opened.run_kept kept
  have calm : awaited.hall.notifyParked = awaited.hall := rfl
  have line : awaited.hall.broker.line 7 = [⟨0, 0⟩] := rfl
  have next : awaited.hall.broker.nextTicket = 1 := rfl
  have apart : ∀ i < n, ∀ signal ∈ awaited.hall.broker.line 7,
      signal.ticket ≠ awaited.hall.broker.nextTicket + UInt64.ofNat i := by
    intro i lt signal mem same
    rw [line] at mem
    rw [List.mem_singleton.1 mem, next] at same
    have number := congrArg UInt64.toNat same
    simp only [UInt64.toNat_add, UInt64.toNat_ofNat', UInt64.toNat_one, UInt64.toNat_zero] at number
    omega
  obtain ⟨answers, left, numbers⟩ := Hall.visits_leave reachable.hall (x := 7) (k := 1) rfl
    (by rw [line]; decide) (fun j => by rw [← Hall.requests_notifyParked, calm]) (by decide) n apart
  refine ⟨reachable.run_kept visits_kept, held_run_of_quiet visits_kept answers, ?_, ?_⟩
  · rw [visited, hall_run]
    exact numbers
  · rw [visited, hall_run]
    exact left

/-- When all tickets have been issued, the resource is lost to the one who comes next. -/
theorem lost_strands {n : Nat} (round : n + 1 = 2 ^ 64) :
    (lost n).Reachable .standard Honest ∧ (lost n).held = [] ∧
      (lost n).hall.broker.isBusy? 7 = some true ∧
      (∃ s, (lost n).hall.requests.get? (n + 1) = some s ∧ s.target = 7 ∧
        s.stage = .queued 0 .discarded) ∧
      ∀ i, i ≠ n + 1 → (lost n).hall.requests.get? i = none := by
  obtain ⟨reachable, held, numbers, visited⟩ := visited_waits (n := n) (by omega)
  have ticket : (Chronicle.visited n).hall.broker.nextTicket = 0 := visited.comes_round rfl round
  have line : (Chronicle.visited n).hall.broker.line 7 =
      [⟨(Chronicle.visited n).hall.broker.nextTicket, 0⟩] := by
    rw [visited.line.line, ticket]
    rfl
  have calm : awaited.hall.notifyParked = awaited.hall := rfl
  obtain ⟨answers, busy, next, others⟩ := Hall.relay_strands reachable.hall
    (fun i => by rw [visited.requests, ← Hall.requests_notifyParked, calm])
    (visited.requests 0) line (Nat.add_comm 1 n ▸ numbers) 3
  have run : (lost n).hall = ((Chronicle.visited n).hall.run (Hall.relay 7 0 (n + 1) 3)).2 :=
    hall_run _ _
  rw [← run] at busy next others
  let given := (Chronicle.visited n).next (.release 3 7)
  let rest : List (Operation Nat Nat) := Hall.call 7 (n + 1) ++ [.drop 0]
  have split : lost n = given.run rest := run_cons _ _ _
  have kept : ∀ op ∈ rest, ∀ priority id, op ≠ .release priority id := by
    simp [rest, Hall.call]
  refine ⟨?_, ?_, busy, ?_, ?_⟩
  · have honest : Honest (Chronicle.visited n) (.release 3 7) := by
      rintro _ _ ⟨⟩
      simp [held]
    rw [split]
    exact (Reachable.next _ honest reachable).run_kept kept
  · have quiet : (given.hall.run rest).1 = [.flag true, .pending, .nothing] :=
      congrArg List.tail answers
    rw [split, held_run_of_quiet kept (by simp [quiet])]
    show (Chronicle.visited n).held.erase 7 = []
    rw [held]
    rfl
  · rwa [ticket] at next
  · intro i other
    have gone : (if i = 0 then none else (Chronicle.visited n).hall.requests.get? i) = none := by
      split
      · rfl
      · rename_i later
        have entries : awaited.hall.requests.entries =
            [(0, ⟨7, .unlimited, none, .queued 0 .awaited, false⟩)] := rfl
        rw [visited.requests]
        simp [Registry.get?, entries, Registry.find, later]
    exact (others i other).trans gone

/-- Without the bound on the tickets the equality fails. Someone is about to get a resource and
is dropped when all tickets have been issued and another waits with his: after that the resource
is held, and nobody holds it or is to get it. -/
theorem ownership_lost :
    (lost (2 ^ 64 - 1)).Reachable .standard Honest ∧
    (lost (2 ^ 64 - 1)).hall.broker.IsOwned 7 ∧ (lost (2 ^ 64 - 1)).held = [] ∧
    (lost (2 ^ 64 - 1)).held.count 7 + (lost (2 ^ 64 - 1)).hall.inFlight 7 ≠
      if (lost (2 ^ 64 - 1)).hall.broker.IsOwned 7 then 1 else 0 := by
  obtain ⟨reachable, held, busy, ⟨s, own, _, stage⟩, others⟩ := lost_strands (n := 2 ^ 64 - 1) rfl
  have owned : (lost (2 ^ 64 - 1)).hall.broker.IsOwned 7 := .inl busy
  have landed : (lost (2 ^ 64 - 1)).hall.inFlight 7 = 0 := by
    by_contra flying
    obtain ⟨k, sent⟩ := Hall.inFlight_pos_iff.1 (Nat.pos_of_ne_zero flying)
    obtain ⟨r, ticket, resource, live, _, sent⟩ := Hall.isSent_iff.1 sent
    by_cases last : k = 2 ^ 64 - 1 + 1
    · rw [last, own, Option.some.injEq] at live
      rw [← live, stage] at sent
      cases sent
    · rw [others k last] at live
      cases live
  refine ⟨reachable, owned, held, ?_⟩
  rw [held, landed, if_pos owned]
  decide

end Chronicle

end Custody
