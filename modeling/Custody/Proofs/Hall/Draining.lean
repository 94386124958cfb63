import Custody.Proofs.Hall.Conservation
import Custody.Proofs.Hall.Polls

/-!
# Draining

All requests are polled, pass after pass, until a pass finishes none; then one resource is
given up by someone who has it, and the passes go on. Whichever is given up, and in whatever
order the requests are polled, this comes to an end.

* `Chronicle.Drains`: so many rounds of draining;
* `Chronicle.Drains.burden_le`: every round has less left to do;
* `Chronicle.draining_completes`: where it stops, nothing is left in the broker but free
  resources.
-/

namespace Custody

open Hall (Operation Answer)

namespace Hall

variable {ι ρ : Type} [DecidableEq ι] {h : Hall ι ρ} {k : RequestId}

/-- Nobody asks for a resource or has one, and the broker is waiting for nobody. -/
structure AtRest (h : Hall ι ρ) : Prop where
  nobody : ∀ k, h.requests.get? k = none
  free : ∀ x, h.broker.isBusy? x ≠ some true
  empty : ∀ x, h.broker.line x = []
  retired : h.broker.retired = []

/-- The request is over, or has reason to wait. -/
def Waits (h : Hall ι ρ) (k : RequestId) : Prop :=
  ∀ r, h.requests.get? k = some r → r.stage.IsWaiting

theorem poll_waits (coherent : h.Coherent) {tie : Tie} (pending : (h.poll tie k).1 = none) :
    (h.poll tie k).2.Waits k := by
  intro r' live'
  cases live : h.requests.get? k with
  | none =>
    simp only [poll, live] at live'
    cases live'
  | some r =>
    have ended := (poll_moves coherent tie live).2
    rw [pending] at ended
    obtain ⟨stage, waiting, live'', _⟩ := ended
    rw [live'', Option.some.injEq] at live'
    rw [← live']
    exact waiting

/-- Nobody stops waiting by a poll that has no outcome. -/
theorem Waits.poll {j : RequestId} (waits : h.Waits j) (coherent : h.Coherent) {tie : Tie}
    (pending : (h.poll tie k).1 = none) : (h.poll tie k).2.Waits j := by
  by_cases hj : j = k
  · rw [hj]
    exact poll_waits coherent pending
  · cases live : h.requests.get? k with
    | none =>
      simp only [Hall.poll, live]
      exact waits
    | some r =>
      intro s live'
      rw [poll_pending coherent live pending hj] at live'
      exact waits s live'

theorem step_poll_pending {tie : Tie} :
    (h.step (.poll k tie)).1 = .pending ↔ (h.poll tie k).1 = none := by
  rcases polled : h.poll tie k with ⟨_ | _, _⟩ <;> simp [step, polled]

end Hall

namespace Chronicle

variable {ι ρ : Type} [DecidableEq ι] {settings : Settings} {c d : Chronicle ι ρ}
  {turns : List (RequestId × Tie)}

/-! ### Passes -/

/-- The polls of a pass, each with the choice that settles a tie. -/
def polls (turns : List (RequestId × Tie)) : List (Operation ι ρ) :=
  turns.map fun turn => .poll turn.1 turn.2

/-- The chronicle after a pass. -/
def passed (c : Chronicle ι ρ) (turns : List (RequestId × Tie)) : Chronicle ι ρ :=
  c.run (polls turns)

/-- Every request has one turn, in some order. -/
def IsPass (c : Chronicle ι ρ) (turns : List (RequestId × Tie)) : Prop :=
  (turns.map Prod.fst).Perm c.hall.requests.keys

instance (c : Chronicle ι ρ) (turns : List (RequestId × Tie)) : Decidable (c.IsPass turns) :=
  inferInstanceAs (Decidable (List.Perm _ _))

/-- No request finishes in the pass. -/
def Stalls (c : Chronicle ι ρ) (turns : List (RequestId × Tie)) : Prop :=
  ∀ answer ∈ (c.hall.run (polls turns)).1, answer = .pending

/-- What there is left to do: every request may bring a resource that is then given up. -/
def burden (c : Chronicle ι ρ) : Nat := 2 * c.hall.requests.size + c.held.length

theorem passed_cons (c : Chronicle ι ρ) (turn : RequestId × Tie)
    (turns : List (RequestId × Tie)) :
    c.passed (turn :: turns) = (c.next (.poll turn.1 turn.2)).passed turns := rfl

theorem passed_nil (c : Chronicle ι ρ) : c.passed [] = c := rfl

theorem stalls_nil (c : Chronicle ι ρ) : c.Stalls [] := by
  simp [Stalls, polls, Hall.run]

theorem stalls_cons {turn : RequestId × Tie} :
    c.Stalls (turn :: turns) ↔
      (c.hall.poll turn.2 turn.1).1 = none ∧ (c.next (.poll turn.1 turn.2)).Stalls turns := by
  rw [← Hall.step_poll_pending]
  exact List.forall_mem_cons

omit [DecidableEq ι] in
theorem honest_poll (c : Chronicle ι ρ) (k : RequestId) (tie : Tie) : Honest c (.poll k tie) := by
  rintro priority id ⟨⟩

theorem Reachable.passed (reachable : c.Reachable settings Honest)
    (turns : List (RequestId × Tie)) : (c.passed turns).Reachable settings Honest := by
  induction turns generalizing c with
  | nil => exact reachable
  | cons turn rest ih => exact ih (.next _ (honest_poll c turn.1 turn.2) reachable)

/-- A poll with an outcome leaves less to do, and a poll without one as much. -/
theorem burden_poll (c : Chronicle ι ρ) (k : RequestId) (tie : Tie) :
    match (c.hall.poll tie k).1 with
    | some _ => (c.next (.poll k tie)).burden < c.burden
    | none => (c.next (.poll k tie)).burden = c.burden := by
  have keys := c.hall.keys_poll tie k
  have stepped : (c.next (.poll k tie)).hall = (c.hall.poll tie k).2 := Hall.step_poll c.hall tie k
  have held : (c.next (.poll k tie)).held =
      (c.hall.handedOut (.poll k tie) (c.hall.step (.poll k tie)).1).toList ++ c.held := rfl
  rw [burden, burden, stepped, held, List.length_append, ← Registry.length_keys,
    ← Registry.length_keys]
  rcases polled : c.hall.poll tie k with ⟨_ | outcome, h'⟩
  · rw [polled] at keys
    simp only at keys
    simp [Hall.step, polled, Hall.handedOut, keys]
  · rw [polled] at keys
    obtain ⟨mem, keys⟩ := keys
    have fewer := List.length_erase_of_mem mem
    have some := List.length_pos_of_mem mem
    have atMost : (c.hall.handedOut (.poll k tie)
        (c.hall.step (.poll k tie)).1).toList.length ≤ 1 := Option.length_toList_le
    simp only [keys, fewer]
    omega

theorem burden_passed (c : Chronicle ι ρ) (turns : List (RequestId × Tie)) :
    (c.Stalls turns ∧ (c.passed turns).burden = c.burden) ∨
      (¬c.Stalls turns ∧ (c.passed turns).burden < c.burden) := by
  induction turns generalizing c with
  | nil => exact .inl ⟨c.stalls_nil, rfl⟩
  | cons turn rest ih =>
    have first := c.burden_poll turn.1 turn.2
    rw [stalls_cons, passed_cons]
    split at first
    · rename_i finished
      right
      rw [finished]
      refine ⟨by simp, ?_⟩
      rcases ih (c.next (.poll turn.1 turn.2)) with ⟨_, same⟩ | ⟨_, less⟩ <;> omega
    · rename_i pending
      rw [pending, ← first]
      rcases ih (c.next (.poll turn.1 turn.2)) with ⟨stalls, same⟩ | ⟨goesOn, less⟩
      · exact .inl ⟨⟨rfl, stalls⟩, same⟩
      · exact .inr ⟨fun both => goesOn both.2, less⟩

/-- Who waits goes on waiting in a pass that finishes none, and who had a turn waits. -/
theorem Stalls.waits (stalls : c.Stalls turns) (reachable : c.Reachable settings Honest)
    {k : RequestId} (mem : k ∈ turns.map Prod.fst ∨ c.hall.Waits k) :
    (c.passed turns).hall.Waits k := by
  induction turns generalizing c with
  | nil => exact mem.resolve_left (by simp)
  | cons turn rest ih =>
    obtain ⟨pending, stalls⟩ := stalls_cons.1 stalls
    have coherent := reachable.hall.coherent
    have stepped : (c.next (.poll turn.1 turn.2)).hall = (c.hall.poll turn.2 turn.1).2 :=
      Hall.step_poll c.hall turn.2 turn.1
    refine ih stalls (.next _ (honest_poll c turn.1 turn.2) reachable) ?_
    rw [stepped]
    rcases mem with mem | waits
    · rcases List.mem_cons.1 mem with rfl | mem
      · exact .inr (Hall.poll_waits coherent pending)
      · exact .inl mem
    · exact .inr (waits.poll coherent pending)

theorem Stalls.keys (stalls : c.Stalls turns) :
    (c.passed turns).hall.requests.keys = c.hall.requests.keys := by
  induction turns generalizing c with
  | nil => rfl
  | cons turn rest ih =>
    obtain ⟨pending, stalls⟩ := stalls_cons.1 stalls
    have same := c.hall.keys_poll turn.2 turn.1
    rw [pending] at same
    rw [passed_cons, ih stalls, ← same]
    exact congrArg (fun h : Hall ι ρ => h.requests.keys) (Hall.step_poll c.hall turn.2 turn.1)

/-! ### Rounds -/

/-- One round of draining: a pass that finishes some request, or one that finishes none and
after which someone gives up a resource that he has. -/
inductive Round (c : Chronicle ι ρ) (turns : List (RequestId × Tie)) : Chronicle ι ρ → Prop
  | finishes (pass : c.IsPass turns) (goesOn : ¬c.Stalls turns) : Round c turns (c.passed turns)
  | releases (pass : c.IsPass turns) (stalls : c.Stalls turns) {x : ι}
      (held : x ∈ (c.passed turns).held) (priority : Priority) :
      Round c turns ((c.passed turns).next (.release priority x))

/-- A pass finishes no request, and nobody has a resource to give up. -/
structure Stops (c : Chronicle ι ρ) (turns : List (RequestId × Tie)) : Prop where
  pass : c.IsPass turns
  stalls : c.Stalls turns
  nothing : (c.passed turns).held = []

/-- So many rounds, one after the other. -/
inductive Drains : Nat → Chronicle ι ρ → Chronicle ι ρ → Prop
  | done (c : Chronicle ι ρ) : Drains 0 c c
  | next {n : Nat} {c d e : Chronicle ι ρ} {turns : List (RequestId × Tie)}
      (round : c.Round turns d) (later : Drains n d e) : Drains (n + 1) c e

theorem burden_release {x : ι} (held : x ∈ c.held) (priority : Priority) :
    (c.next (.release priority x)).burden < c.burden := by
  have fewer := List.length_erase_of_mem held
  have some := List.length_pos_of_mem held
  have keys : (c.hall.release priority x).2.requests.keys = c.hall.requests.keys := by
    unfold Hall.release
    simp only
    split
    · rfl
    · simp [Hall.report, Hall.notifyParked, Hall.changeRequests, Hall.keys_deliver]
  have size : (c.next (.release priority x)).hall.requests.size = c.hall.requests.size := by
    rw [← Registry.length_keys, ← Registry.length_keys, ← keys]
    rfl
  have left : (c.next (.release priority x)).held = c.held.erase x := rfl
  rw [burden, burden, size, left]
  omega

/-- Every round has less left to do. -/
theorem Round.burden_lt (round : c.Round turns d) : d.burden < c.burden := by
  cases round with
  | finishes pass goesOn =>
    rcases c.burden_passed turns with ⟨stalls, _⟩ | ⟨_, less⟩
    · exact absurd stalls goesOn
    · exact less
  | releases pass stalls held priority =>
    rcases c.burden_passed turns with ⟨_, same⟩ | ⟨goesOn, _⟩
    · rw [← same]
      exact burden_release held priority
    · exact absurd stalls goesOn

theorem Drains.burden_le {n : Nat} (drains : Drains n c d) : n + d.burden ≤ c.burden := by
  induction drains with
  | done => omega
  | next round _ ih =>
    have less := round.burden_lt
    omega

theorem Round.reachable (round : c.Round turns d) (reachable : c.Reachable settings Honest) :
    d.Reachable settings Honest := by
  cases round with
  | finishes => exact reachable.passed turns
  | releases pass stalls held priority =>
    refine .next _ ?_ (reachable.passed turns)
    rintro _ _ ⟨⟩
    exact held

theorem Drains.reachable {n : Nat} (drains : Drains n c d)
    (reachable : c.Reachable settings Honest) : d.Reachable settings Honest := by
  induction drains with
  | done => exact reachable
  | next round _ ih => exact ih (round.reachable reachable)

/-- A pass is a round or the last one. -/
theorem IsPass.round_or_stops (pass : c.IsPass turns) :
    c.Stops turns ∨ c.Round turns (c.passed turns) ∨
      ∃ x, x ∈ (c.passed turns).held ∧ ∀ priority,
        c.Round turns ((c.passed turns).next (.release priority x)) := by
  by_cases stalls : c.Stalls turns
  · cases held : (c.passed turns).held with
    | nil => exact .inl ⟨pass, stalls, held⟩
    | cons x rest =>
      have mem : x ∈ (c.passed turns).held := by simp [held]
      exact .inr (.inr ⟨x, by simp, .releases pass stalls mem⟩)
  · exact .inr (.inl (.finishes pass stalls))

/-! ### What is left -/

/-- Whatever is outside is held by someone. -/
def Balanced (c : Chronicle ι ρ) : Prop := ∀ x, (c.held.count x : Int) = c.hall.outstanding x

theorem Balanced.poll (balanced : c.Balanced) (coherent : c.hall.Coherent) (k : RequestId)
    (tie : Tie) : (c.next (.poll k tie)).Balanced := by
  intro x
  have kept : ∀ priority id, (.poll k tie : Operation ι ρ) ≠ .release priority id := by simp
  have stays : ∀ j, (.poll k tie : Operation ι ρ) ≠ .drop j := by simp
  have held : (c.next (.poll k tie)).held = _ :=
    heldAfter_of_kept kept (c.hall.step (.poll k tie)).1
  have moved : (c.next (.poll k tie)).hall.outstanding x = c.hall.outstanding x + _ :=
    Hall.step_outstanding coherent kept stays x
  rw [held, moved, count_handed, balanced x]

theorem Balanced.release (balanced : c.Balanced) (coherent : c.hall.Coherent) {id : ι}
    (held : id ∈ c.held) (priority : Priority) : (c.next (.release priority id)).Balanced := by
  intro x
  have left : (c.next (.release priority id)).held = c.held.erase id := rfl
  have moved : (c.next (.release priority id)).hall.outstanding x = c.hall.outstanding x + _ :=
    Hall.release_outstanding coherent priority id x
  have before := balanced x
  rw [left, moved]
  by_cases hx : x = id
  · subst hx
    have positive := List.count_pos_iff.2 held
    have owned := owned_of_held (Int.le_of_eq before) (.inl held)
    rw [if_pos ⟨rfl, owned⟩, List.count_erase_self]
    omega
  · rw [if_neg (fun both => hx both.1), List.count_erase_of_ne hx]
    omega

theorem Balanced.passed (balanced : c.Balanced) (reachable : c.Reachable settings Honest)
    (turns : List (RequestId × Tie)) : (c.passed turns).Balanced := by
  induction turns generalizing c with
  | nil => exact balanced
  | cons turn rest ih =>
    exact ih (balanced.poll reachable.hall.coherent turn.1 turn.2)
      (.next _ (honest_poll c turn.1 turn.2) reachable)

theorem Drains.balanced {n : Nat} (drains : Drains n c d) (balanced : c.Balanced)
    (reachable : c.Reachable settings Honest) : d.Balanced := by
  induction drains with
  | done => exact balanced
  | @next _ c _ _ turns round _ ih =>
    refine ih ?_ (round.reachable reachable)
    have polled := balanced.passed reachable turns
    cases round with
    | finishes => exact polled
    | releases pass stalls held priority =>
      exact polled.release (reachable.passed turns).hall.coherent held priority

/-- Where everybody waits and nobody has anything, there is nobody and nothing to wait for. -/
theorem Stops.atRest (stops : c.Stops turns) (balanced : c.Balanced)
    (reachable : c.Reachable settings Honest) : (c.passed turns).hall.AtRest := by
  have coherent := (reachable.passed turns).hall.coherent
  have waits : ∀ k r, (c.passed turns).hall.requests.get? k = some r → r.stage.IsWaiting := by
    intro k r live
    have mem : k ∈ (c.passed turns).hall.requests.keys := by simp [Registry.mem_keys_iff, live]
    rw [stops.stalls.keys] at mem
    exact stops.stalls.waits reachable (.inl (stops.pass.mem_iff.2 mem)) r live
  -- What nobody has and nobody is sent is not outside.
  have nothing : ∀ x, ¬(c.passed turns).hall.broker.IsOwned x := by
    intro x owned
    have outside := balanced.passed reachable turns x
    have landed : (c.passed turns).hall.inFlight x = 0 := by
      by_contra flying
      obtain ⟨k, sent⟩ := Hall.inFlight_pos_iff.1 (Nat.pos_of_ne_zero flying)
      obtain ⟨r, ticket, resource, live, _, stage⟩ := Hall.isSent_iff.1 sent
      rcases waits k r live with parked | ⟨_, awaited⟩
      · simp [parked] at stage
      · simp [awaited] at stage
    rw [stops.nothing, Hall.outstanding, landed, Broker.owners_of_owned owned] at outside
    simp at outside
  have free : ∀ x, (c.passed turns).hall.broker.isBusy? x ≠ some true := fun x held =>
    nothing x (.inl held)
  have empty : ∀ x, (c.passed turns).hall.broker.line x = [] := fun x =>
    coherent.broker.line_eq_nil (free x)
  constructor
  · intro k
    by_contra live
    obtain ⟨r, live⟩ := Option.ne_none_iff_exists'.1 live
    rcases waits k r live with parked | ⟨ticket, awaited⟩
    · exact free r.target (coherent.parked k r live parked).1
    · simpa [empty] using coherent.awaited k r ticket live awaited
  · exact free
  · exact empty
  · exact List.eq_nil_iff_forall_not_mem.2 fun x mem => nothing x (.inr mem)

/-- Draining completes. In every run in which a resource is only given up by those who hold
it, all requests are polled, pass after pass, in any order, and whenever a pass finishes none,
a resource that someone has is given up, at any priority. There are no more rounds than twice
the requests and once the holds. Until it stops, there always is a next round. When it stops,
no request is left, nothing is held or retired, and nobody is in line: for this the tickets
must not have come round when it began. -/
theorem draining_completes (reachable : c.Reachable settings Honest) {n : Nat}
    (drains : Drains n c d) :
    n ≤ 2 * c.hall.requests.size + c.held.length ∧
    (∀ turns, d.IsPass turns →
      d.Stops turns ∨ d.Round turns (d.passed turns) ∨
        ∃ x, x ∈ (d.passed turns).held ∧ ∀ priority,
          d.Round turns ((d.passed turns).next (.release priority x))) ∧
    (c.hall.ticketsIssued < 2 ^ 64 → ∀ turns, d.Stops turns → (d.passed turns).hall.AtRest) := by
  refine ⟨?_, fun turns pass => pass.round_or_stops, fun bound turns stops => ?_⟩
  · have less := drains.burden_le
    exact Nat.le_trans (Nat.le_add_right _ _) less
  · have balanced : c.Balanced := fun x => (reachable.held_outstanding x).2 bound
    exact stops.atRest (drains.balanced balanced reachable) (drains.reachable reachable)

/-- A resource is held, there is no room for waiters, and someone asks for it. -/
def besieged : Chronicle Nat Nat :=
  (((opening { Settings.standard with maxResources := 1, waiterCapacity := 0 }).next
    (.register 7 70 none)).next .takeAny).next (.start 0 7 .unlimited)

/-- The request was parked, got the resource when that was given up, and the resource was
given up once more. -/
def relieved : Chronicle Nat Nat :=
  (((((besieged.passed [(0, .retryFirst)]).next (.release 3 7)).passed [(0, .cancelFirst)]).passed
    []).next (.release 5 7))

theorem draining_completes_relieved :
    Drains 3 besieged relieved ∧ 3 ≤ 2 * besieged.hall.requests.size + besieged.held.length ∧
    (relieved.passed []).hall.AtRest := by
  have kept : ∀ {c : Chronicle Nat Nat} {op : Operation Nat Nat},
      (∀ priority id, op ≠ .release priority id) → Honest c op :=
    fun kept priority id heq => absurd heq (kept priority id)
  have reachable : Reachable { Settings.standard with maxResources := 1, waiterCapacity := 0 }
      Honest besieged :=
    .next _ (kept (by simp)) (.next _ (kept (by simp)) (.next _ (kept (by simp)) .start))
  have parks : besieged.Round [(0, .retryFirst)]
      ((besieged.passed [(0, .retryFirst)]).next (.release 3 7)) :=
    .releases (by decide) (stalls_cons.2 ⟨rfl, stalls_nil _⟩) (by decide) 3
  have gets : ((besieged.passed [(0, .retryFirst)]).next (.release 3 7)).Round [(0, .cancelFirst)]
      (((besieged.passed [(0, .retryFirst)]).next (.release 3 7)).passed [(0, .cancelFirst)]) :=
    .finishes (by decide) fun stalls => Option.some_ne_none _ (stalls_cons.1 stalls).1
  have drains : Drains 3 besieged relieved :=
    .next parks (.next gets (.next (.releases (by decide) (stalls_nil _) (by decide) 5) (.done _)))
  have stops : relieved.Stops [] := ⟨by decide, stalls_nil _, by decide⟩
  obtain ⟨bound, _, left⟩ := draining_completes reachable drains
  exact ⟨drains, bound, left (by decide) [] stops⟩

/-- Where nobody holds anything, and the only request left waits in vain, one more pass is the
last but one. -/
theorem drains_discarded {k : RequestId} {r : Request ι ρ} {ticket : UInt64} (held : c.held = [])
    (live : c.hall.requests.get? k = some r) (stage : r.stage = .queued ticket .discarded)
    (alone : ∀ j, j ≠ k → c.hall.requests.get? j = none) (tie : Tie) :
    Drains 1 c (c.passed [(k, tie)]) ∧ (c.passed [(k, tie)]).Stops [] ∧
      (c.passed [(k, tie)]).hall.broker = c.hall.broker := by
  have told := Hall.poll_discarded_eq live stage tie
  have passed : c.passed [(k, tie)] = c.next (.poll k tie) := rfl
  have hall : (c.next (.poll k tie)).hall = (c.hall.look k r).remove k :=
    (Hall.step_poll c.hall tie k).trans (congrArg Prod.snd told)
  have nothing : (c.next (.poll k tie)).held = [] := by
    have after : (c.next (.poll k tie)).held =
        (c.hall.handedOut (.poll k tie) (c.hall.step (.poll k tie)).1).toList ++ c.held := rfl
    rw [after, held]
    simp [Hall.step, told, Hall.handedOut]
  have known : ∀ j, j ∈ c.hall.requests.keys ↔ j = k := by
    intro j
    rw [Registry.mem_keys_iff]
    by_cases own : j = k
    · simp [own, live]
    · simp [own, alone j own]
  have nobody : (c.next (.poll k tie)).hall.requests.keys = [] := by
    rw [List.eq_nil_iff_forall_not_mem]
    intro j mem
    rw [Registry.mem_keys_iff, hall, Hall.requests_remove] at mem
    by_cases own : j = k
    · simp [own] at mem
    · simp [own, Hall.look, alone j own] at mem
  have pass : c.IsPass [(k, tie)] :=
    (List.perm_ext_iff_of_nodup (List.nodup_singleton k) c.hall.requests.nodup_keys).2
      (by simp [known])
  rw [passed]
  refine ⟨.next (.finishes pass fun stalls => ?_) (.done _), ⟨?_, stalls_nil _, nothing⟩, ?_⟩
  · have pending := (stalls_cons.1 stalls).1
    rw [told] at pending
    cases pending
  · rw [IsPass, nobody]
    exact .nil
  · rw [hall]
    rfl

/-- Without the bound on the tickets draining may leave something behind. A resource that was
lost is still held when no request is left and nobody has anything to give up. -/
theorem draining_strands :
    (lost (2 ^ 64 - 1)).Reachable .standard Honest ∧
    Drains 1 (lost (2 ^ 64 - 1)) ((lost (2 ^ 64 - 1)).passed [(2 ^ 64, .cancelFirst)]) ∧
    ((lost (2 ^ 64 - 1)).passed [(2 ^ 64, .cancelFirst)]).Stops [] ∧
    ¬(((lost (2 ^ 64 - 1)).passed [(2 ^ 64, .cancelFirst)]).passed []).hall.AtRest := by
  obtain ⟨reachable, held, busy, ⟨s, own, _, stage⟩, others⟩ := lost_strands (n := 2 ^ 64 - 1) rfl
  have last : 2 ^ 64 - 1 + 1 = 2 ^ 64 := rfl
  rw [last] at own others
  obtain ⟨drains, stops, broker⟩ := drains_discarded held own stage others .cancelFirst
  refine ⟨reachable, drains, stops, fun atRest => atRest.free 7 ?_⟩
  rw [passed_nil, broker]
  exact busy

end Chronicle

end Custody
