import Custody.Proofs.Hall.Conservation
import Custody.Proofs.Hall.Leaving
import Custody.Proofs.Hall.Sending

/-!
# Abandonment is exact

The ownership that a request was sent and is dropped with is passed on at the priority that
the resource was last given up at.

* `Annals`: a run with the latest priority that each id was given up at;
* `Annals.Reachable.recalls`: that is the priority on record of what is under way;
* `Annals.abandonment_exact`: what happens when a request ends without the resource.
-/

namespace Custody

open Hall (Operation)

/-- A run so far, and at which priority each id was last given up. -/
structure Annals (ι ρ : Type) where
  chronicle : Chronicle ι ρ
  released : ι → Option Priority

namespace Annals

variable {ι ρ : Type} [DecidableEq ι] {settings : Settings} {a : Annals ι ρ} {x : ι}
  {k : RequestId}

def opening (settings : Settings) : Annals ι ρ where
  chronicle := .opening settings
  released := fun _ => none

def releasedAfter (a : Annals ι ρ) : Operation ι ρ → ι → Option Priority
  | .release priority id => fun x => if x = id then some priority else a.released x
  | _ => a.released

/-- The annals with one more operation. -/
def next (a : Annals ι ρ) (op : Operation ι ρ) : Annals ι ρ where
  chronicle := a.chronicle.next op
  released := a.releasedAfter op

/-- The annals of runs in which a resource is only given up while it is held. -/
inductive Reachable (settings : Settings) : Annals ι ρ → Prop
  | start : Reachable settings (opening settings)
  | next {a : Annals ι ρ} (op : Operation ι ρ) (honest : Chronicle.Honest a.chronicle op) :
      Reachable settings a → Reachable settings (a.next op)

theorem Reachable.chronicle (reachable : a.Reachable settings) :
    a.chronicle.Reachable settings Chronicle.Honest := by
  induction reachable with
  | start => exact .start
  | next op honest _ ih => exact .next op honest ih

/-- A resource that is under way has the priority on record that it was last given up at. -/
def Recalls (a : Annals ι ρ) : Prop :=
  ∀ x k, a.chronicle.hall.isSent x k = true → ∃ priority, a.released x = some priority ∧
    ∀ record, a.chronicle.hall.broker.records.get? x = some record →
      record.lastPriority = priority

theorem releasedAfter_of_kept {op : Operation ι ρ} (kept : ∀ priority, op ≠ .release priority x) :
    a.releasedAfter op x = a.released x := by
  cases op with
  | release priority id =>
    have other : x ≠ id := fun heq => kept priority (by rw [heq])
    simp [releasedAfter, other]
  | _ => rfl

theorem owned_of_sent (reachable : a.Reachable settings)
    (sent : a.chronicle.hall.isSent x k = true) : a.chronicle.hall.broker.IsOwned x :=
  Chronicle.owned_of_held (reachable.chronicle.held_outstanding x).1
    (.inr (Hall.inFlight_pos_iff.2 ⟨k, sent⟩))

/-- An id that is owned cannot be registered. -/
theorem register_of_owned {h : Hall ι ρ} (coherent : h.Coherent) (owned : h.broker.IsOwned x)
    (resource : ρ) (priority? : Option Priority) :
    (h.step (.register x resource priority?)).2 = h := by
  rcases Hall.register_cases coherent x resource priority? with
    ⟨refusal, heq⟩ | ⟨_, _, _, _, unknown, fresh, _⟩
  · simp [Hall.step, heq]
  · rcases owned with held | retired
    · rw [unknown] at held
      cases held
    · exact absurd retired fresh

theorem Recalls.next (recalls : a.Recalls) (reachable : a.Reachable settings) {op : Operation ι ρ}
    (honest : Chronicle.Honest a.chronicle op) : (a.next op).Recalls := by
  intro x j sent
  have coherent := reachable.chronicle.hall.coherent
  by_cases released : ∃ priority, op = .release priority x
  · obtain ⟨priority, rfl⟩ := released
    refine ⟨priority, by simp [Annals.next, releasedAfter], fun record known => ?_⟩
    have owned := Chronicle.owned_of_held (reachable.chronicle.held_outstanding x).1
      (.inl (honest priority x rfl))
    have broker := a.chronicle.hall.release_broker priority x
    have known : (a.chronicle.hall.release priority x).2.broker.records.get? x = some record :=
      known
    rw [broker] at known
    rcases owned with held | retired
    · exact Broker.handOver_lastPriority coherent.broker held _ _ known
    · have unknown := coherent.broker.retired_gone x retired
      have gone := (Broker.isBusy?_eq_none_iff _ x).1 unknown
      simp [Broker.handOver, gone] at known
  · have kept : ∀ priority, op ≠ .release priority x := fun priority heq => released ⟨priority, heq⟩
    obtain ⟨i, before⟩ := (Hall.step_isSent coherent sent).resolve_right released
    obtain ⟨priority, last, recorded⟩ := recalls x i before
    refine ⟨priority, (releasedAfter_of_kept kept).trans last, fun record known => ?_⟩
    have known : (a.chronicle.hall.step op).2.broker.records.get? x = some record := known
    by_cases registered : ∃ resource priority?, op = .register x resource priority?
    · obtain ⟨resource, priority?, rfl⟩ := registered
      rw [register_of_owned coherent (owned_of_sent reachable before)] at known
      exact recorded record known
    · obtain ⟨old, before, same⟩ := a.chronicle.hall.step_keepsPriority
        (fun resource priority? heq => registered ⟨resource, priority?, heq⟩) kept record known
      rw [same]
      exact recorded old before

theorem Reachable.recalls (reachable : a.Reachable settings) : a.Recalls := by
  induction reachable with
  | start =>
    intro x k sent
    simp [opening, Chronicle.opening, Hall.opening, Hall.isSent] at sent
  | next op honest reachable ih => exact ih.next reachable honest

/-- Abandoning a wait is exact. In every run in which a resource is only given up by those
who hold it, as long as tickets have not come round, a request ends without the resource: it
is dropped, or its poll says that it was cancelled or that its time is over. If its signal is
in line, that signal is withdrawn and nothing else changes at the broker. If it was sent the
resource, it was dropped, and the effect is that of the owner giving the resource up at the
priority that it was last given up at. Otherwise nothing changes, but that a request that is
queued by the very poll it ends with takes its ticket along. -/
theorem abandonment_exact {h' : Hall ι ρ} {r : Request ι ρ} (reachable : a.Reachable settings)
    (bound : a.chronicle.hall.ticketsIssued < 2 ^ 64)
    (live : a.chronicle.hall.requests.get? k = some r) (ends : a.chronicle.hall.GivesUp k h') :
    h'.requests.get? k = none ∧
    (∀ ticket, ⟨ticket, k⟩ ∈ a.chronicle.hall.broker.line r.target →
      a.chronicle.hall.Withdraws r.target ⟨ticket, k⟩ h') ∧
    (a.chronicle.hall.isSent r.target k = true → h' = a.chronicle.hall.drop k ∧
      ∃ priority, a.released r.target = some priority ∧
        a.chronicle.hall.PassesOn r.target k priority h') ∧
    (a.chronicle.hall.isSent r.target k = false →
      (∀ ticket, ⟨ticket, k⟩ ∉ a.chronicle.hall.broker.line r.target) →
      a.chronicle.hall.Vanishes r.target k h') := by
  have coherent := reachable.chronicle.hall.coherent
  have ticketed := reachable.chronicle.hall.ticketed bound
  refine ⟨?_, fun ticket mem => ends.withdraws coherent ticketed live mem, fun sent => ?_,
    fun unsent absent => ends.vanishes coherent ticketed live ?_ absent⟩
  · obtain ⟨h₁, rfl, _⟩ := ends.is_drop coherent live
    exact Hall.requests_drop h₁ k
  · obtain rfl := ends.dropped_of_sent sent
    obtain ⟨priority, last, recorded⟩ := reachable.recalls r.target k sent
    exact ⟨rfl, priority, last, Hall.drop_passesOn coherent ticketed sent
      (owned_of_sent reachable sent) recorded⟩
  · simpa [Hall.isSent_of_get? live, Hall.isSentTo] using unsent

/-- The first of two waiters was just sent the resource, and a third request has no time. -/
def handedOn : Annals Nat Nat :=
  ((((opening { Settings.standard with maxResources := 1, waiterCapacity := 2 }).next
    (.register 7 70 none)).next .takeAny).next (.start 0 7 .unlimited)).next
      (.start 1 7 .unlimited) |>.next (.start 2 7 (.limit 0)) |>.next (.poll 0 .cancelFirst)
    |>.next (.poll 1 .cancelFirst) |>.next (.release 3 7)

theorem abandonment_exact_handedOn :
    (handedOn.chronicle.hall.PassesOn 7 0 3 (handedOn.chronicle.hall.drop 0) ∧
      handedOn.chronicle.hall.Serves 7 ⟨1, 1⟩ (handedOn.chronicle.hall.drop 0)) ∧
    handedOn.chronicle.hall.Withdraws 7 ⟨1, 1⟩ (handedOn.chronicle.hall.drop 1) ∧
    handedOn.chronicle.hall.Vanishes 7 2 (handedOn.chronicle.hall.poll .cancelFirst 2).2 := by
  have kept : ∀ {c : Chronicle Nat Nat} {op : Operation Nat Nat},
      (∀ priority id, op ≠ .release priority id) → Chronicle.Honest c op :=
    fun kept priority id heq => absurd heq (kept priority id)
  have queued : Reachable { Settings.standard with maxResources := 1, waiterCapacity := 2 }
      (((((opening { Settings.standard with maxResources := 1, waiterCapacity := 2 }).next
        (.register 7 70 none)).next .takeAny).next (.start 0 7 .unlimited)).next
        (.start 1 7 .unlimited) |>.next (.start 2 7 (.limit 0)) |>.next (.poll 0 .cancelFirst)
        |>.next (.poll 1 .cancelFirst) : Annals Nat Nat) :=
    .next _ (kept (by simp)) (.next _ (kept (by simp)) (.next _ (kept (by simp))
      (.next _ (kept (by simp)) (.next _ (kept (by simp)) (.next _ (kept (by simp))
        (.next _ (kept (by simp)) .start))))))
  have reachable : Reachable { Settings.standard with maxResources := 1, waiterCapacity := 2 }
      handedOn := by
    refine .next _ ?_ queued
    rintro priority id ⟨rfl, rfl⟩
    decide
  have bound : handedOn.chronicle.hall.ticketsIssued < 2 ^ 64 := by decide
  have sent : handedOn.chronicle.hall.requests.get? 0 =
      some ⟨7, .unlimited, none, .queued 0 (.sent 70), true⟩ := rfl
  have waiting : handedOn.chronicle.hall.requests.get? 1 =
      some ⟨7, .unlimited, none, .queued 1 .awaited, false⟩ := rfl
  have fresh : handedOn.chronicle.hall.requests.get? 2 =
      some ⟨7, .limit 0, none, .fresh, false⟩ := rfl
  obtain ⟨_, _, passes, _⟩ := abandonment_exact reachable bound sent .dropped
  obtain ⟨_, withdraws, _⟩ := abandonment_exact reachable bound waiting .dropped
  have late : (handedOn.chronicle.hall.poll .cancelFirst 2).1 = some (.error .timedOut) := rfl
  obtain ⟨_, _, _, vanishes⟩ := abandonment_exact reachable bound fresh (.timedOut late)
  obtain ⟨_, priority, last, passed⟩ := passes (by decide)
  obtain rfl : (3 : Priority) = priority := Option.some.inj last
  have absent : ∀ ticket, (⟨ticket, 2⟩ : Signal) ∉ handedOn.chronicle.hall.broker.line 7 := by
    intro ticket mem
    have line : handedOn.chronicle.hall.broker.line 7 = [⟨1, 1⟩] := by decide
    simp [line] at mem
  exact ⟨⟨passed, (passed.waiter ⟨1, 1⟩ [] (by decide)).1⟩, withdraws 1 (by decide),
    vanishes (by decide) absent⟩

end Annals

end Custody
