import Custody.Proofs.Hall.Polls

/-!
# Two ways to take what is idle

The best ranked resource can be taken by asking for any, or by asking for it. One pulls the
first id out of the ranking, the other looks for the id and unlinks it where it stands; both
leave the same broker.

* `Broker.request_first`: the two ways agree on a broker;
* `Hall.poll_first`: a first poll takes what is first in the ranking;
* `Hall.ways_agree`: they agree after every run.
-/

namespace Custody

namespace Broker

variable {ι ρ : Type} [DecidableEq ι] {b : Broker ι ρ} {id : ι} {rest : List ι}

/-- Pulling the ranking takes its first id out, to the slot. -/
theorem pull?_first (h : b.Valid) (first : b.idleIds = id :: rest) :
    b.idle.pull? = some (id, b.unrank id) := by
  have pulled := RankedQueue.pullEntry?_eq h.sound
  cases hentries : b.idle.entries with
  | nil => simp [idleIds, RankedQueue.toList, hentries] at first
  | cons entry entries =>
    simp only [hentries] at pulled
    obtain ⟨idle, pulled, -⟩ := pulled
    obtain rfl : entry.2 = id := by
      simp only [idleIds, RankedQueue.toList, hentries, List.map_cons, List.cons.injEq] at first
      exact first.1
    have erased := (RankedQueue.erase?_first h.sound hentries).trans pulled
    simp [RankedQueue.pull?, pulled, unrank, erased]

/-- Who asks for the id that is first in the ranking gets what one who asks for any gets, and
leaves the same broker. -/
theorem request_first (h : b.Valid) (first : b.idleIds = id :: rest) :
    ∃ record, b.records.get? id = some record ∧ b.takeAny?.1 = some (id, record.resource) ∧
      ∀ caller cancelled,
        b.request id caller cancelled = (.granted record.resource, b.takeAny?.2) := by
  have free : b.isBusy? id = some false := h.ranked_free id (by simp [first])
  obtain ⟨record, known, busy⟩ := exists_record free
  have pulled := pull?_first h first
  refine ⟨record, known, by simp [takeAny?, pulled, known], fun caller cancelled => ?_⟩
  simp [request, takeAny?, pulled, known, busy]

end Broker

namespace Hall

variable {ι ρ : Type} [DecidableEq ι] {settings : Settings} {h : Hall ι ρ} {x : ι}
  {rest : List ι} {k : RequestId} {r : Request ι ρ}

/-- A request for the id that is first in the ranking gets the resource at its first poll,
cancelled or not and however short its time is. -/
theorem poll_first (valid : h.broker.Valid) (first : h.broker.idleIds = x :: rest)
    (live : h.requests.get? k = some r) (fresh : r.stage = .fresh) (target : r.target = x)
    (tie : Tie) :
    ∃ record, h.broker.records.get? x = some record ∧
      h.broker.takeAny?.1 = some (x, record.resource) ∧
      h.poll tie k = (some (.ok record.resource),
        ({ h with broker := h.broker.takeAny?.2 }.report [.tookIdle x]).remove k) := by
  obtain ⟨record, known, taken, granted⟩ := Broker.request_first valid first
  refine ⟨record, known, taken, ?_⟩
  have asked : (h.look k r).broker.request (r.polledAt h.now).target k
      ((h.look k r).isCancelled (r.polledAt h.now)) =
      (.granted record.resource, h.broker.takeAny?.2) := by
    rw [Request.target_polledAt, target]
    exact granted k _
  rw [poll_eq live]
  simp only [advanceRequest, Request.stage_polledAt, fresh, attempt, asked]
  simp [look, setRequest, report, remove, Registry.erase_put, target]

/-- A request that was just started is there to be polled, and nobody else's has changed. -/
theorem start_fresh (coherent : h.Coherent) (new : h.nextRequest ≤ k) (x : ι)
    (patience : Patience) :
    (h.step (.start k x patience)).2.requests.get? k = some (.start x patience) ∧
    (h.step (.start k x patience)).2.broker = h.broker ∧
    (h.step (.start k x patience)).2.requests.erase k = h.requests := by
  have unknown : h.requests.get? k = none := by
    cases live : h.requests.get? k with
    | none => rfl
    | some r => exact absurd (coherent.numbered k r live) (Nat.not_lt.2 new)
  have started : (h.step (.start k x patience)).2 =
      { h with nextRequest := k + 1 }.setRequest k (.start x patience) := by
    simp [step, start, Nat.not_lt.2 new]
  rw [started]
  refine ⟨by simp, rfl, ?_⟩
  simp [setRequest, Registry.erase_put, Registry.erase_of_unknown unknown]

/-- The two ways to take an idle resource agree. After every run, whatever clients did: if some
id is first in the ranking, it is registered, and whoever takes any resource gets it. So does a
request for that id at its first poll, whatever its patience, whether its token was cancelled or
not, whether it was started before or is started now. Both leave the same broker, to the last
slot of the ranking, and leave every other request as it was, so that none is woken. -/
theorem ways_agree (reachable : Reachable settings h) (first : h.broker.idleIds = x :: rest) :
    ∃ record, h.broker.records.get? x = some record ∧
      (h.step .takeAny).1 = .taken (some (x, record.resource)) ∧
      (h.step .takeAny).2.requests = h.requests ∧
      (∀ k r tie, h.requests.get? k = some r → r.stage = .fresh → r.target = x →
        (h.step (.poll k tie)).1 = .outcome (.ok record.resource) ∧
        (h.step (.poll k tie)).2.broker = (h.step .takeAny).2.broker ∧
        (h.step (.poll k tie)).2.requests = h.requests.erase k) ∧
      ∀ k patience tie, h.nextRequest ≤ k →
        ((h.step (.start k x patience)).2.step (.poll k tie)).1 =
          .outcome (.ok record.resource) ∧
        ((h.step (.start k x patience)).2.step (.poll k tie)).2.broker =
          (h.step .takeAny).2.broker ∧
        ((h.step (.start k x patience)).2.step (.poll k tie)).2.requests = h.requests := by
  have coherent := reachable.coherent
  obtain ⟨record, known, taken, -⟩ := Broker.request_first coherent.broker first
  have any : (h.step .takeAny).1 = .taken (some (x, record.resource)) ∧
      (h.step .takeAny).2 = { h with broker := h.broker.takeAny?.2 }.report [.tookAny x] := by
    rcases answered : h.broker.takeAny? with ⟨found, b⟩
    rw [answered] at taken
    obtain rfl : found = some (x, record.resource) := taken
    simp [step, takeAny, answered]
  have polled : ∀ {g : Hall ι ρ} {k : RequestId} {r : Request ι ρ} (tie : Tie),
      g.broker = h.broker → g.requests.get? k = some r → r.stage = .fresh → r.target = x →
      (g.step (.poll k tie)).1 = .outcome (.ok record.resource) ∧
      (g.step (.poll k tie)).2.broker = (h.step .takeAny).2.broker ∧
      (g.step (.poll k tie)).2.requests = g.requests.erase k := by
    intro g k r tie same live fresh target
    obtain ⟨record', known', -, polled⟩ := poll_first (same ▸ coherent.broker)
      (same ▸ first) live fresh target tie
    rw [same, known] at known'
    obtain rfl := Option.some.inj known'
    rw [any.2]
    simp [step, polled, same, report, remove]
  refine ⟨record, known, any.1, by simp [any, report], ?_, ?_⟩
  · intro k r tie live fresh target
    exact polled tie rfl live fresh target
  · intro k patience tie new
    obtain ⟨live, same, erased⟩ := start_fresh coherent new x patience
    obtain ⟨answer, broker, requests⟩ := polled tie same live rfl rfl
    exact ⟨answer, broker, requests.trans erased⟩

/-- The ranking is full, and its last slot held an id that was withdrawn; a request for the first
id was started with a token that is cancelled. -/
def crammed : Hall Nat Nat :=
  ((opening (.empty { Settings.standard with maxResources := 3, order := .descending })).run
    [.register 1 10 (some 5), .register 2 20 (some 9), .register 3 30 (some 7), .withdraw 3,
      .start 0 2 .unlimited, .poll 0 .cancelFirst, .release 4 2, .start 1 1 (.token "t"),
      .cancel "t"]).2

theorem ways_agree_crammed :
    (crammed.step .takeAny).1 = .taken (some (1, 10)) ∧
    (crammed.step (.poll 1 .retryFirst)).1 = .outcome (.ok 10) ∧
    (crammed.step (.poll 1 .retryFirst)).2.broker = (crammed.step .takeAny).2.broker ∧
    ((crammed.step (.start 2 1 (.limit 0))).2.step (.poll 2 .cancelFirst)).1 =
      .outcome (.ok 10) := by
  have reachable : Reachable { Settings.standard with maxResources := 3, order := .descending }
      crammed := Reachable.start.run _
  have first : crammed.broker.idleIds = 1 :: [2] := by decide
  obtain ⟨record, known, any, -, waiting, starting⟩ := ways_agree reachable first
  obtain ⟨answer, same, -⟩ := waiting 1 (.start 1 (.token "t")) .retryFirst (by decide) rfl rfl
  have resource : record.resource = 10 := by
    have found : (crammed.broker.records.get? 1).map (·.resource) = some 10 := by decide
    rw [known] at found
    exact Option.some.inj found
  obtain ⟨started, -⟩ := starting 2 (.limit 0) .cancelFirst (by decide)
  rw [resource] at any answer started
  exact ⟨any, answer, same, started⟩

end Hall

end Custody
