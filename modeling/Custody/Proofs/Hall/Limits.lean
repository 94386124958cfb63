import Custody.Proofs.Broker.Regular
import Custody.Proofs.Hall.Polls

/-!
# What operations never run into

The branches of the broker that a full queue or a lost id would lead to are never taken,
whatever clients do.

* `Hall.step_regular`: the broker of a hall stays regular;
* `Hall.RanksAll`, `Hall.step_ranksAll`: no resource was ever left out of the ranking;
* `Hall.within_limits`: the state invariant of a broker, and the branches it closes.
-/

namespace Custody

namespace Hall

variable {ι ρ : Type} [DecidableEq ι] {h : Hall ι ρ} {settings : Settings}

/-! ### Regular brokers -/

omit [DecidableEq ι] in
@[simp]
theorem broker_deliver (h : Hall ι ρ) (delivery : Option (RequestId × ρ)) :
    (h.deliver delivery).broker = h.broker := by
  cases delivery <;> rfl

theorem release_broker (h : Hall ι ρ) (priority : Priority) (id : ι) :
    (h.release priority id).2.broker = (h.broker.handOver h.listens id priority).broker := by
  unfold release
  simp only
  split
  · rfl
  · simp [report, notifyParked, changeRequests]

theorem abandon_regular (regular : h.broker.Regular settings) (r : Request ι ρ) :
    (h.abandon r).broker.Regular settings := by
  unfold abandon
  split
  · unfold abandonSignal
    split
    · rename_i left
      exact regular.leave left
    · split
      · simp only [report, notifyParked, changeRequests, broker_deliver]
        exact regular.handOver _ _ _
      · exact regular
      · exact regular
  · exact regular
  · exact regular

theorem attempt_regular (regular : h.broker.Regular settings) (k : RequestId) (r : Request ι ρ)
    (wasParked : Bool) : (h.attempt k r wasParked).2.broker.Regular settings := by
  have asked := regular.request r.target k (h.isCancelled r)
  unfold attempt
  split <;> (rename_i heq; rw [heq] at asked; exact asked)

theorem lasts_regular (settings : Settings) :
    Lasts fun h : Hall ι ρ => h.broker.Regular settings where
  attempt regular := attempt_regular regular
  abandon regular := abandon_regular regular
  woken regular _ _ := regular
  setRequest regular _ _ := regular
  remove regular _ := regular

/-- Every operation of a hall keeps its broker regular. -/
theorem step_regular (regular : h.broker.Regular settings) (op : Operation ι ρ) :
    (h.step op).2.broker.Regular settings := by
  cases op with
  | register id resource priority? =>
    simp only [step, register]
    split
    · exact regular
    · rename_i hok
      exact regular.register hok
  | unregister id =>
    have gone := regular.unregister id
    simp only [step, unregister]
    split <;> (rename_i heq; rw [heq] at gone; exact gone)
  | start k id patience =>
    simp only [step, start]
    split <;> exact regular
  | poll k tie =>
    rw [step_poll]
    exact (lasts_regular settings).poll regular tie k
  | drop k => exact (lasts_regular settings).drop regular k
  | cancel | elapse => exact regular
  | takeAny =>
    have taken := regular.takeAny
    simp only [step, takeAny]
    split <;> (rename_i heq; rw [heq] at taken; exact taken)
  | release priority id =>
    simp only [step, release_broker]
    exact regular.handOver _ _ _
  | withdraw id => exact regular.withdraw id

theorem Reachable.regular (reachable : Reachable settings h) :
    h.broker.Regular settings := by
  induction reachable with
  | start => exact Broker.regular_empty settings
  | next op _ ih => exact step_regular ih op

/-! ### Nothing is left out of the ranking -/

/-- No resource was ever left out of the ranking for want of room. -/
def RanksAll (h : Hall ι ρ) : Prop := ∀ id, Event.leftUnranked id ∉ h.log

omit [DecidableEq ι] in
theorem RanksAll.report (all : h.RanksAll) {events : List (Event ι)}
    (none : ∀ id, Event.leftUnranked id ∉ events) : (h.report events).RanksAll := by
  intro id mem
  rcases List.mem_append.1 mem with mem | mem
  · exact all id mem
  · exact none id mem

theorem ofHanding_ranked (valid : h.broker.Valid) (priority : Priority) (target id : ι) :
    Event.leftUnranked id ∉
      Event.ofHanding target (h.broker.handOver h.listens target priority) := by
  intro mem
  have ranked := valid.handOver_ranked h.listens target priority
  simp only [Event.ofHanding, ranked, Bool.false_eq_true, if_false, List.append_nil,
    List.mem_append, List.mem_map] at mem
  rcases mem with mem | ⟨_, _, heq⟩
  · split at mem
    · cases List.mem_singleton.1 mem
    · cases mem
  · cases heq

omit [DecidableEq ι] in
theorem log_deliver (h : Hall ι ρ) (delivery : Option (RequestId × ρ)) :
    (h.deliver delivery).log = h.log := by
  cases delivery <;> rfl

theorem abandon_ranksAll (valid : h.broker.Valid) (all : h.RanksAll) (r : Request ι ρ) :
    (h.abandon r).RanksAll := by
  unfold abandon
  split
  · unfold abandonSignal
    split
    · apply RanksAll.report all
      simp
    · split
      · apply RanksAll.report
        · intro id
          simp only [notifyParked, changeRequests, log_deliver]
          exact all id
        · intro id mem
          rcases List.mem_append.1 mem with mem | mem
          · exact ofHanding_ranked valid _ _ id mem
          · cases List.mem_singleton.1 mem
      · exact all
      · exact all
  · exact all
  · exact all

theorem attempt_ranksAll (all : h.RanksAll) (k : RequestId) (r : Request ι ρ)
    (wasParked : Bool) : (h.attempt k r wasParked).2.RanksAll := by
  unfold attempt
  split
  · exact all
  · apply RanksAll.report all
    simp
  · exact all
  · exact all
  · apply RanksAll.report all
    simp

theorem lasts_ranksAll (settings : Settings) :
    Lasts fun h : Hall ι ρ => h.broker.Regular settings ∧ h.RanksAll where
  attempt := fun ⟨regular, all⟩ k r wasParked =>
    ⟨attempt_regular regular k r wasParked, attempt_ranksAll all k r wasParked⟩
  abandon := fun ⟨regular, all⟩ r =>
    ⟨abandon_regular regular r, abandon_ranksAll regular.valid all r⟩
  woken := fun ⟨regular, all⟩ _ _ => ⟨regular, all.report (by simp)⟩
  setRequest kept _ _ := kept
  remove kept _ := kept

theorem release_ranksAll (valid : h.broker.Valid) (all : h.RanksAll) (priority : Priority)
    (id : ι) : (h.release priority id).2.RanksAll := by
  have ranked : ∀ k, Event.leftUnranked k ∉
      Event.ofHanding id (h.broker.handOver h.listens id priority) :=
    ofHanding_ranked valid priority id
  unfold release
  simp only
  split
  · exact RanksAll.report (h := { h with broker := _ }) all ranked
  · rename_i handover _
    rw [deliver_report]
    apply RanksAll.report
    · intro k mem
      simp only [notifyParked, changeRequests, report, log_deliver] at mem
      exact RanksAll.report all ranked k mem
    · cases handover <;> simp

theorem step_ranksAll (regular : h.broker.Regular settings) (all : h.RanksAll)
    (op : Operation ι ρ) : (h.step op).2.RanksAll := by
  cases op with
  | register id resource priority? =>
    simp only [step, register]
    split
    · exact all
    · apply RanksAll.report all
      simp
  | unregister id =>
    simp only [step, unregister]
    split
    · exact all
    · apply RanksAll.report all
      intro k mem
      rcases List.mem_append.1 mem with mem | mem
      · split at mem
        · cases mem
        · cases List.mem_singleton.1 mem
      · cases List.mem_singleton.1 mem
  | start k id patience =>
    simp only [step, start]
    split <;> exact all
  | poll k tie =>
    rw [step_poll]
    exact ((lasts_ranksAll settings).poll ⟨regular, all⟩ tie k).2
  | drop k => exact ((lasts_ranksAll settings).drop ⟨regular, all⟩ k).2
  | cancel | elapse | withdraw => exact all
  | takeAny =>
    simp only [step, takeAny]
    split
    · exact all
    · apply RanksAll.report all
      simp
  | release priority id => exact release_ranksAll regular.valid all priority id

theorem Reachable.ranksAll (reachable : Reachable settings h) : h.RanksAll := by
  induction reachable with
  | start => simp [RanksAll, opening]
  | next op reachable ih => exact step_ranksAll reachable.regular ih op

/-! ### The invariant of a broker -/

/-- A broker keeps within its limits. In every run, whatever clients do and however small the
capacities are, what is ranked is ranked once, registered and free; nobody waits for a free
resource, nor more callers than there is room for; no id is both registered and retired;
and the counts keep to the capacities. So a resource that is registered or given up is
always ranked, and none ever was left out; the best ranked id is registered and free; and a
waiting queue that is not full takes another caller. -/
theorem within_limits (reachable : Reachable settings h) :
    (h.broker.idleIds.Nodup ∧ ∀ id ∈ h.broker.idleIds, h.broker.isBusy? id = some false) ∧
    (∀ id record, h.broker.records.get? id = some record →
      (record.waiters.toList ≠ [] → record.busy = true) ∧
      record.waiters.size ≤ settings.waiterCapacity.toNat) ∧
    (∀ id, h.broker.contains id = true → id ∉ h.broker.retired) ∧
    (h.broker.stats.idle + h.broker.stats.busy ≤ h.broker.stats.registered ∧
      h.broker.stats.registered ≤ settings.maxResources.toNat ∧
      h.broker.stats.waiting ≤ h.broker.stats.busy * settings.waiterCapacity.toNat) ∧
    (∀ id priority, h.broker.contains id = false → id ∉ h.broker.retired →
      h.broker.records.size < settings.maxResources.toNat →
      ∃ idle, h.broker.idle.push priority id = .ok idle) ∧
    ((∀ listens id priority, (h.broker.handOver listens id priority).unranked = false) ∧
      ∀ id, Event.leftUnranked id ∉ h.log) ∧
    (∀ id idle, h.broker.idle.pull? = some (id, idle) →
      ∃ record, h.broker.records.get? id = some record ∧ record.busy = false) ∧
    ∀ id record signal, h.broker.records.get? id = some record →
      record.waiters.isFull = false → ∃ waiters, record.waiters.push signal = .ok waiters := by
  have regular := reachable.regular
  have valid := regular.valid
  rw [← regular.kept]
  refine ⟨⟨valid.ranked_nodup, valid.ranked_free⟩, ?_, ?_, ⟨valid.idle_add_busy_le,
    valid.size_le, valid.waiting_le⟩, ?_, ⟨valid.handOver_ranked, reachable.ranksAll⟩, ?_, ?_⟩
  · intro id record hget
    have hrecord := valid.record id record hget
    refine ⟨hrecord.busy_of_waiters, ?_⟩
    rw [← hrecord.capacity]
    exact Queue.size_le_capacity hrecord.sound
  · intro id registered
    exact valid.not_retired ((h.broker.contains_iff id).1 registered)
  · intro id priority _ _ room
    obtain ⟨idle, hpush, _⟩ := valid.push_ranked id priority (.inr room)
    exact ⟨idle, hpush⟩
  · intro id idle pulled
    have first := RankedQueue.pull?_eq valid.sound
    have free : id ∈ h.broker.idleIds := by
      split at first
      · simp [first] at pulled
      · rename_i entry rest hentries
        obtain ⟨_, hpull, _⟩ := first
        rw [hpull, Option.some.injEq, Prod.mk.injEq] at pulled
        simp [Broker.idleIds, RankedQueue.toList, hentries, pulled.1]
    exact Broker.exists_record (valid.ranked_free id free)
  · intro id record signal hget room
    simp [Queue.push, room]

/-- The broker has no room for waiters. Its resource was given up twice, once by someone who
had it and once by someone who had not, and was withdrawn from the ranking. -/
def cramped : Hall Nat Nat :=
  ((opening (.empty { Settings.standard with maxResources := 2, waiterCapacity := 0 })).run
    [.register 7 70 none, .takeAny, .start 0 7 .unlimited, .poll 0 .cancelFirst, .release 3 7,
      .release 3 7, .withdraw 7]).2

theorem within_limits_cramped :
    cramped.broker.idleIds = [] ∧ cramped.broker.isBusy? 7 = some false ∧
    cramped.broker.stats.registered ≤ 2 ∧ cramped.broker.stats.waiting ≤ 0 ∧
    (∃ idle, cramped.broker.idle.push 5 8 = .ok idle) ∧
    ∀ id, Event.leftUnranked id ∉ cramped.log := by
  have reachable : Reachable { Settings.standard with maxResources := 2, waiterCapacity := 0 }
      cramped := Reachable.start.run _
  obtain ⟨_, _, _, ⟨_, registered, waiting⟩, push, ⟨_, ranksAll⟩, _⟩ := within_limits reachable
  exact ⟨by decide, by decide, registered, waiting,
    push 8 5 (by decide) (by decide) (by decide), ranksAll⟩

end Hall

end Custody
