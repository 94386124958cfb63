import Custody.Proofs.Broker.Lines
import Custody.Proofs.Broker.Regular

/-!
# Brokers that differ in one id

Two brokers may agree on every id but one. An operation on that id is not noticed from the
others, and an operation on another id does the same in both.

* `Broker.AgreeOff`: what is on record is the same but for one id, tickets aside;
* `Broker.register_apart`, `Broker.unregister_apart`, `Broker.request_apart`,
  `Broker.withdraw_apart`, `Broker.handOver_apart`, `Broker.leave_apart`: an operation
  changes nothing off its id;
* `Broker.AgreeOff.register`, `Broker.AgreeOff.unregister`, `Broker.AgreeOff.request`,
  `Broker.AgreeOff.withdraw`, `Broker.AgreeOff.handOver`, `Broker.AgreeOff.leave`: an
  operation on another id keeps brokers in agreement.
-/

namespace Custody

section Lists

variable {α : Type} {l : List α} {p q : α → Bool}

/-- What a filter drops can be taken out before. -/
theorem filter_eraseP_of_dropped (dropped : ∀ a, p a = true → q a = false) :
    (l.eraseP p).filter q = l.filter q := by
  induction l with
  | nil => rfl
  | cons a l ih =>
    by_cases ha : p a = true
    · rw [List.eraseP_cons_of_pos ha, List.filter_cons_of_neg (by simp [dropped a ha])]
    · rw [List.eraseP_cons_of_neg ha, List.filter_cons, List.filter_cons, ih]

/-- What a filter keeps can be taken out before it or behind it. -/
theorem filter_eraseP_of_kept (kept : ∀ a, p a = true → q a = true) :
    (l.eraseP p).filter q = (l.filter q).eraseP p := by
  induction l with
  | nil => rfl
  | cons a l ih =>
    by_cases ha : p a = true
    · rw [List.eraseP_cons_of_pos ha, List.filter_cons_of_pos (kept a ha),
        List.eraseP_cons_of_pos ha]
    · rw [List.eraseP_cons_of_neg ha, List.filter_cons, List.filter_cons]
      split
      · rw [List.eraseP_cons_of_neg ha, ih]
      · exact ih

theorem map_erase_of_nodup {β : Type} [DecidableEq α] [DecidableEq β] {f : α → β} {a : α}
    (nodup : (l.map f).Nodup) (mem : a ∈ l) : (l.erase a).map f = (l.map f).erase (f a) := by
  induction l with
  | nil => cases mem
  | cons b l ih =>
    rw [List.map_cons, List.nodup_cons] at nodup
    by_cases hb : b = a
    · rw [hb, List.erase_cons_head, List.map_cons, List.erase_cons_head]
    · have behind : a ∈ l := (List.mem_cons.1 mem).resolve_left (Ne.symm hb)
      have other : f b ≠ f a := fun same => nodup.1 (same ▸ List.mem_map_of_mem behind)
      rw [List.erase_cons_tail (by simpa using hb), List.map_cons, List.map_cons,
        List.erase_cons_tail (by simpa using other), ih nodup.2 behind]

end Lists

/-- An entry of the ranking that leaves a filter leaves no gap. -/
theorem RankedQueue.filter_ranked_of_dropped {α : Type} (order : ServingOrder)
    {entry : Priority × α} {entries : List (Priority × α)} {p : Priority × α → Bool}
    (dropped : p entry = false) : (ranked order entry entries).filter p = entries.filter p := by
  have split := entries.takeWhile_append_dropWhile
    (p := fun incumbent => !order.before entry.1 incumbent.1)
  rw [ranked, List.filter_append, List.filter_cons_of_neg (by simp [dropped]),
    ← List.filter_append, split]

/-- An entry without its tickets. -/
def Entry.outline {ρ : Type} (entry : Entry ρ) : Entry ρ :=
  { entry with waiters := entry.waiters.map fun signal => ⟨0, signal.request⟩ }

theorem Entry.outline_eq_iff {ρ : Type} {e e' : Entry ρ} :
    e.outline = e'.outline ↔ e.resource = e'.resource ∧ e.busy = e'.busy ∧
      e.waiters.map Signal.request = e'.waiters.map Signal.request ∧
      e.lastPriority = e'.lastPriority := by
  have split : ∀ line : List Signal, line.map (fun signal => (⟨0, signal.request⟩ : Signal)) =
      (line.map Signal.request).map fun k => ⟨0, k⟩ := fun line => by simp
  have inj : Function.Injective fun k : RequestId => (⟨0, k⟩ : Signal) := fun k k' same =>
    (Signal.mk.inj same).2
  simp only [outline, Entry.mk.injEq, split, inj.list_map.eq_iff]

/-- A reception without its ticket. -/
def Reception.outline {ρ : Type} : Reception ρ → Reception ρ
  | .queued _ => .queued 0
  | .unknown => .unknown
  | .granted resource => .granted resource
  | .cancelled => .cancelled
  | .full => .full

namespace Broker

variable {ι ρ : Type} [DecidableEq ι] {b b' c c' d : Broker ι ρ} {x y : ι}

/-- The two brokers agree on every id but one, tickets aside. -/
structure AgreeOff (x : ι) (b c : Broker ι ρ) : Prop where
  settings : c.settings = b.settings
  order : c.idle.order = b.idle.order
  entry : ∀ y, y ≠ x → (c.onRecord? y).map Entry.outline = (b.onRecord? y).map Entry.outline
  ranking : (c.ranking.filter fun ranked => ranked.2 ≠ x) =
    b.ranking.filter fun ranked => ranked.2 ≠ x
  retired : ∀ y, y ≠ x → (y ∈ c.retired ↔ y ∈ b.retired)

/-- What was given up went the same way at two brokers that agree but for an id. -/
structure HandedAlike (x : ι) (handing handing' : Handing ι ρ) : Prop where
  verdict : handing'.verdict = handing.verdict
  delivery : handing'.delivery = handing.delivery
  agree : AgreeOff x handing.broker handing'.broker

namespace AgreeOff

theorem refl (x : ι) (b : Broker ι ρ) : AgreeOff x b b :=
  ⟨rfl, rfl, fun _ _ => rfl, rfl, fun _ _ => Iff.rfl⟩

theorem symm (agree : AgreeOff x b c) : AgreeOff x c b where
  settings := agree.settings.symm
  order := agree.order.symm
  entry y hy := (agree.entry y hy).symm
  ranking := agree.ranking.symm
  retired y hy := (agree.retired y hy).symm

theorem trans (first : AgreeOff x b c) (second : AgreeOff x c d) : AgreeOff x b d where
  settings := second.settings.trans first.settings
  order := second.order.trans first.order
  entry y hy := (second.entry y hy).trans (first.entry y hy)
  ranking := second.ranking.trans first.ranking
  retired y hy := (second.retired y hy).trans (first.retired y hy)

/-- Another id is unknown to both, or both have the same on record of it. -/
theorem entry_cases (agree : AgreeOff x b c) (hy : y ≠ x) :
    (b.onRecord? y = none ∧ c.onRecord? y = none) ∨
    ∃ e e', b.onRecord? y = some e ∧ c.onRecord? y = some e' ∧ e'.outline = e.outline := by
  have same := agree.entry y hy
  cases hb : b.onRecord? y with
  | none =>
    rw [hb] at same
    exact .inl ⟨rfl, by simpa using same⟩
  | some e =>
    rw [hb, Option.map_some, Option.map_eq_some_iff] at same
    obtain ⟨e', hc, same⟩ := same
    exact .inr ⟨e, e', rfl, hc, same⟩

/-- Edits of another id that write the same keep brokers in agreement. -/
theorem edit (agree : AgreeOff x b c) {e e' : Option (Entry ρ)}
    {ranking ranking' : List (Priority × ι)} {retired retired' : List ι}
    {ticket ticket' : UInt64} (editB : Edit b b' y e ranking retired ticket)
    (editC : Edit c c' y e' ranking' retired' ticket')
    (same : e'.map Entry.outline = e.map Entry.outline)
    (ranked : (ranking'.filter fun ranked => ranked.2 ≠ x) =
      ranking.filter fun ranked => ranked.2 ≠ x)
    (gone : ∀ z, z ≠ x → (z ∈ retired' ↔ z ∈ retired)) : AgreeOff x b' c' where
  settings := by rw [editC.settings, editB.settings, agree.settings]
  order := by rw [editC.order, editB.order, agree.order]
  entry z hz := by
    rw [editC.entry, editB.entry]
    split
    · exact same
    · exact agree.entry z hz
  ranking := by rw [editC.ranking, editB.ranking, ranked]
  retired z hz := by rw [editC.retired, editB.retired, gone z hz]

theorem rankingWithout (agree : AgreeOff x b c) (hy : y ≠ x) :
    ((c.rankingWithout y).filter fun ranked => ranked.2 ≠ x) =
      (b.rankingWithout y).filter fun ranked => ranked.2 ≠ x := by
  have kept : ∀ ranked : Priority × ι, (ranked.2 == y) = true → decide (ranked.2 ≠ x) = true := by
    intro ranked same
    have same : ranked.2 = y := by simpa using same
    simp [same, hy]
  rw [Broker.rankingWithout, Broker.rankingWithout, filter_eraseP_of_kept kept,
    filter_eraseP_of_kept kept, agree.ranking]

theorem rankingWith {settings : Settings} (agree : AgreeOff x b c) (hy : y ≠ x)
    (regular : b.Regular settings) (regular' : c.Regular settings) (priority : Priority) :
    ((c.rankingWith priority y).filter fun ranked => ranked.2 ≠ x) =
      (b.rankingWith priority y).filter fun ranked => ranked.2 ≠ x := by
  rw [Broker.rankingWith, Broker.rankingWith, regular.order, regular'.order,
    RankedQueue.filter_ranked regular.sorted (by simp [hy]),
    RankedQueue.filter_ranked regular'.sorted (by simp [hy]), agree.ranking]

theorem mem_idleIds (agree : AgreeOff x b c) (hy : y ≠ x) :
    y ∈ c.idleIds ↔ y ∈ b.idleIds := by
  have off : ∀ d : Broker ι ρ, y ∈ d.idleIds ↔
      ∃ ranked ∈ d.ranking.filter (fun ranked => ranked.2 ≠ x), ranked.2 = y := by
    intro d
    rw [idleIds_eq, List.mem_map]
    constructor
    · rintro ⟨ranked, mem, rfl⟩
      exact ⟨ranked, List.mem_filter.2 ⟨mem, by simpa using hy⟩, rfl⟩
    · rintro ⟨ranked, mem, rfl⟩
      exact ⟨ranked, List.mem_of_mem_filter mem, rfl⟩
  rw [off, off, agree.ranking]

theorem lastPriority (agree : AgreeOff x b c) (hy : y ≠ x) :
    c.lastPriority y = b.lastPriority y := by
  rcases agree.entry_cases hy with ⟨hb, hc⟩ | ⟨e, e', hb, hc, same⟩
  · simp only [Broker.onRecord?, Option.map_eq_none_iff] at hb hc
    simp [Broker.lastPriority, hb, hc]
  · rw [lastPriority_of_onRecord? hb, lastPriority_of_onRecord? hc,
      (Entry.outline_eq_iff.1 same).2.2.2]

end AgreeOff

/-! ### Operations on the id itself -/

/-- An edit is not noticed from other ids, if the ranking and the retired ids are the same
but for its own. -/
theorem Edit.apart {e : Option (Entry ρ)} {ranking : List (Priority × ι)} {retired : List ι}
    {ticket : UInt64} (edit : Edit b b' x e ranking retired ticket)
    (ranked : (ranking.filter fun ranked => ranked.2 ≠ x) =
      b.ranking.filter fun ranked => ranked.2 ≠ x)
    (gone : ∀ y, y ≠ x → (y ∈ retired ↔ y ∈ b.retired)) : AgreeOff x b b' where
  settings := edit.settings
  order := edit.order
  entry y hy := by rw [edit.entry, if_neg hy]
  ranking := by rw [edit.ranking, ranked]
  retired y hy := by rw [edit.retired, gone y hy]

theorem rankingWithout_apart (b : Broker ι ρ) (x : ι) :
    ((b.rankingWithout x).filter fun ranked => ranked.2 ≠ x) =
      b.ranking.filter fun ranked => ranked.2 ≠ x :=
  filter_eraseP_of_dropped fun ranked same => by simpa using same

theorem rankingWith_apart (b : Broker ι ρ) (priority : Priority) (x : ι) :
    ((b.rankingWith priority x).filter fun ranked => ranked.2 ≠ x) =
      b.ranking.filter fun ranked => ranked.2 ≠ x :=
  RankedQueue.filter_ranked_of_dropped _ (by simp)

theorem register_apart (h : b.Valid) {resource : ρ} {priority : Priority}
    (hok : b.register x resource priority = .ok b') : AgreeOff x b b' :=
  (register_edit h hok).apart (rankingWith_apart b priority x) fun _ _ => Iff.rfl

theorem unregister_apart (h : b.Valid) (x : ι) : AgreeOff x b (b.unregister x).2 := by
  cases known : b.onRecord? x with
  | none =>
    rw [unregister_of_unknown h known]
    exact .refl x b
  | some entry =>
    obtain ⟨_, _, _, edit⟩ := unregister_edit h known
    refine edit.apart (rankingWithout_apart b x) fun y hy => ?_
    split <;> simp [hy]

theorem withdraw_apart (h : b.Valid) (x : ι) : AgreeOff x b (b.withdraw x).2 :=
  (withdraw_edit h x).2.apart (rankingWithout_apart b x) fun _ _ => Iff.rfl

theorem request_apart (h : b.Valid) (x : ι) (caller : RequestId) (cancelled : Bool) :
    AgreeOff x b (b.request x caller cancelled).2 := by
  cases known : b.onRecord? x with
  | none =>
    have unknown : b.isBusy? x = none := by simp [isBusy?_eq, known]
    rw [request_unknown unknown]
    exact .refl x b
  | some entry =>
    cases busy : entry.busy with
    | false =>
      exact (request_free_edit h known busy caller cancelled).2.apart (rankingWithout_apart b x)
        fun _ _ => Iff.rfl
    | true =>
      have held := isBusy?_of_onRecord? known
      rw [busy] at held
      cases cancelled with
      | true =>
        rw [request_cancelled held]
        exact .refl x b
      | false =>
        have asked := request_held_edit h known busy caller
        split at asked
        · exact asked.2.apart rfl fun _ _ => Iff.rfl
        · rw [asked]
          exact .refl x b

theorem handOver_apart (h : b.Valid) (listens : RequestId → Bool) (x : ι)
    (priority : Priority) : AgreeOff x b (b.handOver listens x priority).broker := by
  cases known : b.onRecord? x with
  | none =>
    exact (handOver_unknown_edit known listens priority).apart rfl fun y hy =>
      List.mem_erase_of_ne hy
  | some entry =>
    have hbusy := isBusy?_of_onRecord? known
    cases busy : entry.busy with
    | false =>
      rw [busy] at hbusy
      rw [(handOver_free hbusy listens priority).2.2.2]
      exact .refl x b
    | true =>
      cases first : entry.waiters.dropWhile fun signal => !listens signal.request with
      | nil =>
        exact (handOver_idle_edit h known busy first priority).2.apart
          (rankingWith_apart b priority x) fun _ _ => Iff.rfl
      | cons signal rest =>
        exact (handOver_waiter_edit h known busy first priority).2.apart rfl fun _ _ => Iff.rfl

theorem leave_apart (h : b.Valid) {ticket : UInt64} {signal : Signal}
    (left : b.leave? x ticket = some (signal, b')) : AgreeOff x b b' := by
  obtain ⟨_, _, _, _, edit⟩ := leave_edit h left
  exact edit.apart rfl fun _ _ => Iff.rfl

/-! ### Operations on another id -/

theorem Relines.edit {line : List Signal} {ticket : UInt64} {entry : Entry ρ}
    (relines : b.Relines y line ticket b') (known : b.onRecord? y = some entry) :
    Edit b b' y (some { entry with waiters := line }) b.ranking b.retired ticket := by
  obtain ⟨record, waiters, hget, rfl, rfl⟩ := relines
  rw [onRecord?_of_get? hget, Option.some.injEq] at known
  subst known
  exact Edit.of_put b y { record with waiters := waiters } rfl ticket

namespace AgreeOff

theorem isBusy? (agree : AgreeOff x b c) (hy : y ≠ x) : c.isBusy? y = b.isBusy? y := by
  rcases agree.entry_cases hy with ⟨hb, hc⟩ | ⟨e, e', hb, hc, same⟩
  · rw [isBusy?_eq, isBusy?_eq, hb, hc]
  · rw [isBusy?_of_onRecord? hb, isBusy?_of_onRecord? hc, (Entry.outline_eq_iff.1 same).2.1]

/-- The same requests are in line. -/
theorem line (agree : AgreeOff x b c) (hy : y ≠ x) :
    (c.line y).map Signal.request = (b.line y).map Signal.request := by
  rcases agree.entry_cases hy with ⟨hb, hc⟩ | ⟨e, e', hb, hc, same⟩
  · simp only [Broker.onRecord?, Option.map_eq_none_iff] at hb hc
    rw [line_of_unknown hb, line_of_unknown hc]
  · rw [line_of_onRecord? hb, line_of_onRecord? hc, (Entry.outline_eq_iff.1 same).2.2.1]

variable {settings : Settings}

/-- What can be registered in one broker can be in one that has no more resources. -/
theorem register (agree : AgreeOff x b c) (hy : y ≠ x) (regular : b.Regular settings)
    (regular' : c.Regular settings) (fewer : c.records.size ≤ b.records.size) {resource : ρ}
    {priority : Priority}
    (roomy : ∀ n, b.register y resource priority ≠ .error (.capacityExhausted n)) :
    (∃ refusal, b.register y resource priority = .error refusal ∧
      c.register y resource priority = .error refusal) ∨
    ∃ b' c', b.register y resource priority = .ok b' ∧ c.register y resource priority = .ok c' ∧
      AgreeOff x b' c' := by
  have known : (c.onRecord? y ≠ none ∨ y ∈ c.retired) ↔ (b.onRecord? y ≠ none ∨ y ∈ b.retired) := by
    rw [agree.retired y hy]
    rcases agree.entry_cases hy with ⟨hb, hc⟩ | ⟨e, e', hb, hc, _⟩ <;> simp [hb, hc]
  have casesB := register_cases regular.valid y resource priority
  have casesC := register_cases regular'.valid y resource priority
  rw [if_congr known rfl rfl] at casesC
  split at casesB
  · rename_i duplicate
    rw [if_pos duplicate] at casesC
    exact .inl ⟨_, casesB, casesC⟩
  · rename_i duplicate
    rw [if_neg duplicate] at casesC
    split at casesB
    · exact absurd casesB (roomy _)
    · rename_i room
      rw [if_neg (by rw [agree.settings]; omega)] at casesC
      obtain ⟨b', hokB⟩ := casesB
      obtain ⟨c', hokC⟩ := casesC
      refine .inr ⟨b', c', hokB, hokC, ?_⟩
      exact agree.edit (register_edit regular.valid hokB) (register_edit regular'.valid hokC) rfl
        (agree.rankingWith hy regular regular' priority) agree.retired

theorem unregister (agree : AgreeOff x b c) (hy : y ≠ x) (h : b.Valid) (h' : c.Valid) :
    (b.unregister y = (.error (.notRegistered y), b) ∧
      c.unregister y = (.error (.notRegistered y), c)) ∨
    ∃ record record', (b.unregister y).1 = .ok record ∧ (c.unregister y).1 = .ok record' ∧
      record'.resource = record.resource ∧ record.waiters.toList = b.line y ∧
      record'.waiters.toList = c.line y ∧ AgreeOff x (b.unregister y).2 (c.unregister y).2 := by
  rcases agree.entry_cases hy with ⟨hb, hc⟩ | ⟨e, e', hb, hc, same⟩
  · exact .inl ⟨unregister_of_unknown h hb, unregister_of_unknown h' hc⟩
  · obtain ⟨record, entry, okB, editB⟩ := unregister_edit h hb
    obtain ⟨record', entry', okC, editC⟩ := unregister_edit h' hc
    obtain ⟨resource, busy, _⟩ := Entry.outline_eq_iff.1 same
    refine .inr ⟨record, record', okB, okC, ?_, ?_, ?_, ?_⟩
    · rw [← entry, ← entry'] at resource
      exact resource
    · rw [line_of_onRecord? hb, ← entry]
      rfl
    · rw [line_of_onRecord? hc, ← entry']
      rfl
    · refine agree.edit editB editC rfl (agree.rankingWithout hy) fun z hz => ?_
      rw [busy]
      split
      · simp [agree.retired z hz]
      · exact agree.retired z hz

theorem withdraw (agree : AgreeOff x b c) (hy : y ≠ x) (h : b.Valid) (h' : c.Valid) :
    (c.withdraw y).1 = (b.withdraw y).1 ∧ AgreeOff x (b.withdraw y).2 (c.withdraw y).2 := by
  obtain ⟨flagB, editB⟩ := withdraw_edit h y
  obtain ⟨flagC, editC⟩ := withdraw_edit h' y
  refine ⟨?_, agree.edit editB editC (agree.entry y hy) (agree.rankingWithout hy) agree.retired⟩
  rw [flagB, flagC]
  exact decide_eq_decide.2 (agree.mem_idleIds hy)

/-- A caller is received in the same way, but for the ticket. -/
theorem request (agree : AgreeOff x b c) (hy : y ≠ x) (h : b.Valid) (h' : c.Valid)
    (caller : RequestId) (cancelled : Bool) :
    (c.request y caller cancelled).1.outline = (b.request y caller cancelled).1.outline ∧
      AgreeOff x (b.request y caller cancelled).2 (c.request y caller cancelled).2 := by
  rcases agree.entry_cases hy with ⟨hb, hc⟩ | ⟨e, e', hb, hc, same⟩
  · have unknownB : b.isBusy? y = none := by simp [isBusy?_eq, hb]
    have unknownC : c.isBusy? y = none := by simp [isBusy?_eq, hc]
    rw [request_unknown unknownB, request_unknown unknownC]
    exact ⟨rfl, agree⟩
  · obtain ⟨resource, busy, waiters, priority⟩ := Entry.outline_eq_iff.1 same
    cases hbusy : e.busy with
    | false =>
      obtain ⟨grantedB, editB⟩ := request_free_edit h hb hbusy caller cancelled
      obtain ⟨grantedC, editC⟩ := request_free_edit h' hc (busy.trans hbusy) caller cancelled
      refine ⟨by rw [grantedB, grantedC, resource], ?_⟩
      refine agree.edit editB editC ?_ (agree.rankingWithout hy) agree.retired
      exact congrArg some (Entry.outline_eq_iff.2 ⟨resource, rfl, waiters, priority⟩)
    | true =>
      have heldB := isBusy?_of_onRecord? hb
      have heldC := isBusy?_of_onRecord? hc
      rw [hbusy] at heldB
      rw [busy, hbusy] at heldC
      cases cancelled with
      | true =>
        rw [request_cancelled heldB, request_cancelled heldC]
        exact ⟨rfl, agree⟩
      | false =>
        have askedB := request_held_edit h hb hbusy caller
        have askedC := request_held_edit h' hc (busy.trans hbusy) caller
        have length : e'.waiters.length = e.waiters.length := by
          simpa using congrArg List.length waiters
        rw [length, agree.settings] at askedC
        split at askedB
        · rename_i room
          rw [if_pos room] at askedC
          obtain ⟨queuedB, editB⟩ := askedB
          obtain ⟨queuedC, editC⟩ := askedC
          refine ⟨by rw [queuedB, queuedC]; rfl, ?_⟩
          refine agree.edit editB editC ?_ agree.ranking agree.retired
          refine congrArg some (Entry.outline_eq_iff.2 ⟨resource, busy, ?_, priority⟩)
          simp [waiters]
        · rename_i full
          rw [if_neg full] at askedC
          rw [askedB, askedC]
          exact ⟨rfl, agree⟩

/-- What is given up becomes idle in both brokers, where nobody is in line for it. -/
theorem handOver_unclaimed (agree : AgreeOff x b c) (hy : y ≠ x) (regular : b.Regular settings)
    (regular' : c.Regular settings) {listens listens' : RequestId → Bool} {e e' : Entry ρ}
    (hb : b.onRecord? y = some e) (hc : c.onRecord? y = some e') (same : e'.outline = e.outline)
    (held : e.busy = true) (nobody : e.waiters.dropWhile (fun s => !listens s.request) = [])
    (nobody' : e'.waiters.dropWhile (fun s => !listens' s.request) = []) (priority : Priority) :
    HandedAlike x (b.handOver listens y priority) (c.handOver listens' y priority) := by
  obtain ⟨resource, busy, _⟩ := Entry.outline_eq_iff.1 same
  rw [held] at busy
  have hbusy := isBusy?_of_onRecord? hb
  have hbusy' := isBusy?_of_onRecord? hc
  rw [held] at hbusy
  rw [busy] at hbusy'
  have verdictB := (handOver_idle regular.valid hbusy (line_of_onRecord? hb ▸ nobody) priority).1
  have verdictC := (handOver_idle regular'.valid hbusy' (line_of_onRecord? hc ▸ nobody') priority).1
  obtain ⟨deliveryB, editB⟩ := handOver_idle_edit regular.valid hb held nobody priority
  obtain ⟨deliveryC, editC⟩ := handOver_idle_edit regular'.valid hc busy nobody' priority
  refine ⟨by rw [verdictB, verdictC], by rw [deliveryB, deliveryC], ?_⟩
  refine agree.edit editB editC ?_ (agree.rankingWith hy regular regular' priority) agree.retired
  exact congrArg some (Entry.outline_eq_iff.2 ⟨resource, rfl, rfl, rfl⟩)

/-- What is given up goes to the same request in both brokers, if it is first in line. -/
theorem handOver_claimed (agree : AgreeOff x b c) (h : b.Valid) (h' : c.Valid)
    {listens listens' : RequestId → Bool} {e e' : Entry ρ}
    (hb : b.onRecord? y = some e) (hc : c.onRecord? y = some e') (same : e'.outline = e.outline)
    (held : e.busy = true) {signal signal' : Signal} {rest rest' : List Signal}
    (first : e.waiters.dropWhile (fun s => !listens s.request) = signal :: rest)
    (first' : e'.waiters.dropWhile (fun s => !listens' s.request) = signal' :: rest')
    (request : signal'.request = signal.request)
    (others : rest'.map Signal.request = rest.map Signal.request) (priority : Priority) :
    HandedAlike x (b.handOver listens y priority) (c.handOver listens' y priority) := by
  obtain ⟨resource, busy, _⟩ := Entry.outline_eq_iff.1 same
  have busy' := busy.trans held
  have hbusy := isBusy?_of_onRecord? hb
  have hbusy' := isBusy?_of_onRecord? hc
  rw [held] at hbusy
  rw [busy'] at hbusy'
  obtain ⟨_, _, verdictB, _⟩ :=
    handOver_waiter h hbusy (line_of_onRecord? hb ▸ first) priority
  obtain ⟨_, _, verdictC, _⟩ :=
    handOver_waiter h' hbusy' (line_of_onRecord? hc ▸ first') priority
  obtain ⟨deliveryB, editB⟩ := handOver_waiter_edit h hb held first priority
  obtain ⟨deliveryC, editC⟩ := handOver_waiter_edit h' hc busy' first' priority
  refine ⟨by rw [verdictB, verdictC], by rw [deliveryB, deliveryC, request, resource], ?_⟩
  refine agree.edit editB editC ?_ agree.ranking agree.retired
  exact congrArg some (Entry.outline_eq_iff.2 ⟨resource, busy, others, rfl⟩)

/-- What is given up goes the same way, where everyone in line is still there. -/
theorem handOver (agree : AgreeOff x b c) (hy : y ≠ x) (regular : b.Regular settings)
    (regular' : c.Regular settings) {listens listens' : RequestId → Bool}
    (everybody : (b.line y).dropWhile (fun signal => !listens signal.request) = b.line y)
    (everybody' : (c.line y).dropWhile (fun signal => !listens' signal.request) = c.line y)
    (priority : Priority) :
    HandedAlike x (b.handOver listens y priority) (c.handOver listens' y priority) := by
  have h := regular.valid
  have h' := regular'.valid
  rcases agree.entry_cases hy with ⟨hb, hc⟩ | ⟨e, e', hb, hc, same⟩
  · have unknownB : b.isBusy? y = none := by simp [isBusy?_eq, hb]
    have unknownC : c.isBusy? y = none := by simp [isBusy?_eq, hc]
    obtain ⟨verdictB, deliveryB, _⟩ := handOver_unknown h unknownB listens priority
    obtain ⟨verdictC, deliveryC, _⟩ := handOver_unknown h' unknownC listens' priority
    refine ⟨by rw [verdictB, verdictC], by rw [deliveryB, deliveryC], ?_⟩
    refine agree.edit (handOver_unknown_edit hb listens priority)
      (handOver_unknown_edit hc listens' priority) rfl agree.ranking fun z hz => ?_
    rw [h.retired_nodup.mem_erase_iff, h'.retired_nodup.mem_erase_iff, agree.retired z hz]
  · obtain ⟨_, busy, waiters, _⟩ := Entry.outline_eq_iff.1 same
    rw [line_of_onRecord? hb] at everybody
    rw [line_of_onRecord? hc] at everybody'
    cases held : e.busy with
    | false =>
      have hbusy := isBusy?_of_onRecord? hb
      have hbusy' := isBusy?_of_onRecord? hc
      rw [held] at hbusy
      rw [busy, held] at hbusy'
      obtain ⟨verdictB, deliveryB, _, brokerB⟩ := handOver_free hbusy listens priority
      obtain ⟨verdictC, deliveryC, _, brokerC⟩ := handOver_free hbusy' listens' priority
      exact ⟨by rw [verdictB, verdictC], by rw [deliveryB, deliveryC], by rwa [brokerB, brokerC]⟩
    | true =>
      cases first : e.waiters with
      | nil =>
        have first' : e'.waiters = [] := by simpa [first] using waiters
        exact agree.handOver_unclaimed hy regular regular' hb hc same held
          (everybody.trans first) (everybody'.trans first') priority
      | cons signal rest =>
        rw [first] at waiters
        obtain ⟨signal', rest', first', request, others⟩ := List.map_eq_cons_iff.1 waiters
        exact agree.handOver_claimed h h' hb hc same held (everybody.trans first)
          (everybody'.trans first') request others priority

/-- The signals of one request leave the lines, each the only one with its ticket. -/
theorem leave (agree : AgreeOff x b c) (hy : y ≠ x) (h : b.Valid) (h' : c.Valid)
    {k : RequestId} {ticket ticket' : UInt64}
    (nodup : ((b.line y).map Signal.request).Nodup)
    (mem : ⟨ticket, k⟩ ∈ b.line y) (mem' : ⟨ticket', k⟩ ∈ c.line y)
    (alone : ∀ other ∈ b.line y, other.ticket = ticket → other = ⟨ticket, k⟩)
    (alone' : ∀ other ∈ c.line y, other.ticket = ticket' → other = ⟨ticket', k⟩) :
    ∃ b' c', b.leave? y ticket = some (⟨ticket, k⟩, b') ∧
      c.leave? y ticket' = some (⟨ticket', k⟩, c') ∧ AgreeOff x b' c' := by
  obtain ⟨b', leftB, relinesB⟩ := leave_relines h mem alone
  obtain ⟨c', leftC, relinesC⟩ := leave_relines h' mem' alone'
  refine ⟨b', c', leftB, leftC, ?_⟩
  have lines := agree.line hy
  have nodup' : ((c.line y).map Signal.request).Nodup := lines ▸ nodup
  have shorter : ((c.line y).erase ⟨ticket', k⟩).map Signal.request =
      ((b.line y).erase ⟨ticket, k⟩).map Signal.request := by
    rw [map_erase_of_nodup nodup' mem', map_erase_of_nodup nodup mem, lines]
  rcases agree.entry_cases hy with ⟨hb, _⟩ | ⟨e, e', hb, hc, same⟩
  · simp only [Broker.onRecord?, Option.map_eq_none_iff] at hb
    rw [line_of_unknown hb] at mem
    cases mem
  · obtain ⟨resource, busy, _, priority⟩ := Entry.outline_eq_iff.1 same
    refine agree.edit (relinesB.edit hb) (relinesC.edit hc) ?_ agree.ranking agree.retired
    exact congrArg some (Entry.outline_eq_iff.2 ⟨resource, busy, shorter, priority⟩)

end AgreeOff

end Broker

end Custody
