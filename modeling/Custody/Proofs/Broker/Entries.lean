import Custody.Proofs.Broker.Counts

/-!
# What a broker has on record

The whole of what a broker remembers, without the slots of its queues: an entry for each
registered id, the ranking, the retired ids and the next ticket. Every operation rewrites
the entry of one id at most.

* `Broker.onRecord?`, `Broker.ranking`: what is on record;
* `Broker.Edit`: one entry is rewritten, and the rest is as given;
* `Broker.register_edit`, `Broker.unregister_edit`, `Broker.request_free_edit`,
  `Broker.request_held_edit`, `Broker.handOver_waiter_edit`, `Broker.handOver_idle_edit`,
  `Broker.leave_edit`: the edit of each operation.
-/

namespace Custody

/-- A record without the slots of its queue. -/
structure Entry (ρ : Type) where
  resource : ρ
  busy : Bool
  waiters : List Signal
  lastPriority : Priority
  deriving DecidableEq, Repr

def Record.entry {ρ : Type} (record : Record ρ) : Entry ρ :=
  ⟨record.resource, record.busy, record.waiters.toList, record.lastPriority⟩

namespace Broker

variable {ι ρ : Type} [DecidableEq ι]

/-- What is on record of an id. -/
def onRecord? (b : Broker ι ρ) (id : ι) : Option (Entry ρ) := (b.records.get? id).map Record.entry

/-- The ranked ids with their priorities, the best first. -/
def ranking (b : Broker ι ρ) : List (Priority × ι) := b.idle.entries

/-- The ranking without an id. -/
def rankingWithout (b : Broker ι ρ) (id : ι) : List (Priority × ι) :=
  b.ranking.eraseP fun ranked => ranked.2 == id

/-- The ranking with an id at its priority, behind those that are as good. -/
def rankingWith (b : Broker ι ρ) (priority : Priority) (id : ι) : List (Priority × ι) :=
  RankedQueue.ranked b.idle.order (priority, id) b.ranking

/-- The entry of one id, the ranking, the retired ids and the next ticket are as given, and
all else is as before. -/
structure Edit (b b' : Broker ι ρ) (id : ι) (after? : Option (Entry ρ))
    (ranking : List (Priority × ι)) (retired : List ι) (ticket : UInt64) : Prop where
  settings : b'.settings = b.settings
  order : b'.idle.order = b.idle.order
  entry : ∀ k, b'.onRecord? k = if k = id then after? else b.onRecord? k
  ranking : b'.ranking = ranking
  retired : b'.retired = retired
  ticket : b'.nextTicket = ticket

variable {b b' : Broker ι ρ} {id : ι} {entry : Entry ρ}

theorem onRecord?_of_get? {record : Record ρ} (h : b.records.get? id = some record) :
    b.onRecord? id = some record.entry := by
  simp [onRecord?, h]

theorem exists_of_onRecord? (h : b.onRecord? id = some entry) :
    ∃ record, b.records.get? id = some record ∧ record.entry = entry := by
  simpa [onRecord?] using h

theorem isBusy?_eq (b : Broker ι ρ) (id : ι) : b.isBusy? id = (b.onRecord? id).map (·.busy) := by
  rw [isBusy?, onRecord?, Option.map_map]
  rfl

theorem isBusy?_of_onRecord? (h : b.onRecord? id = some entry) :
    b.isBusy? id = some entry.busy := by
  simp [isBusy?_eq, h]

theorem line_of_onRecord? (h : b.onRecord? id = some entry) : b.line id = entry.waiters := by
  obtain ⟨record, hget, rfl⟩ := exists_of_onRecord? h
  exact line_of_get? hget

theorem lastPriority_of_onRecord? (h : b.onRecord? id = some entry) :
    b.lastPriority id = entry.lastPriority := by
  obtain ⟨record, hget, rfl⟩ := exists_of_onRecord? h
  simp [lastPriority, hget, Record.entry]

omit [DecidableEq ι] in
theorem idleIds_eq (b : Broker ι ρ) : b.idleIds = b.ranking.map Prod.snd := rfl

/-! ### Edits -/

/-- A record is written. -/
theorem Edit.of_put (b : Broker ι ρ) (id : ι) (record : Record ρ) {idle : RankedQueue ι}
    (order : idle.order = b.idle.order) (ticket : UInt64) :
    Edit b { b with records := b.records.put id record, idle := idle, nextTicket := ticket } id
      (some record.entry) idle.entries b.retired ticket where
  settings := rfl
  order := order
  entry k := by by_cases hk : k = id <;> simp [onRecord?, hk]
  ranking := rfl
  retired := rfl
  ticket := rfl

theorem unrank_edit (h : b.Valid) (id : ι) :
    (b.unrank id).order = b.idle.order ∧ (b.unrank id).entries = b.rankingWithout id := by
  have found := RankedQueue.erase?_eq h.sound id
  cases hfind : b.idle.entries.find? fun ranked => ranked.2 == id with
  | none =>
    simp only [hfind] at found
    have hunrank : b.unrank id = b.idle := by simp [unrank, found]
    rw [hunrank, rankingWithout, ranking, List.eraseP_of_forall_not (by simpa using hfind)]
    exact ⟨rfl, rfl⟩
  | some ranked =>
    simp only [hfind] at found
    obtain ⟨q, hq, _, _, order, entries⟩ := found
    have hunrank : b.unrank id = q := by simp [unrank, hq]
    rw [hunrank]
    exact ⟨order, entries⟩

/-- An id that is not ranked has nothing to lose. -/
theorem unrank_eq_self (h : b.Valid) (unranked : id ∉ b.idleIds) : b.unrank id = b.idle := by
  have found := RankedQueue.erase?_eq h.sound id
  have absent : b.idle.entries.find? (fun ranked => ranked.2 == id) = none := by
    rw [List.find?_eq_none]
    intro ranked mem same
    exact unranked (List.mem_map.2 ⟨ranked, mem, by simpa using same⟩)
  simp only [absent] at found
  simp [unrank, found]

theorem register_edit (h : b.Valid) {resource : ρ} {priority : Priority}
    (hok : b.register id resource priority = .ok b') :
    Edit b b' id (some ⟨resource, false, [], priority⟩) (b.rankingWith priority id) b.retired
      b.nextTicket := by
  unfold register at hok
  split at hok
  · cases hok
  split at hok
  · cases hok
  rename_i hroom
  obtain ⟨idle, hpush, _, _, order, entries⟩ :=
    h.push_ranked id priority (.inr (Nat.lt_of_not_le hroom))
  simp only [hpush, Except.ok.injEq] at hok
  subst hok
  rw [rankingWith, ranking, ← entries]
  exact Edit.of_put b id _ order b.nextTicket

/-- Whether a resource can be registered depends on the id and on the number of
resources. -/
theorem register_cases (h : b.Valid) (id : ι) (resource : ρ) (priority : Priority) :
    if b.onRecord? id ≠ none ∨ id ∈ b.retired then
      b.register id resource priority = .error (.duplicateId id)
    else if b.settings.maxResources.toNat ≤ b.records.size then
      b.register id resource priority = .error (.capacityExhausted b.settings.maxResources)
    else ∃ b', b.register id resource priority = .ok b' := by
  have known : (b.records.contains id || decide (id ∈ b.retired)) = true ↔
      b.onRecord? id ≠ none ∨ id ∈ b.retired := by
    simp [onRecord?, Registry.contains, Option.isSome_iff_ne_none]
  unfold register
  by_cases duplicate : b.onRecord? id ≠ none ∨ id ∈ b.retired
  · rw [if_pos duplicate, if_pos (known.2 duplicate)]
  · rw [if_neg duplicate, if_neg (mt known.1 duplicate)]
    split
    · rfl
    · rename_i hroom
      obtain ⟨idle, hpush, _⟩ :=
        h.push_ranked id priority (.inr (Nat.lt_of_not_le hroom))
      simp [hpush]

/-- Nothing changes when an id is unregistered that is not registered. -/
theorem unregister_of_unknown (h : b.Valid) (unknown : b.onRecord? id = none) :
    b.unregister id = (.error (.notRegistered id), b) := by
  have hget : b.records.get? id = none := by simpa [onRecord?] using unknown
  have unranked : id ∉ b.idleIds := h.not_ranked (by simp [isBusy?_eq, unknown])
  simp [unregister, hget, unrank_eq_self h unranked]

theorem unregister_edit (h : b.Valid) (known : b.onRecord? id = some entry) :
    ∃ record, record.entry = entry ∧ (b.unregister id).1 = .ok record ∧
      Edit b (b.unregister id).2 id none (b.rankingWithout id)
        (if entry.busy then b.retired.insert id else b.retired) b.nextTicket := by
  obtain ⟨record, hget, rfl⟩ := exists_of_onRecord? known
  obtain ⟨order, entries⟩ := unrank_edit h id
  refine ⟨record, rfl, by simp [unregister, hget], ?_⟩
  constructor
  · simp [unregister, hget]
  · simpa [unregister, hget] using order
  · intro k
    by_cases hk : k = id <;> simp [unregister, hget, onRecord?, hk]
  · simpa [unregister, hget, ranking] using entries
  · simp only [unregister, hget]
    rfl
  · simp [unregister, hget]

theorem withdraw_edit (h : b.Valid) (id : ι) :
    (b.withdraw id).1 = decide (id ∈ b.idleIds) ∧
    Edit b (b.withdraw id).2 id (b.onRecord? id) (b.rankingWithout id) b.retired b.nextTicket := by
  obtain ⟨order, entries⟩ := unrank_edit h id
  refine ⟨?_, rfl, order, ?_, entries, rfl, rfl⟩
  · have found := RankedQueue.erase?_eq h.sound id
    have ranked : (b.idle.entries.find? fun ranked => ranked.2 == id).isSome =
        decide (id ∈ b.idleIds) := by
      rw [Bool.eq_iff_iff, List.find?_isSome, decide_eq_true_iff, idleIds_eq, List.mem_map]
      simp [ranking]
    rw [← ranked]
    cases hfind : b.idle.entries.find? fun ranked => ranked.2 == id with
    | none =>
      simp only [hfind] at found
      simp [withdraw, found]
    | some entry =>
      simp only [hfind] at found
      obtain ⟨q, hq, _⟩ := found
      simp [withdraw, hq]
  · intro k
    split
    · rename_i heq
      rw [heq]
      rfl
    · rfl

theorem request_free_edit (h : b.Valid) (known : b.onRecord? id = some entry)
    (free : entry.busy = false) (caller : RequestId) (cancelled : Bool) :
    (b.request id caller cancelled).1 = .granted entry.resource ∧
    Edit b (b.request id caller cancelled).2 id (some { entry with busy := true })
      (b.rankingWithout id) b.retired b.nextTicket := by
  obtain ⟨record, hget, rfl⟩ := exists_of_onRecord? known
  obtain ⟨order, entries⟩ := unrank_edit h id
  have heq : b.request id caller cancelled = (.granted record.resource,
      { b with
        records := b.records.put id { record with busy := true }
        idle := b.unrank id }) := by
    simp [request, hget, show record.busy = false from free]
  rw [heq, ← entries]
  exact ⟨rfl, Edit.of_put b id { record with busy := true } order b.nextTicket⟩

theorem request_held_edit (h : b.Valid) (known : b.onRecord? id = some entry)
    (busy : entry.busy = true) (caller : RequestId) :
    if entry.waiters.length < b.settings.waiterCapacity.toNat then
      (b.request id caller false).1 = .queued b.nextTicket ∧
      Edit b (b.request id caller false).2 id
        (some { entry with waiters := entry.waiters ++ [⟨b.nextTicket, caller⟩] })
        b.ranking b.retired (b.nextTicket + 1)
    else b.request id caller false = (.full, b) := by
  obtain ⟨record, hget, rfl⟩ := exists_of_onRecord? known
  have valid := h.record id record hget
  have held : record.busy = true := busy
  have pushed := Queue.push_eq valid.sound ⟨b.nextTicket, caller⟩
  rw [valid.capacity] at pushed
  by_cases room : record.entry.waiters.length < b.settings.waiterCapacity.toNat
  · rw [if_pos (show record.waiters.toList.length < _ from room)] at pushed
    obtain ⟨waiters, hpush, _, _, list⟩ := pushed
    have heq : b.request id caller false = (.queued b.nextTicket,
        { b with
          records := b.records.put id { record with waiters := waiters }
          nextTicket := b.nextTicket + 1 }) := by
      simp [request, hget, held, hpush]
    have written : (⟨record.resource, record.busy,
        record.waiters.toList ++ [⟨b.nextTicket, caller⟩], record.lastPriority⟩ : Entry ρ) =
        Record.entry { record with waiters := waiters } := by simp [Record.entry, list]
    rw [if_pos room, heq]
    exact ⟨rfl, written ▸ Edit.of_put b id { record with waiters := waiters } rfl _⟩
  · rw [if_neg (show ¬record.waiters.toList.length < _ from room)] at pushed
    rw [if_neg room]
    simp [request, hget, held, pushed.1]

/-- The best ranked resource is taken. -/
theorem takeAny_edit (h : b.Valid) :
    match b.ranking with
    | [] => b.takeAny? = (none, b)
    | ranked :: rest => ∃ entry, b.onRecord? ranked.2 = some entry ∧ entry.busy = false ∧
        b.takeAny?.1 = some (ranked.2, entry.resource) ∧
        Edit b b.takeAny?.2 ranked.2 (some { entry with busy := true }) rest b.retired
          b.nextTicket := by
  have pulled := RankedQueue.pull?_eq h.sound
  cases hentries : b.idle.entries with
  | nil =>
    simp only [hentries] at pulled
    simp [ranking, hentries, takeAny?, pulled]
  | cons ranked rest =>
    simp only [hentries] at pulled
    obtain ⟨idle, hpull, _, _, order, hrest⟩ := pulled
    have free := h.ranked_free ranked.2 (by simp [idleIds_eq, ranking, hentries])
    obtain ⟨record, hget, hrecord⟩ := exists_record free
    have heq : b.takeAny? = (some (ranked.2, record.resource),
        { b with
          records := b.records.put ranked.2 { record with busy := true }
          idle := idle }) := by
      simp [takeAny?, hpull, hget]
    simp only [ranking, hentries]
    refine ⟨record.entry, onRecord?_of_get? hget, hrecord, ?_⟩
    rw [heq, ← hrest]
    exact ⟨rfl, Edit.of_put b ranked.2 { record with busy := true } order b.nextTicket⟩

theorem handOver_unknown_edit (unknown : b.onRecord? id = none) (listens : RequestId → Bool)
    (priority : Priority) :
    Edit b (b.handOver listens id priority).broker id none b.ranking (b.retired.erase id)
      b.nextTicket := by
  have hget : b.records.get? id = none := by simpa [onRecord?] using unknown
  have heq : (b.handOver listens id priority).broker =
      { b with retired := b.retired.erase id } := by simp [handOver, hget]
  rw [heq]
  refine ⟨rfl, rfl, fun k => ?_, rfl, rfl, rfl⟩
  split
  · rename_i hk
    rw [hk, ← unknown]
    rfl
  · rfl

theorem handOver_waiter_edit (h : b.Valid) (known : b.onRecord? id = some entry)
    (busy : entry.busy = true) {listens : RequestId → Bool} {signal : Signal}
    {rest : List Signal}
    (first : entry.waiters.dropWhile (fun signal => !listens signal.request) = signal :: rest)
    (priority : Priority) :
    (b.handOver listens id priority).delivery = some (signal.request, entry.resource) ∧
    Edit b (b.handOver listens id priority).broker id
      (some { entry with waiters := rest, lastPriority := priority }) b.ranking b.retired
      b.nextTicket := by
  obtain ⟨record, hget, rfl⟩ := exists_of_onRecord? known
  have valid := h.record id record hget
  have held : record.busy = true := busy
  have found := firstListening_eq listens valid.sound
    (Nat.le_of_eq (Queue.length_toList valid.sound))
  simp only [show record.waiters.toList.dropWhile _ = _ from first] at found
  obtain ⟨waiters, hfirst, _, _, list⟩ := found
  have heq : (b.handOver listens id priority).broker =
      { b with
        records := b.records.put id
          { record with waiters := waiters, lastPriority := priority } } := by
    simp [handOver, hget, held, hfirst]
  rw [heq, ← list]
  exact ⟨by simp [handOver, hget, held, hfirst, Record.entry],
    Edit.of_put b id { record with waiters := waiters, lastPriority := priority } rfl _⟩

theorem handOver_idle_edit (h : b.Valid) (known : b.onRecord? id = some entry)
    (busy : entry.busy = true) {listens : RequestId → Bool}
    (nobody : entry.waiters.dropWhile (fun signal => !listens signal.request) = [])
    (priority : Priority) :
    (b.handOver listens id priority).delivery = none ∧
    Edit b (b.handOver listens id priority).broker id
      (some { entry with busy := false, waiters := [], lastPriority := priority })
      (b.rankingWith priority id) b.retired b.nextTicket := by
  have held := isBusy?_of_onRecord? known
  rw [busy] at held
  obtain ⟨idle, hpush, _, _, order, entries⟩ := h.push_ranked id priority (.inl held)
  obtain ⟨record, hget, rfl⟩ := exists_of_onRecord? known
  have valid := h.record id record hget
  have hrecord : record.busy = true := busy
  have found := firstListening_eq listens valid.sound
    (Nat.le_of_eq (Queue.length_toList valid.sound))
  simp only [show record.waiters.toList.dropWhile _ = _ from nobody] at found
  obtain ⟨waiters, hfirst, _, _, list⟩ := found
  let record' : Record ρ :=
    { record with busy := false, waiters := waiters, lastPriority := priority }
  have heq : (b.handOver listens id priority).broker =
      { b with records := b.records.put id record', idle := idle } := by
    simp [handOver, hget, hrecord, hfirst, hpush, record']
  have written : (⟨record.resource, false, [], priority⟩ : Entry ρ) = record'.entry := by
    simp [Record.entry, record', list]
  rw [heq, rankingWith, ranking, ← entries]
  refine ⟨by simp [handOver, hget, hrecord, hfirst], ?_⟩
  exact written ▸ Edit.of_put b id record' order b.nextTicket

theorem leave_edit (h : b.Valid) {ticket : UInt64} {signal : Signal}
    (left : b.leave? id ticket = some (signal, b')) :
    ∃ entry, b.onRecord? id = some entry ∧ entry.busy = true ∧
      entry.waiters.find? (fun signal => signal.ticket == ticket) = some signal ∧
      Edit b b' id
        (some { entry with
          waiters := entry.waiters.eraseP fun signal => signal.ticket == ticket })
        b.ranking b.retired b.nextTicket := by
  cases hget : b.records.get? id with
  | none => simp [leave?, hget] at left
  | some record =>
    have valid := h.record id record hget
    have found := Queue.extract?_eq valid.sound fun signal => signal.ticket == ticket
    cases hfind : record.waiters.toList.find? fun signal => signal.ticket == ticket with
    | none =>
      simp only [hfind] at found
      simp [leave?, hget, found] at left
    | some first =>
      simp only [hfind] at found
      obtain ⟨waiters, hextract, _, _, list⟩ := found
      simp only [leave?, hget, hextract, Option.some.injEq, Prod.mk.injEq] at left
      obtain ⟨rfl, rfl⟩ := left
      have waited : record.waiters.toList ≠ [] := by
        intro empty
        simp [empty] at hfind
      refine ⟨record.entry, onRecord?_of_get? hget, valid.busy_of_waiters waited, hfind, ?_⟩
      have written : (⟨record.resource, record.busy,
          record.waiters.toList.eraseP (fun signal => signal.ticket == ticket),
          record.lastPriority⟩ : Entry ρ) =
          Record.entry { record with waiters := waiters } := by simp [Record.entry, list]
      exact written ▸ Edit.of_put b id { record with waiters := waiters } rfl _

end Broker

end Custody
