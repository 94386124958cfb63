import Custody.Proofs.Broker.Basic

/-!
# What the operations of a broker change

Every operation changes the standing of one id at most: whether it is registered and
held, who waits for it, and whether it is retired.

* `Broker.Change`: one id stands as given, every other id as before;
* `Broker.register_change`, `Broker.unregister_known`, `Broker.request_free`,
  `Broker.request_held`, `Broker.takeAny?_cases`, `Broker.leave?_cases`: what each does;
* `Broker.handOver_unknown`, `Broker.handOver_free`, `Broker.handOver_waiter`,
  `Broker.handOver_idle`: the four ends of giving a resource up.
-/

namespace Custody

namespace Broker

variable {ι ρ : Type} [DecidableEq ι]

/-- The broker is still valid, and only one id stands in another way than before. -/
structure Change (b b' : Broker ι ρ) (id : ι) (busy? : Option Bool) (line : List Signal)
    (retired : Prop) : Prop where
  valid : b'.Valid
  settings : b'.settings = b.settings
  busy : ∀ k, b'.isBusy? k = if k = id then busy? else b.isBusy? k
  line : ∀ k, b'.line k = if k = id then line else b.line k
  retired : ∀ k, k ∈ b'.retired ↔ if k = id then retired else k ∈ b.retired

variable {b b' : Broker ι ρ} {id : ι}

/-- Nothing but the ranking changed. -/
theorem Change.of_same (h : b'.Valid) (settings : b'.settings = b.settings)
    (records : b'.records = b.records) (retired : b'.retired = b.retired) (id : ι) :
    Change b b' id (b.isBusy? id) (b.line id) (id ∈ b.retired) where
  valid := h
  settings := settings
  busy k := by
    split
    · rename_i heq
      simp [isBusy?, records, heq]
    · simp [isBusy?, records]
  line k := by
    split
    · rename_i heq
      simp [Broker.line, records, heq]
    · simp [Broker.line, records]
  retired k := by
    split
    · rename_i heq
      rw [retired, heq]
    · rw [retired]

/-- The record of an id that is not retired was replaced. -/
theorem Change.of_put (record : Record ρ) {idle : RankedQueue ι} {ticket : UInt64}
    (fresh : id ∉ b.retired)
    (h : ({ b with records := b.records.put id record, idle := idle, nextTicket := ticket } :
      Broker ι ρ).Valid) :
    Change b { b with records := b.records.put id record, idle := idle, nextTicket := ticket } id
      (some record.busy) record.waiters.toList False where
  valid := h
  settings := rfl
  busy := isBusy?_of_put rfl
  line := line_of_put rfl
  retired k := by
    split
    · rename_i heq
      simp [heq, fresh]
    · rfl

/-- The line of the id has lost some of its signals. -/
theorem Change.line_sublist {busy? : Option Bool} {line : List Signal} {retired : Prop}
    (change : Change b b' id busy? line retired) (shorter : line.Sublist (b.line id)) (k : ι) :
    (b'.line k).Sublist (b.line k) := by
  rw [change.line]
  split
  · rename_i heq
    rw [heq]
    exact shorter
  · exact .refl _

/-- Whoever stands in a line now stood there before, or is the one who joined. -/
theorem Change.mem_line_append {busy? : Option Bool} {signal other : Signal} {retired : Prop}
    (change : Change b b' id busy? (b.line id ++ [signal]) retired) {k : ι} :
    other ∈ b'.line k ↔ other ∈ b.line k ∨ k = id ∧ other = signal := by
  rw [change.line]
  by_cases hk : k = id
  · simp [hk]
  · simp [hk]

theorem Change.busy_of_ne {busy? : Option Bool} {line : List Signal} {retired : Prop}
    (change : Change b b' id busy? line retired) {k : ι} (other : k ≠ id) :
    b'.isBusy? k = b.isBusy? k := by
  rw [change.busy, if_neg other]

/-- The id is registered if it was before. -/
theorem Change.known_iff {busy? : Option Bool} {line : List Signal} {retired : Prop}
    (change : Change b b' id busy? line retired) (same : busy? = none ↔ b.isBusy? id = none)
    (k : ι) : b'.isBusy? k = none ↔ b.isBusy? k = none := by
  rw [change.busy]
  split
  · rename_i heq
    rw [same, heq]
  · rfl

/-! ### Registering -/

theorem register_change (h : b.Valid) {resource : ρ} {priority : Priority}
    (hok : b.register id resource priority = .ok b') :
    b.isBusy? id = none ∧ id ∉ b.retired ∧ b'.nextTicket = b.nextTicket ∧
    Change b b' id (some false) [] False := by
  unfold register at hok
  split at hok
  · cases hok
  rename_i hfresh
  split at hok
  · cases hok
  rename_i hroom
  simp only [Bool.or_eq_true, decide_eq_true_eq, not_or, Registry.contains, Bool.not_eq_true,
    Option.isSome_eq_false_iff, Option.isNone_iff_eq_none] at hfresh
  obtain ⟨hget, hretired⟩ := hfresh
  have hbusy : b.isBusy? id = none := (isBusy?_eq_none_iff b id).2 hget
  have pushed := RankedQueue.push_eq h.sound priority id
  split at hok
  · cases hok
  rename_i idle hpush
  simp only [hpush] at pushed
  split at pushed
  · obtain ⟨q, hq, sound, capacity, _, entries⟩ := pushed
    cases hq
    have perm : idle.toList.Perm (id :: b.idleIds) := by
      rw [RankedQueue.toList, entries]
      exact (RankedQueue.ranked_perm _ _ _).map Prod.snd
    simp only [Except.ok.injEq] at hok
    subst hok
    let record : Record ρ :=
      { resource := resource
        busy := false
        waiters := .empty b.settings.waiterCapacity.toNat
        lastPriority := priority }
    have fresh : record.Valid b.settings.waiterCapacity.toNat :=
      ⟨Queue.sound_empty _, Queue.capacity_empty _, fun _ => rfl⟩
    refine ⟨hbusy, hretired, rfl, ?_⟩
    apply Change.of_put record hretired
    refine (h.withNewRecord hget (by omega) hretired fresh).withIdle sound
      (capacity.trans h.capacity) ?_ ?_
    · rw [perm.nodup_iff, List.nodup_cons]
      exact ⟨h.not_ranked (by simp [hbusy]), h.ranked_nodup⟩
    · intro k hk
      rw [isBusy?_of_put rfl]
      split
      · rfl
      · rename_i hne
        rcases List.mem_cons.1 (perm.mem_iff.1 hk) with heq | hmem
        · exact absurd heq hne
        · exact h.ranked_free k hmem
  · cases pushed

theorem unregister_unknown (h : b.Valid) (hbusy : b.isBusy? id = none) :
    (b.unregister id).1 = .error (.notRegistered id) ∧
    (b.unregister id).2.nextTicket = b.nextTicket ∧
    (b.unregister id).2.records = b.records ∧ (b.unregister id).2.retired = b.retired ∧
    (b.unregister id).2.settings = b.settings ∧ (b.unregister id).2.Valid := by
  have hget := (isBusy?_eq_none_iff b id).1 hbusy
  have heq : b.unregister id = (.error (.notRegistered id), { b with idle := b.unrank id }) := by
    simp [unregister, hget]
  rw [heq]
  exact ⟨rfl, rfl, rfl, rfl, rfl, h.unrank id⟩

theorem unregister_known (h : b.Valid) {busy : Bool} (hbusy : b.isBusy? id = some busy) :
    ∃ record, b.records.get? id = some record ∧ (b.unregister id).1 = .ok record ∧
      (b.unregister id).2.nextTicket = b.nextTicket ∧
      Change b (b.unregister id).2 id none [] (busy = true) := by
  obtain ⟨record, hget, hrecord⟩ : ∃ record, b.records.get? id = some record ∧
      record.busy = busy := by simpa [isBusy?] using hbusy
  have fresh : id ∉ b.retired := h.not_retired (by simp [hbusy])
  have heq : b.unregister id = (.ok record,
      { b with
        idle := b.unrank id
        records := b.records.erase id
        retired := if record.busy then b.retired.insert id else b.retired }) := by
    simp [unregister, hget]
  rw [heq]
  refine ⟨record, hget, rfl, rfl, ?_⟩
  constructor
  · refine ((h.unrank id).withoutRecord (h.not_mem_unrank id)).withRetired ?_ ?_
    · split
      · exact h.retired_nodup.insert
      · exact h.retired_nodup
    · intro k hk
      rw [isBusy?_of_erase rfl]
      split
      · rfl
      · rename_i hne
        apply h.retired_gone k
        split at hk
        · exact (List.mem_insert_iff.1 hk).resolve_left hne
        · exact hk
  · rfl
  · exact isBusy?_of_erase rfl
  · exact line_of_erase rfl
  · intro k
    rw [← hrecord]
    cases record.busy <;> by_cases hk : k = id <;> simp [hk, fresh]

theorem withdraw_eq (h : b.Valid) (id : ι) :
    (b.withdraw id).2.Valid ∧ (b.withdraw id).2.records = b.records ∧
    (b.withdraw id).2.retired = b.retired ∧ (b.withdraw id).2.settings = b.settings ∧
    (b.withdraw id).2.nextTicket = b.nextTicket :=
  ⟨h.unrank id, rfl, rfl, rfl, rfl⟩

/-! ### Taking -/

theorem exists_record {busy : Bool} (h : b.isBusy? id = some busy) :
    ∃ record, b.records.get? id = some record ∧ record.busy = busy := by
  simpa [isBusy?] using h

theorem request_unknown (h : b.isBusy? id = none) (caller : RequestId) (cancelled : Bool) :
    b.request id caller cancelled = (.unknown, b) := by
  have hget := (isBusy?_eq_none_iff b id).1 h
  simp [request, hget]

theorem request_free (h : b.Valid) (hbusy : b.isBusy? id = some false) (caller : RequestId)
    (cancelled : Bool) :
    ∃ record, b.records.get? id = some record ∧
      (b.request id caller cancelled).1 = .granted record.resource ∧
      (b.request id caller cancelled).2.nextTicket = b.nextTicket ∧
      Change b (b.request id caller cancelled).2 id (some true) [] False := by
  obtain ⟨record, hget, hrecord⟩ := exists_record hbusy
  have valid := h.record id record hget
  have fresh : id ∉ b.retired := h.not_retired (by simp [hbusy])
  have heq : b.request id caller cancelled = (.granted record.resource,
      { b with
        records := b.records.put id { record with busy := true }
        idle := b.unrank id }) := by
    simp [request, hget, hrecord]
  rw [heq]
  refine ⟨record, hget, rfl, rfl, ?_⟩
  rw [← valid.attended hrecord]
  apply Change.of_put { record with busy := true } fresh
  exact (h.unrank id).withRecord hget ⟨valid.sound, valid.capacity, fun hfree => by cases hfree⟩
    fun _ => h.not_mem_unrank id

theorem request_cancelled (hbusy : b.isBusy? id = some true) (caller : RequestId) :
    b.request id caller true = (.cancelled, b) := by
  obtain ⟨record, hget, hrecord⟩ := exists_record hbusy
  simp [request, hget, hrecord]

/-- A caller who asks for a resource that is held comes last in its line, if there is
room. -/
theorem request_held (h : b.Valid) (hbusy : b.isBusy? id = some true) (caller : RequestId) :
    if (b.line id).length < b.settings.waiterCapacity.toNat then
      (b.request id caller false).1 = .queued b.nextTicket ∧
      (b.request id caller false).2.nextTicket = b.nextTicket + 1 ∧
      Change b (b.request id caller false).2 id (some true)
        (b.line id ++ [⟨b.nextTicket, caller⟩]) False
    else b.request id caller false = (.full, b) := by
  obtain ⟨record, hget, hrecord⟩ := exists_record hbusy
  have valid := h.record id record hget
  have fresh : id ∉ b.retired := h.not_retired (by simp [hbusy])
  have pushed := Queue.push_eq valid.sound ⟨b.nextTicket, caller⟩
  rw [valid.capacity] at pushed
  rw [line_of_get? hget]
  split
  · rename_i room
    rw [if_pos room] at pushed
    obtain ⟨waiters, hpush, sound, capacity, list⟩ := pushed
    have heq : b.request id caller false = (.queued b.nextTicket,
        { b with
          records := b.records.put id { record with waiters := waiters }
          nextTicket := b.nextTicket + 1 }) := by
      simp [request, hget, hrecord, hpush]
    rw [heq]
    refine ⟨rfl, rfl, ?_⟩
    rw [← list, ← hrecord]
    have valid' : Record.Valid b.settings.waiterCapacity.toNat
        { record with waiters := waiters } :=
      ⟨sound, capacity, fun hfree => by simp [hrecord] at hfree⟩
    apply Change.of_put { record with waiters := waiters } fresh
    exact (h.withTicket (b.nextTicket + 1)).withRecord hget valid' fun _ =>
      h.not_ranked (by simp [hbusy])
  · rename_i room
    rw [if_neg room] at pushed
    simp [request, hget, hrecord, pushed.1]

theorem takeAny?_cases (h : b.Valid) :
    (b.idleIds = [] ∧ b.takeAny? = (none, b)) ∨
    ∃ id rest record, b.idleIds = id :: rest ∧ b.records.get? id = some record ∧
      b.isBusy? id = some false ∧ b.takeAny?.1 = some (id, record.resource) ∧
      b.takeAny?.2.nextTicket = b.nextTicket ∧ Change b b.takeAny?.2 id (some true) [] False := by
  have pulled := RankedQueue.pull?_eq h.sound
  cases hentries : b.idle.entries with
  | nil =>
    simp only [hentries] at pulled
    exact .inl ⟨by simp [idleIds, RankedQueue.toList, hentries], by simp [takeAny?, pulled]⟩
  | cons entry rest =>
    simp only [hentries] at pulled
    obtain ⟨idle, hpull, sound, capacity, _, hrest⟩ := pulled
    have hids : b.idleIds = entry.2 :: idle.toList := by
      simp [idleIds, RankedQueue.toList, hentries, hrest]
    have hbusy : b.isBusy? entry.2 = some false := h.ranked_free _ (by simp [hids])
    obtain ⟨record, hget, hrecord⟩ := exists_record hbusy
    have valid := h.record _ record hget
    have fresh : entry.2 ∉ b.retired := h.not_retired (by simp [hbusy])
    have nodup := h.ranked_nodup
    rw [hids, List.nodup_cons] at nodup
    have heq : b.takeAny? = (some (entry.2, record.resource),
        { b with
          records := b.records.put entry.2 { record with busy := true }
          idle := idle }) := by
      simp [takeAny?, hpull, hget]
    refine .inr ⟨entry.2, idle.toList, record, hids, hget, hbusy, ?_⟩
    rw [heq]
    refine ⟨rfl, rfl, ?_⟩
    rw [← valid.attended hrecord]
    apply Change.of_put { record with busy := true } fresh
    refine (h.withIdle sound (capacity.trans h.capacity) nodup.2 ?_).withRecord hget
      ⟨valid.sound, valid.capacity, fun hfree => by cases hfree⟩ fun _ => nodup.1
    intro k hk
    exact h.ranked_free k (by simp [hids, hk])

/-! ### Giving up -/

/-- Signals are taken from the front up to the first whose caller listens. -/
theorem firstListening_eq (listens : RequestId → Bool) {q : Queue Signal} (h : q.Sound) {n : Nat}
    (hn : q.toList.length ≤ n) :
    match q.toList.dropWhile fun signal => !listens signal.request with
    | [] => ∃ q', firstListening listens n q = (q.toList, none, q') ∧ q'.Sound ∧
        q'.capacity = q.capacity ∧ q'.toList = []
    | signal :: rest => ∃ q', firstListening listens n q =
          (q.toList.takeWhile fun signal => !listens signal.request, some signal, q') ∧
        q'.Sound ∧ q'.capacity = q.capacity ∧ q'.toList = rest := by
  induction n generalizing q with
  | zero =>
    have hnil : q.toList = [] := List.length_eq_zero_iff.1 (by omega)
    simp only [hnil, List.dropWhile_nil]
    exact ⟨q, rfl, h, rfl, hnil⟩
  | succ n ih =>
    have pulled := Queue.pull?_eq h
    cases hlist : q.toList with
    | nil =>
      simp only [hlist] at pulled
      exact ⟨q, by simp [firstListening, pulled], h, rfl, hlist⟩
    | cons signal rest =>
      simp only [hlist] at pulled
      obtain ⟨q', hpull, sound, capacity, hrest⟩ := pulled
      by_cases hlistens : listens signal.request = true
      · simp only [List.dropWhile_cons, List.takeWhile_cons, hlistens, Bool.not_true,
          Bool.false_eq_true, if_false]
        exact ⟨q', by simp [firstListening, hpull, hlistens], sound, capacity, hrest⟩
      · have later := ih sound (by rw [hlist, List.length_cons] at hn; rw [hrest]; omega)
        rw [hrest] at later
        simp only [Bool.not_eq_true] at hlistens
        simp only [List.dropWhile_cons, List.takeWhile_cons, hlistens, Bool.not_false, if_true]
        cases hdrop : rest.dropWhile fun signal => !listens signal.request with
        | nil =>
          simp only [hdrop] at later
          obtain ⟨last, hfirst, sound', capacity', hnil⟩ := later
          exact ⟨last, by simp [firstListening, hpull, hlistens, hfirst], sound',
            capacity'.trans capacity, hnil⟩
        | cons found behind =>
          simp only [hdrop] at later
          obtain ⟨last, hfirst, sound', capacity', hbehind⟩ := later
          exact ⟨last, by simp [firstListening, hpull, hlistens, hfirst], sound',
            capacity'.trans capacity, hbehind⟩

theorem handOver_unknown (h : b.Valid) (hbusy : b.isBusy? id = none)
    (listens : RequestId → Bool) (priority : Priority) :
    (b.handOver listens id priority).verdict = .error (.notRegistered id) ∧
    (b.handOver listens id priority).delivery = none ∧
    (b.handOver listens id priority).vanished = [] ∧
    (b.handOver listens id priority).broker.nextTicket = b.nextTicket ∧
    Change b (b.handOver listens id priority).broker id none [] False := by
  have hget := (isBusy?_eq_none_iff b id).1 hbusy
  have heq : (b.handOver listens id priority).broker =
      { b with retired := b.retired.erase id } := by simp [handOver, hget]
  have gone : ∀ k ∈ b.retired.erase id, b.isBusy? k = none := fun k hk =>
    h.retired_gone k (List.mem_of_mem_erase hk)
  have same := Change.of_same h rfl rfl rfl id
  rw [heq]
  refine ⟨by simp [handOver, hget], by simp [handOver, hget], by simp [handOver, hget], rfl, ?_⟩
  constructor
  · exact h.withRetired (h.retired_nodup.erase id) gone
  · rfl
  · rw [← hbusy]
    exact same.busy
  · rw [← line_of_unknown hget]
    exact same.line
  · intro k
    simp only [h.retired_nodup.mem_erase_iff]
    by_cases hk : k = id <;> simp [hk]

theorem handOver_free (hbusy : b.isBusy? id = some false) (listens : RequestId → Bool)
    (priority : Priority) :
    (b.handOver listens id priority).verdict = .error (.notHeld id) ∧
    (b.handOver listens id priority).delivery = none ∧
    (b.handOver listens id priority).vanished = [] ∧
    (b.handOver listens id priority).broker = b := by
  obtain ⟨record, hget, hrecord⟩ := exists_record hbusy
  simp [handOver, hget, hrecord]

/-- The first in line who listens gets the resource, which stays held. -/
theorem handOver_waiter (h : b.Valid) (hbusy : b.isBusy? id = some true)
    {listens : RequestId → Bool} {signal : Signal} {rest : List Signal}
    (hline : (b.line id).dropWhile (fun signal => !listens signal.request) = signal :: rest)
    (priority : Priority) :
    ∃ record, b.records.get? id = some record ∧
      (b.handOver listens id priority).verdict = .ok .waiter ∧
      (b.handOver listens id priority).delivery = some (signal.request, record.resource) ∧
      (b.handOver listens id priority).vanished =
        (b.line id).takeWhile (fun signal => !listens signal.request) ∧
      (b.handOver listens id priority).broker.nextTicket = b.nextTicket ∧
      Change b (b.handOver listens id priority).broker id (some true) rest False := by
  obtain ⟨record, hget, hrecord⟩ := exists_record hbusy
  have valid := h.record id record hget
  have fresh : id ∉ b.retired := h.not_retired (by simp [hbusy])
  rw [line_of_get? hget] at hline ⊢
  have found := firstListening_eq listens valid.sound
    (Nat.le_of_eq (Queue.length_toList valid.sound))
  simp only [hline] at found
  obtain ⟨waiters, hfirst, sound, capacity, list⟩ := found
  have heq : (b.handOver listens id priority).broker =
      { b with
        records := b.records.put id
          { record with waiters := waiters, lastPriority := priority } } := by
    simp [handOver, hget, hrecord, hfirst]
  have valid' : Record.Valid b.settings.waiterCapacity.toNat
      { record with waiters := waiters, lastPriority := priority } :=
    ⟨sound, capacity.trans valid.capacity, fun hfree => by simp [hrecord] at hfree⟩
  rw [heq, ← list, ← hrecord]
  refine ⟨record, hget, by simp [handOver, hget, hrecord, hfirst],
    by simp [handOver, hget, hrecord, hfirst], by simp [handOver, hget, hrecord, hfirst], rfl, ?_⟩
  apply Change.of_put { record with waiters := waiters, lastPriority := priority } fresh
  exact h.withRecord hget valid' fun _ => h.not_ranked (by simp [hbusy])

/-- With nobody in line who listens, the resource is free. -/
theorem handOver_idle (h : b.Valid) (hbusy : b.isBusy? id = some true)
    {listens : RequestId → Bool}
    (hline : (b.line id).dropWhile (fun signal => !listens signal.request) = [])
    (priority : Priority) :
    (b.handOver listens id priority).verdict = .ok .idle ∧
    (b.handOver listens id priority).delivery = none ∧
    (b.handOver listens id priority).vanished = b.line id ∧
    (b.handOver listens id priority).broker.nextTicket = b.nextTicket ∧
    Change b (b.handOver listens id priority).broker id (some false) [] False := by
  obtain ⟨record, hget, hrecord⟩ := exists_record hbusy
  have valid := h.record id record hget
  have fresh : id ∉ b.retired := h.not_retired (by simp [hbusy])
  rw [line_of_get? hget] at hline ⊢
  have found := firstListening_eq listens valid.sound
    (Nat.le_of_eq (Queue.length_toList valid.sound))
  simp only [hline] at found
  obtain ⟨waiters, hfirst, sound, capacity, list⟩ := found
  let record' : Record ρ :=
    { record with busy := false, waiters := waiters, lastPriority := priority }
  have valid' : record'.Valid b.settings.waiterCapacity.toNat :=
    ⟨sound, capacity.trans valid.capacity, fun _ => list⟩
  have put : ({ b with records := b.records.put id record' } : Broker ι ρ).Valid :=
    h.withRecord hget valid' fun hheld => by cases hheld
  have unranked : id ∉ b.idleIds := h.not_ranked (by simp [hbusy])
  have pushed := RankedQueue.push_eq h.sound priority id
  rw [← list]
  refine ⟨?_, ?_, ?_, ?_, ?_⟩
  · simp [handOver, hget, hrecord, hfirst]
  · simp [handOver, hget, hrecord, hfirst]
  · simp [handOver, hget, hrecord, hfirst]
  · simp [handOver, hget, hrecord, hfirst]
  · split at pushed
    · obtain ⟨idle, hpush, sound, capacity, _, entries⟩ := pushed
      have heq : (b.handOver listens id priority).broker =
          { b with records := b.records.put id record', idle := idle } := by
        simp [handOver, hget, hrecord, hfirst, hpush, record']
      have perm : idle.toList.Perm (id :: b.idleIds) := by
        rw [RankedQueue.toList, entries]
        exact (RankedQueue.ranked_perm _ _ _).map Prod.snd
      rw [heq]
      apply Change.of_put record' fresh
      refine put.withIdle sound (capacity.trans h.capacity) ?_ ?_
      · rw [perm.nodup_iff, List.nodup_cons]
        exact ⟨unranked, h.ranked_nodup⟩
      · intro k hk
        rcases List.mem_cons.1 (perm.mem_iff.1 hk) with rfl | hmem
        · simp [isBusy?, record']
        · exact put.ranked_free k hmem
    · have heq : (b.handOver listens id priority).broker =
          { b with records := b.records.put id record' } := by
        simp [handOver, hget, hrecord, hfirst, pushed, record']
      rw [heq]
      exact Change.of_put record' fresh put

/-! ### Leaving a line -/

theorem leave?_cases (h : b.Valid) (id : ι) (ticket : UInt64) :
    match (b.line id).find? fun signal => signal.ticket == ticket with
    | none => b.leave? id ticket = none
    | some signal => ∃ b', b.leave? id ticket = some (signal, b') ∧
        b.isBusy? id = some true ∧ b'.nextTicket = b.nextTicket ∧
        Change b b' id (some true)
          ((b.line id).eraseP fun signal => signal.ticket == ticket) False := by
  cases hget : b.records.get? id with
  | none => simp [line_of_unknown hget, leave?, hget]
  | some record =>
    have valid := h.record id record hget
    have found := Queue.extract?_eq valid.sound fun signal => signal.ticket == ticket
    rw [line_of_get? hget]
    cases hfind : record.waiters.toList.find? fun signal => signal.ticket == ticket with
    | none =>
      simp only [hfind] at found
      simp [leave?, hget, found]
    | some signal =>
      simp only [hfind] at found
      obtain ⟨waiters, hextract, sound, capacity, list⟩ := found
      have hrecord : record.busy = true := by
        by_contra hfree
        have hnil := valid.attended (by simpa using hfree)
        simp [hnil] at hfind
      have hbusy : b.isBusy? id = some true := by simp [isBusy?, hget, hrecord]
      have fresh : id ∉ b.retired := h.not_retired (by simp [hbusy])
      have valid' : Record.Valid b.settings.waiterCapacity.toNat
          { record with waiters := waiters } :=
        ⟨sound, capacity.trans valid.capacity, fun hfree => by simp [hrecord] at hfree⟩
      refine ⟨{ b with records := b.records.put id { record with waiters := waiters } },
        by simp [leave?, hget, hextract], hbusy, rfl, ?_⟩
      rw [← list, ← hrecord]
      apply Change.of_put { record with waiters := waiters } fresh
      exact h.withRecord hget valid' fun _ => h.not_ranked (by simp [hbusy])

end Broker

end Custody
