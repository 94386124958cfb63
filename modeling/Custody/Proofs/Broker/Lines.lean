import Custody.Proofs.Broker.Entries

/-!
# Changes of one line

Callers come and go in the line of an id, and all else in the broker stays where it is.

* `Broker.Relines`: only the line of one id is another, and the next ticket;
* `Broker.leave_relines`, `Broker.request_relines`, `Broker.handOver_relines`: a signal leaves
  it, one comes to its end, the first is served.
-/

namespace Custody

theorem Registry.put_put {ι β : Type} [DecidableEq ι] (r : Registry ι β) (key : ι)
    (value value' : β) : (r.put key value).put key value' = r.put key value' := by
  apply ext_entries
  simp only [put]
  induction r.entries with
  | nil => simp [putIn]
  | cons entry rest ih =>
    obtain ⟨k, v⟩ := entry
    by_cases hk : k = key
    · simp [putIn, hk]
    · simp [putIn, hk, ih]

/-- The only element that passes a test is the one that is taken out. -/
theorem eraseP_eq_erase {α : Type} [DecidableEq α] {l : List α} {p : α → Bool} {a : α}
    (passes : p a = true) (alone : ∀ b ∈ l, p b = true → b = a) : l.eraseP p = l.erase a := by
  induction l with
  | nil => rfl
  | cons b l ih =>
    by_cases hb : b = a
    · subst hb
      rw [List.eraseP_cons_of_pos passes, List.erase_cons_head]
    · have fails : ¬p b = true := fun hp => hb (alone b (by simp) hp)
      rw [List.eraseP_cons_of_neg fails, List.erase_cons_tail (by simpa using hb),
        ih fun c mem => alone c (List.mem_cons_of_mem _ mem)]

namespace Broker

variable {ι ρ : Type} [DecidableEq ι] {b b' : Broker ι ρ} {id : ι}

/-- Of an id that is registered the line is as given, and so is the next ticket. Nothing else
has changed. -/
def Relines (b : Broker ι ρ) (id : ι) (line : List Signal) (ticket : UInt64)
    (b' : Broker ι ρ) : Prop :=
  ∃ record waiters, b.records.get? id = some record ∧ waiters.toList = line ∧
    b' = { b with
      records := b.records.put id { record with waiters := waiters }
      nextTicket := ticket }

theorem Relines.trans {b'' : Broker ι ρ} {line line' : List Signal} {ticket ticket' : UInt64}
    (first : b.Relines id line ticket b') (second : b'.Relines id line' ticket' b'') :
    b.Relines id line' ticket' b'' := by
  obtain ⟨record, waiters, known, _, rfl⟩ := first
  obtain ⟨record', waiters', known', list, rfl⟩ := second
  simp only [Registry.get?_put, if_true, Option.some.injEq] at known'
  subst known'
  exact ⟨record, waiters', known, list, by simp [Registry.put_put]⟩

theorem Relines.line {line : List Signal} {ticket : UInt64}
    (relines : b.Relines id line ticket b') : b'.line id = line := by
  obtain ⟨record, waiters, _, list, rfl⟩ := relines
  simp [Broker.line, list]

theorem Relines.line_of_ne {line : List Signal} {ticket : UInt64}
    (relines : b.Relines id line ticket b') {other : ι} (apart : other ≠ id) :
    b'.line other = b.line other := by
  obtain ⟨record, waiters, _, _, rfl⟩ := relines
  simp [Broker.line, apart]

theorem Relines.isBusy? {line : List Signal} {ticket : UInt64}
    (relines : b.Relines id line ticket b') (other : ι) : b'.isBusy? other = b.isBusy? other := by
  obtain ⟨record, waiters, known, _, rfl⟩ := relines
  by_cases same : other = id
  · simp [Broker.isBusy?, same, known]
  · simp [Broker.isBusy?, same]

theorem Relines.settings {line : List Signal} {ticket : UInt64}
    (relines : b.Relines id line ticket b') : b'.settings = b.settings := by
  obtain ⟨_, _, _, _, rfl⟩ := relines
  rfl

theorem Relines.nextTicket {line : List Signal} {ticket : UInt64}
    (relines : b.Relines id line ticket b') : b'.nextTicket = ticket := by
  obtain ⟨_, _, _, _, rfl⟩ := relines
  rfl

/-- A line that nobody joined or left. -/
theorem relines_refl {busy : Bool} (known : b.isBusy? id = some busy) :
    b.Relines id (b.line id) b.nextTicket b := by
  obtain ⟨record, known, _⟩ := exists_record known
  refine ⟨record, record.waiters, known, (line_of_get? known).symm, ?_⟩
  rw [Registry.put_self known]

/-- A signal leaves the line that is the only one there with its ticket. -/
theorem leave_relines (h : b.Valid) {signal : Signal} (mem : signal ∈ b.line id)
    (alone : ∀ other ∈ b.line id, other.ticket = signal.ticket → other = signal) :
    ∃ b', b.leave? id signal.ticket = some (signal, b') ∧
      b.Relines id ((b.line id).erase signal) b.nextTicket b' := by
  cases known : b.records.get? id with
  | none => simp [line_of_unknown known] at mem
  | some record =>
    rw [line_of_get? known] at mem alone ⊢
    have valid := h.record id record known
    have extracted := Queue.extract?_eq valid.sound fun other => other.ticket == signal.ticket
    have own : record.waiters.toList.find? (fun other => other.ticket == signal.ticket) =
        some signal := by
      obtain ⟨found, hfound⟩ : ∃ found, record.waiters.toList.find?
          (fun other => other.ticket == signal.ticket) = some found := by
        rw [← Option.isSome_iff_exists, List.find?_isSome]
        exact ⟨signal, mem, by simp⟩
      have same : found.ticket = signal.ticket := by simpa using List.find?_some hfound
      rw [hfound, alone found (List.mem_of_find?_eq_some hfound) same]
    rw [own] at extracted
    obtain ⟨waiters, hextract, _, _, list⟩ := extracted
    rw [eraseP_eq_erase (by simp) fun other hmem same => alone other hmem (by simpa using same)]
      at list
    exact ⟨{ b with records := b.records.put id { record with waiters := waiters } },
      by simp [leave?, known, hextract], record, waiters, known, list, rfl⟩

/-- A caller who is queued comes last in line, with the next ticket. -/
theorem request_relines (h : b.Valid) {caller : RequestId} {cancelled : Bool} {ticket : UInt64}
    (queued : (b.request id caller cancelled).1 = .queued ticket) :
    ticket = b.nextTicket ∧
      b.Relines id (b.line id ++ [⟨b.nextTicket, caller⟩]) (b.nextTicket + 1)
        (b.request id caller cancelled).2 := by
  cases known : b.records.get? id with
  | none => simp [request, known] at queued
  | some record =>
    have valid := h.record id record known
    have pushed := Queue.push_eq valid.sound ⟨b.nextTicket, caller⟩
    rw [line_of_get? known]
    cases busy : record.busy with
    | false => simp [request, known, busy] at queued
    | true =>
      cases cancelled with
      | true => simp [request, known, busy] at queued
      | false =>
        split at pushed
        · obtain ⟨waiters, hpush, _, _, list⟩ := pushed
          simp only [request, known, busy, if_true, Bool.false_eq_true, if_false, hpush,
            Reception.queued.injEq] at queued
          refine ⟨queued.symm, record, waiters, known, list, ?_⟩
          simp [request, known, busy, hpush]
        · simp [request, known, busy, pushed.1] at queued

/-- A caller for whom there is no room leaves no trace. -/
theorem request_full {caller : RequestId} {cancelled : Bool}
    (full : (b.request id caller cancelled).1 = .full) :
    (b.request id caller cancelled).2 = b := by
  cases known : b.records.get? id with
  | none => simp [request, known] at full
  | some record =>
    cases busy : record.busy with
    | false => simp [request, known, busy] at full
    | true =>
      cases cancelled with
      | true => simp [request, known, busy]
      | false =>
        cases pushed : record.waiters.push ⟨b.nextTicket, caller⟩ with
        | error _ => simp [request, known, busy, pushed]
        | ok waiters => simp [request, known, busy, pushed] at full

/-- A resource that is given up at the priority on record goes to the first in line, and
nothing else changes. -/
theorem handOver_relines (h : b.Valid) (held : b.isBusy? id = some true)
    {listens : RequestId → Bool} {signal : Signal} {rest : List Signal}
    (first : (b.line id).dropWhile (fun signal => !listens signal.request) = signal :: rest) :
    b.Relines id rest b.nextTicket (b.handOver listens id (b.lastPriority id)).broker := by
  obtain ⟨record, known, busy⟩ := exists_record held
  have valid := h.record id record known
  rw [line_of_get? known] at first
  have found := firstListening_eq listens valid.sound
    (Nat.le_of_eq (Queue.length_toList valid.sound))
  simp only [first] at found
  obtain ⟨waiters, hfirst, _, _, list⟩ := found
  exact ⟨record, waiters, known, list, by simp [handOver, lastPriority, known, busy, hfirst]⟩

/-- The priority at which an id is given up does not matter while it is not registered. -/
theorem handOver_of_unknown (unknown : b.isBusy? id = none) (listens : RequestId → Bool)
    (priority priority' : Priority) :
    b.handOver listens id priority = b.handOver listens id priority' := by
  have hget := (isBusy?_eq_none_iff b id).1 unknown
  simp [handOver, hget]

end Broker

end Custody
