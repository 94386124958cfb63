import Custody.Proofs.Hall.Wakeup
import Mathlib.Algebra.Group.Nat.Defs

/-!
# Tickets

As long as tickets have not come round, no two requests have the same one, and no signal
outlives its request.

* `Hall.Move.keeps_or_joins`: lines get no longer, but by the one request that joins;
* `Hall.Ticketed`: what holds of tickets that have not come round;
* `Hall.Reachable.ticketed`: it holds of every run that issued fewer than 2 ^ 64.
-/

namespace Custody

theorem Stage.Later.queued_before {ρ : Type} {s : Stage ρ} {ticket : UInt64} {mail : Mail ρ}
    (later : s.Later (.queued ticket mail)) : ∃ mail', s = .queued ticket mail' := by
  cases s with
  | fresh => cases later
  | parked notified =>
    obtain ⟨_, heq, _⟩ := later
    cases heq
  | queued ticket' mail' =>
    obtain ⟨_, heq, _⟩ := later
    cases heq
    exact ⟨mail', Eq.refl _⟩

namespace Hall

variable {ι ρ : Type} [DecidableEq ι] {h h' : Hall ι ρ} {actor : Option RequestId}
  {transfers : List (Transfer ι)}

/-- The number of tickets that were issued. -/
def ticketsIssued (h : Hall ι ρ) : Nat := h.log.countP Event.isQueued

/-- One request comes last in line, with the next ticket. -/
structure Joins (h : Hall ι ρ) (k : RequestId) (r : Request ι ρ) (h' : Hall ι ρ) : Prop where
  live : h.requests.get? k = some r
  stage : ∀ ticket mail, r.stage ≠ .queued ticket mail
  issued : h'.ticketsIssued = h.ticketsIssued + 1
  ticket : h'.broker.nextTicket = h.broker.nextTicket + 1
  line : ∀ x, h'.broker.line x =
    if x = r.target then h.broker.line x ++ [⟨h.broker.nextTicket, k⟩] else h.broker.line x
  busy : ∀ x, h'.broker.isBusy? x = h.broker.isBusy? x
  requests : ∀ j, h'.requests.get? j =
    if j = k then some { r with stage := .queued h.broker.nextTicket .awaited }
    else h.requests.get? j

theorem Incident.keeps (incident : h.Incident actor transfers h') :
    h'.ticketsIssued = h.ticketsIssued ∧ h'.broker.nextTicket = h.broker.nextTicket ∧
      ∀ x, (h'.broker.line x).Sublist (h.broker.line x) := by
  cases incident with
  | report quiet =>
    refine ⟨?_, rfl, fun x => .refl _⟩
    simpa [ticketsIssued, Hall.report, List.countP_append, List.countP_eq_zero] using quiet
  | unrank ticket change => exact ⟨rfl, ticket, change.line_sublist (.refl _)⟩
  | register _ _ ticket change => exact ⟨rfl, ticket, change.line_sublist (List.nil_sublist _)⟩
  | take _ ticket change => exact ⟨rfl, ticket, change.line_sublist (List.nil_sublist _)⟩
  | free _ ticket change => exact ⟨rfl, ticket, change.line_sublist (List.nil_sublist _)⟩
  | unregister _ ticket change => exact ⟨rfl, ticket, change.line_sublist (List.nil_sublist _)⟩
  | send _ first _ ticket change =>
    obtain ⟨gone, split, _, _⟩ := dropWhile_split first
    refine ⟨rfl, ticket, change.line_sublist ?_⟩
    rw [split]
    exact (List.sublist_cons_self _ _).trans (List.sublist_append_right _ _)
  | idle _ _ ticket change => exact ⟨rfl, ticket, change.line_sublist (List.nil_sublist _)⟩
  | notify | start | cancel | elapse => exact ⟨rfl, rfl, fun x => .refl _⟩

theorem Move.keeps_or_joins (move : h.Move actor transfers h') :
    (h'.ticketsIssued = h.ticketsIssued ∧ h'.broker.nextTicket = h.broker.nextTicket ∧
      ∀ x, (h'.broker.line x).Sublist (h.broker.line x)) ∨
    ∃ k r, actor = some k ∧ h.Joins k r h' := by
  cases move with
  | incident incident => exact .inl incident.keeps
  | quit _ _ _ _ ticket change =>
    exact .inl ⟨rfl, ticket, change.line_sublist (List.eraseP_sublist ..)⟩
  | @join b k r live stage _ held _ ticket change =>
    refine .inr ⟨k, r, rfl, live, stage, ?_, ticket, ?_, ?_, ?_⟩
    · simp [ticketsIssued, Hall.report, setRequest, Event.isQueued]
    · intro x
      show b.line x = _
      rw [change.line]
      split
      · rename_i heq
        rw [heq]
      · rfl
    · intro x
      show b.isBusy? x = _
      rw [change.busy]
      split
      · rename_i heq
        rw [heq, held]
      · rfl
    · intro j
      simp [Hall.report]
  | finish | park | look => exact .inl ⟨rfl, rfl, fun x => .refl _⟩

/-- A request with a ticket had it before a move, or joins by it. -/
theorem Move.queued_before {k : RequestId} {r' : Request ι ρ} {ticket : UInt64} {mail : Mail ρ}
    (move : h.Move actor transfers h') (coherent : h.Coherent)
    (live' : h'.requests.get? k = some r') (stage : r'.stage = .queued ticket mail) :
    (∃ r mail', h.requests.get? k = some r ∧ r'.target = r.target ∧
      r.stage = .queued ticket mail') ∨
    ∃ r, h.Joins k r h' := by
  have known : (∃ r, h.requests.get? k = some r ∧ r.Told r' ∧ r.stage.Later r'.stage) ∨
      h.nextRequest ≤ k ∧ r'.stage = .fresh →
      ∃ r mail', h.requests.get? k = some r ∧ r'.target = r.target ∧
      r.stage = .queued ticket mail' := by
    rintro (⟨r, live, told, later⟩ | ⟨_, fresh⟩)
    · rw [stage] at later
      obtain ⟨mail', stage'⟩ := later.queued_before
      exact ⟨r, mail', live, told.target, stage'⟩
    · simp [fresh] at stage
  by_cases acts : actor = some k
  · have joins := move.keeps_or_joins
    subst acts
    cases move with
    | incident incident => exact .inl (known (incident.before coherent live'))
    | quit | finish => simp at live'
    | join live =>
      rcases joins with ⟨issued, _⟩ | ⟨j, r, hj, joins⟩
      · simp [ticketsIssued, Hall.report, setRequest, Event.isQueued] at issued
      · rw [Option.some.injEq] at hj
        exact .inr ⟨r, hj ▸ joins⟩
    | park live =>
      simp only [requests_setRequest, if_true, Option.some.injEq] at live'
      simp [← live'] at stage
    | look live =>
      simp only [requests_setRequest, if_true, Option.some.injEq] at live'
      subst live'
      exact .inl ⟨_, mail, live, rfl, stage⟩
  · exact .inl (known (move.before coherent acts live'))

/-- Tickets that have not come round: each is smaller than the number issued and names one
request, and every signal is that of a request. -/
structure Ticketed (h : Hall ι ρ) : Prop where
  next : h.broker.nextTicket.toNat = h.ticketsIssued
  issued : ∀ k r ticket mail, h.requests.get? k = some r → r.stage = .queued ticket mail →
    ticket.toNat < h.ticketsIssued
  unique : ∀ j k r s ticket mail mail', h.requests.get? j = some r → h.requests.get? k = some s →
    r.stage = .queued ticket mail → s.stage = .queued ticket mail' → j = k
  live : ∀ x, ∀ signal ∈ h.broker.line x, ∃ r, h.requests.get? signal.request = some r

namespace Ticketed

variable {k : RequestId} {r : Request ι ρ}

/-- A signal with the ticket of a request is its own. -/
theorem eq_signal (ticketed : h.Ticketed) (coherent : h.Coherent)
    (live : h.requests.get? k = some r) {ticket : UInt64} {mail : Mail ρ}
    (stage : r.stage = .queued ticket mail) {x : ι} {signal : Signal}
    (mem : signal ∈ h.broker.line x) (same : signal.ticket = ticket) :
    signal = ⟨ticket, k⟩ ∧ mail = .awaited := by
  obtain ⟨s, hs⟩ := ticketed.live x signal mem
  obtain ⟨_, stage'⟩ := coherent.listening x signal mem s hs
  have hk := ticketed.unique _ _ _ _ _ _ _ hs live (same ▸ stage') stage
  obtain ⟨ticket', k'⟩ := signal
  simp only at same hk hs
  subst same hk
  rw [hs, Option.some.injEq] at live
  rw [← live, stage', Stage.queued.injEq] at stage
  exact ⟨rfl, stage.2.symm⟩

/-- Nobody strays whose ticket is its own. -/
theorem not_strays (ticketed : h.Ticketed) (coherent : h.Coherent)
    (live : h.requests.get? k = some r) : ¬h.Strays r := by
  rintro ⟨ticket, resource, stage, signal, mem, same⟩
  have hmail := (ticketed.eq_signal coherent live stage mem same).2
  cases hmail

/-- In a line, everybody is there. -/
theorem dropWhile_line (ticketed : h.Ticketed) (x : ι) :
    (h.broker.line x).dropWhile (fun signal => !h.listens signal.request) = h.broker.line x := by
  cases hline : h.broker.line x with
  | nil => rfl
  | cons signal rest =>
    obtain ⟨r, live⟩ := ticketed.live x signal (by simp [hline])
    simp [listens, Registry.contains, live]

end Ticketed

theorem ticketed_opening (settings : Settings) :
    (opening (.empty settings) : Hall ι ρ).Ticketed where
  next := rfl
  issued k r ticket mail live := by simp [opening] at live
  unique j k r s ticket mail mail' live := by simp [opening] at live
  live x signal mem := by simp [opening, Broker.line, Broker.empty] at mem

theorem Joins.ticketed {k : RequestId} {r : Request ι ρ} (joins : h.Joins k r h')
    (ticketed : h.Ticketed) (bound : h'.ticketsIssued < 2 ^ 64) : h'.Ticketed := by
  have issued := joins.issued
  have next := ticketed.next
  -- The ticket of the one who joins is greater than all others.
  have fresh : ∀ j s mail, h.requests.get? j = some s →
      s.stage ≠ .queued h.broker.nextTicket mail := by
    intro j s mail live stage
    have smaller := ticketed.issued j s _ mail live stage
    omega
  constructor
  · rw [joins.ticket, issued, UInt64.toNat_add, next]
    simp only [UInt64.toNat_one]
    omega
  · intro j s ticket mail live stage
    rw [joins.requests] at live
    split at live
    · rw [Option.some.injEq] at live
      simp only [← live, Stage.queued.injEq] at stage
      rw [← stage.1, next, issued]
      omega
    · have smaller := ticketed.issued j s ticket mail live stage
      omega
  · intro i j s t ticket mail mail' live live' stage stage'
    rw [joins.requests] at live live'
    split at live <;> split at live'
    · simp_all
    · rw [Option.some.injEq] at live
      simp only [← live, Stage.queued.injEq] at stage
      exact absurd (stage.1 ▸ stage') (fresh j t mail' live')
    · rw [Option.some.injEq] at live'
      simp only [← live', Stage.queued.injEq] at stage'
      exact absurd (stage'.1 ▸ stage) (fresh i s mail live)
    · exact ticketed.unique i j s t ticket mail mail' live live' stage stage'
  · intro x signal mem
    rw [joins.requests]
    split
    · exact ⟨_, rfl⟩
    · rename_i hne
      rw [joins.line] at mem
      split at mem
      · rcases List.mem_append.1 mem with hmem | hmem
        · exact ticketed.live x signal hmem
        · exact absurd (congrArg Signal.request (List.mem_singleton.1 hmem)) hne
      · exact ticketed.live x signal mem

/-- Whoever is in line after a move is still there. -/
theorem Move.line_live (move : h.Move actor transfers h') (coherent : h.Coherent)
    (ticketed : h.Ticketed) (shorter : ∀ x, (h'.broker.line x).Sublist (h.broker.line x)) {x : ι}
    {signal : Signal} (mem : signal ∈ h'.broker.line x) :
    ∃ r, h'.requests.get? signal.request = some r := by
  have before := (shorter x).mem mem
  obtain ⟨r, live⟩ := ticketed.live x signal before
  obtain ⟨target, stage⟩ := coherent.listening x signal before r live
  by_cases acts : actor = some signal.request
  · cases move with
    | incident incident =>
      obtain ⟨r', live', _⟩ := incident.bystander coherent live
      exact ⟨r', live'⟩
    | @quit b k s ticket mail withdrawn live' stage' found held same change =>
      -- The signal that is withdrawn is the one of the request that ends.
      obtain ⟨front, back, split, erased⟩ := find?_split found
      have own := ticketed.eq_signal coherent live' stage' (List.mem_of_find?_eq_some found)
        (by simpa using List.find?_some found)
      rw [Option.some.injEq] at acts
      have hsame : s = r := by
        rw [acts, live] at live'
        exact (Option.some.inj live').symm
      rw [hsame, target] at split erased change
      have absent : signal ∉ front ++ back := by
        rw [← mem_split_iff (coherent.distinct x) split before, own.1]
        exact acts
      have mem' : signal ∈ b.line x := mem
      rw [change.line, if_pos rfl, erased] at mem'
      exact absurd mem' absent
    | finish live' gone =>
      rw [Option.some.injEq] at acts
      rw [acts, live, Option.some.injEq] at live'
      exact absurd (live' ▸ stage) (gone signal.ticket)
    | join | park | look =>
      rw [Option.some.injEq] at acts
      exact ⟨_, by simp [Hall.report, acts]; rfl⟩
  · obtain ⟨r', live', _⟩ := move.bystander coherent acts live
    exact ⟨r', live'⟩

theorem Move.ticketed (move : h.Move actor transfers h') (coherent : h.Coherent)
    (bound : h'.ticketsIssued < 2 ^ 64) (ticketed : h.Ticketed) : h'.Ticketed := by
  rcases move.keeps_or_joins with ⟨issued, next, shorter⟩ | ⟨k, r, _, joins⟩
  · have before : ∀ {k r' ticket mail}, h'.requests.get? k = some r' →
        r'.stage = .queued ticket mail →
        ∃ r mail', h.requests.get? k = some r ∧ r.stage = .queued ticket mail' := by
      intro k r' ticket mail live' stage
      rcases move.queued_before coherent live' stage with ⟨r, mail', live, _, stage'⟩ | ⟨r, joins⟩
      · exact ⟨r, mail', live, stage'⟩
      · have more := joins.issued
        omega
    constructor
    · rw [next, issued]
      exact ticketed.next
    · intro k r' ticket mail live' stage
      obtain ⟨r, mail', live, stage'⟩ := before live' stage
      rw [issued]
      exact ticketed.issued k r ticket mail' live stage'
    · intro j k r s ticket mail mail' live live' stage stage'
      obtain ⟨r₀, mail₀, live₀, stage₀⟩ := before live stage
      obtain ⟨s₀, mail₁, live₁, stage₁⟩ := before live' stage'
      exact ticketed.unique j k r₀ s₀ ticket mail₀ mail₁ live₀ live₁ stage₀ stage₁
    · intro x signal mem
      exact move.line_live coherent ticketed shorter mem
  · exact joins.ticketed ticketed bound

/-- No ticket is taken back. -/
theorem Move.issued_le (move : h.Move actor transfers h') : h.ticketsIssued ≤ h'.ticketsIssued := by
  rcases move.keeps_or_joins with ⟨issued, _⟩ | ⟨_, _, _, joins⟩
  · exact Nat.le_of_eq issued.symm
  · have more := joins.issued
    omega

theorem Moves.issued_le (moves : Moves actor h transfers h') :
    h.ticketsIssued ≤ h'.ticketsIssued := by
  induction moves with
  | done => exact Nat.le_refl _
  | next move _ ih => exact Nat.le_trans move.issued_le ih

theorem Moves.ticketed (moves : Moves actor h transfers h') (coherent : h.Coherent)
    (bound : h'.ticketsIssued < 2 ^ 64) (ticketed : h.Ticketed) : h'.Ticketed := by
  induction moves with
  | done => exact ticketed
  | next move moves ih =>
    have bound' := Nat.lt_of_le_of_lt moves.issued_le bound
    exact ih (move.coherent coherent) bound (move.ticketed coherent bound' ticketed)

theorem Reachable.ticketed {settings : Settings} (reachable : Reachable settings h)
    (bound : h.ticketsIssued < 2 ^ 64) : h.Ticketed := by
  induction reachable with
  | start => exact ticketed_opening settings
  | next op reachable ih =>
    obtain ⟨_, moves⟩ := step_moves reachable.coherent op.isBy_actor
    have bound' := Nat.lt_of_le_of_lt moves.issued_le bound
    exact moves.ticketed reachable.coherent bound (ih bound')

end Hall

end Custody
