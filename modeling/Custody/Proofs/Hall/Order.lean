import Custody.Proofs.Hall.Ownership

/-!
# The order in line

Those who stand in line for an id came in that order, and whoever came first is sent the
resource first.

* `Hall.Move.mail`: only the first in line is sent the resource, and only when its id is
  unregistered is a request told that it waits in vain;
* `Hall.Orderly`: a line, and those who came to stand in it;
* `Hall.Moves.orderly`: they stay in order, and whoever joins comes last.
-/

namespace Custody

/-- In a list without repetitions, no two elements come in both orders. -/
theorem not_sublist_swap {α : Type} {l : List α} {a b : α} (nodup : l.Nodup)
    (before : [a, b].Sublist l) : ¬[b, a].Sublist l := by
  intro after
  induction l with
  | nil => cases before
  | cons c l ih =>
    rw [List.nodup_cons] at nodup
    cases before with
    | cons _ before =>
      cases after with
      | cons _ after => exact ih nodup.2 before after
      | cons_cons _ after => exact nodup.1 (before.mem (by simp))
    | cons_cons _ before =>
      cases after with
      | cons _ after => exact nodup.1 (after.mem (by simp))
      | cons_cons _ after => exact nodup.1 (before.mem (by simp))

/-- A part of a list without repetitions is what the test of being in it leaves. -/
theorem sublist_eq_filter {α : Type} {part l : List α} {p : α → Bool} (nodup : l.Nodup)
    (shorter : part.Sublist l) (member : ∀ a ∈ l, a ∈ part ↔ p a = true) : part = l.filter p := by
  have passes : part.filter p = part :=
    List.filter_eq_self.2 fun a mem => (member a (shorter.mem mem)).1 mem
  have within : part.Sublist (l.filter p) := passes ▸ shorter.filter p
  refine within.eq_of_length (List.Perm.length_eq ?_)
  rw [List.perm_ext_iff_of_nodup (shorter.nodup nodup) (nodup.filter p)]
  intro a
  constructor
  · exact within.mem
  · intro mem
    obtain ⟨mem, pass⟩ := List.mem_filter.1 mem
    exact (member a mem).2 pass

namespace Hall

variable {ι ρ : Type} [DecidableEq ι] {h h' : Hall ι ρ} {actor : Option RequestId}
  {transfers : List (Transfer ι)} {k : RequestId} {r : Request ι ρ} {x : ι}

/-- The request has a signal in line for the id. -/
def awaits (h : Hall ι ρ) (x : ι) (k : RequestId) : Bool :=
  (h.requests.get? k).any fun r => r.target = x && r.isAwaiting

theorem awaits_iff : h.awaits x k = true ↔
    ∃ r ticket, h.requests.get? k = some r ∧ r.target = x ∧ r.stage = .queued ticket .awaited := by
  constructor
  · intro waits
    obtain ⟨r, live, both⟩ := (Option.any_eq_true _ _).1 waits
    simp only [Bool.and_eq_true, decide_eq_true_eq, Request.isAwaiting] at both
    obtain ⟨target, waits⟩ := both
    split at waits <;> try cases waits
    exact ⟨r, _, live, target, by assumption⟩
  · rintro ⟨r, ticket, live, target, stage⟩
    simp [awaits, live, Request.isAwaiting, target, stage]

/-- Whoever awaits a signal stands in line, and whoever stands there and is still there
awaits his signal. -/
theorem awaits_iff_mem (coherent : h.Coherent) (ticketed : h.Ticketed) :
    h.awaits x k = true ↔ k ∈ (h.broker.line x).map Signal.request := by
  rw [awaits_iff, List.mem_map]
  constructor
  · rintro ⟨r, ticket, live, rfl, stage⟩
    exact ⟨_, coherent.awaited k r ticket live stage, rfl⟩
  · rintro ⟨signal, mem, rfl⟩
    obtain ⟨r, live⟩ := ticketed.live x signal mem
    obtain ⟨target, stage⟩ := coherent.listening x signal mem r live
    exact ⟨r, signal.ticket, live, target, stage⟩

/-! ### Mail -/

/-- What may become of the mail of a request that is queued. -/
inductive Mailed (h : Hall ι ρ) (actor : Option RequestId) (h' : Hall ι ρ) (k : RequestId)
    (x : ι) (ticket : UInt64) (mail : Mail ρ) : Mail ρ → Prop
  | kept : Mailed h actor h' k x ticket mail mail
  | sent {resource : ρ} {rest : List Signal} (first : h.broker.line x = ⟨ticket, k⟩ :: rest) :
      Mailed h actor h' k x ticket mail (.sent resource)
  | discarded (idle : actor = none) (gone : h'.broker.isBusy? x = none) :
      Mailed h actor h' k x ticket mail .discarded

theorem Incident.mail {ticket : UInt64} {mail : Mail ρ} (incident : h.Incident actor transfers h')
    (coherent : h.Coherent) (ticketed : h.Ticketed) (live : h.requests.get? k = some r)
    (stage : r.stage = .queued ticket mail) :
    ∃ r' mail', h'.requests.get? k = some r' ∧ r'.stage = .queued ticket mail' ∧
      Mailed h actor h' k r.target ticket mail mail' := by
  have notified : r.notify.stage = .queued ticket mail := by simp [Request.stage_notify, stage]
  cases incident with
  | report | unrank | register | take | free => exact ⟨r, mail, live, stage, .kept⟩
  | notify | idle => exact ⟨r.notify, mail, by simp [live], notified, .kept⟩
  | @unregister b id busy known same change =>
    have live' := requests_notifyParked ({ h with broker := b }.discard (h.broker.line id)) k
    rw [requests_discard, live] at live'
    refine ⟨_, _, live', Request.stage_told_queued stage .discarded _, ?_⟩
    split
    · rename_i mem
      simp only [List.any_eq_true, decide_eq_true_eq] at mem
      obtain ⟨signal, mem, rfl⟩ := mem
      have target := (coherent.listening id signal mem r live).1
      exact .discarded rfl (show b.isBusy? _ = _ by rw [change.busy, if_pos target])
    · exact .kept
  | @send _ b id record signal rest held first =>
    rw [ticketed.dropWhile_line] at first
    have live' := requests_notifyParked
      ({ h with broker := b }.deliver (some (signal.request, record.resource))) k
    rw [requests_deliver, live] at live'
    refine ⟨_, _, live', Request.stage_told_queued stage (.sent record.resource) _, ?_⟩
    split
    · rename_i heq
      subst heq
      obtain ⟨rfl, stage'⟩ := coherent.listening id signal (by simp [first]) r live
      rw [stage, Stage.queued.injEq] at stage'
      rw [stage'.1]
      exact .sent first
    · exact .kept
  | start target patience new =>
    have hne := Nat.ne_of_lt (Nat.lt_of_lt_of_le (coherent.numbered k r live) new)
    exact ⟨r, mail, by simpa [hne] using live, stage, .kept⟩
  | cancel token =>
    exact ⟨if r.patience = .token token then r.wake else r, mail, by simp [Hall.cancel, live],
      (r.stage_wake _).trans stage, .kept⟩
  | elapse milliseconds =>
    exact ⟨if r.isOverdue (h.now + milliseconds) then r.wake else r, mail,
      by simp [Hall.elapse, live], (r.stage_wake _).trans stage, .kept⟩

/-- Only the first in line is sent the resource, and a request is told that it waits in
vain only when its id is unregistered. -/
theorem Move.mail {ticket : UInt64} {mail : Mail ρ} {r' : Request ι ρ}
    (move : h.Move actor transfers h') (coherent : h.Coherent) (ticketed : h.Ticketed)
    (live : h.requests.get? k = some r) (stage : r.stage = .queued ticket mail)
    (live' : h'.requests.get? k = some r') :
    r'.target = r.target ∧ ∃ mail', r'.stage = .queued ticket mail' ∧
      Mailed h actor h' k r.target ticket mail mail' := by
  have unchanged : h'.requests.get? k = h.requests.get? k →
      r'.target = r.target ∧ ∃ mail', r'.stage = .queued ticket mail' ∧
        Mailed h actor h' k r.target ticket mail mail' := by
    intro same
    rw [same, live, Option.some.injEq] at live'
    exact live' ▸ ⟨rfl, mail, stage, .kept⟩
  cases move with
  | incident incident =>
    obtain ⟨r'', mail', live'', stage', mailed⟩ := incident.mail coherent ticketed live stage
    obtain ⟨s, found, told, _⟩ := incident.bystander coherent live
    obtain rfl : r'' = r' := by simpa [live'] using live''.symm
    obtain rfl : s = r'' := by simpa [live'] using found.symm
    exact ⟨told.target, mail', stage', mailed⟩
  | @quit b j quitter ticket' mail' signal quits stage' found =>
    -- The signal that is withdrawn is the one of the request that ends.
    have own := ticketed.eq_signal coherent quits stage' (List.mem_of_find?_eq_some found)
      (by simpa using List.find?_some found)
    have hne : k ≠ j := by
      rintro rfl
      simp at live'
    simp only [requests_remove, if_neg hne, requests_notifyParked, requests_discard, live,
      Option.map_some, Option.some.injEq] at live'
    have silent : ¬([signal].any fun signal => decide (signal.request = k)) = true := by
      simp [own.1, Ne.symm hne]
    subst live'
    refine ⟨Request.target_told r .discarded _, mail, ?_, .kept⟩
    rw [Request.stage_told_queued stage, if_neg silent]
  | @finish j =>
    have hne : k ≠ j := by
      rintro rfl
      simp at live'
    exact unchanged (by simp [hne])
  | @join b j s joins stage' =>
    have hne : k ≠ j := by
      rintro rfl
      exact stage' ticket mail (by rw [← stage, Option.some.inj (live.symm.trans joins)])
    exact unchanged (by simp [Hall.report, hne])
  | @park j s parks stage' =>
    have hne : k ≠ j := by
      rintro rfl
      exact stage' ticket mail (by rw [← stage, Option.some.inj (live.symm.trans parks)])
    exact unchanged (by simp [hne])
  | @look j s looks =>
    by_cases hk : k = j
    · subst hk
      simp only [requests_setRequest, if_true, Option.some.injEq] at live'
      obtain rfl : s = r := Option.some.inj (looks.symm.trans live)
      exact live' ▸ ⟨rfl, mail, stage, .kept⟩
    · exact unchanged (by simp [hk])

/-! ### Registered ids -/

/-- While a request acts, no id comes or goes. -/
theorem Move.known_iff (move : h.Move (some k) transfers h') (coherent : h.Coherent) (x : ι) :
    h'.broker.isBusy? x = none ↔ h.broker.isBusy? x = none := by
  cases move with
  | incident incident =>
    cases incident with
    | report | notify | start | cancel | elapse => exact Iff.rfl
    | unrank _ change => exact change.known_iff Iff.rfl x
    | take free _ change => exact change.known_iff (by simp [free]) x
    | free retired _ change =>
      exact change.known_iff (by simp [coherent.broker.retired_gone _ retired]) x
    | send held _ _ _ change => exact change.known_iff (by simp [held]) x
    | idle held _ _ change => exact change.known_iff (by simp [held]) x
  | quit _ _ _ held _ change => exact change.known_iff (by simp [held]) x
  | join _ _ _ held _ _ change => exact change.known_iff (by simp [held]) x
  | finish | park | look => exact Iff.rfl

theorem Moves.known_iff (moves : Moves (some k) h transfers h') (coherent : h.Coherent) (x : ι) :
    h'.broker.isBusy? x = none ↔ h.broker.isBusy? x = none := by
  generalize acts : some k = actor at moves
  induction moves with
  | done => exact Iff.rfl
  | next move _ ih =>
    subst acts
    exact (ih (move.coherent coherent)).trans (move.known_iff coherent x)

/-! ### Order -/

/-- The line of an id is in the order of a list: of those who came to stand in it, none is
told that he waits in vain, and none is sent the resource while one who came before him
waits. -/
structure Orderly (h : Hall ι ρ) (x : ι) (came : List RequestId) : Prop where
  nodup : came.Nodup
  known : ∀ k ∈ came, k < h.nextRequest
  queued : ∀ k ∈ came, ∀ r, h.requests.get? k = some r →
    r.target = x ∧ ∃ ticket mail, r.stage = .queued ticket mail ∧ mail ≠ .discarded
  line : ((h.broker.line x).map Signal.request).Sublist came
  fair : came.Pairwise fun earlier later => h.awaits x earlier = true → h.isSent x later = false

/-- Where nobody stands in line, nobody need have come. -/
theorem orderly_nil (empty : h.broker.line x = []) : h.Orderly x [] where
  nodup := .nil
  known k mem := by cases mem
  queued k mem := by cases mem
  line := by simp [empty]
  fair := .nil

/-- Numbers of requests are not given twice. -/
theorem Move.nextRequest_le (move : h.Move actor transfers h') :
    h.nextRequest ≤ h'.nextRequest := by
  cases move with
  | incident incident =>
    cases incident with
    | start target patience new => exact Nat.le_succ_of_le new
    | _ => exact Nat.le_refl _
  | _ => exact Nat.le_refl _

/-- Whoever is there after a move and had a number before it was there before it. -/
theorem Move.was_live {r' : Request ι ρ} (move : h.Move actor transfers h')
    (known : k < h.nextRequest) (live' : h'.requests.get? k = some r') :
    ∃ r, h.requests.get? k = some r := by
  have old : (∃ r, h.requests.get? k = some r) ∨ h.nextRequest ≤ k ∧ r'.stage = .fresh →
      ∃ r, h.requests.get? k = some r := by
    rintro (live | ⟨new, _⟩)
    · exact live
    · exact absurd known (Nat.not_lt.2 new)
  by_cases acts : actor = some k
  · subst acts
    cases move with
    | incident incident => exact old (incident.live_before live')
    | quit | finish => simp at live'
    | join live => exact ⟨_, live⟩
    | park live => exact ⟨_, live⟩
    | look live => exact ⟨_, live⟩
  · exact old (move.live_before acts live')

variable {came : List RequestId}

/-- Nobody is first in line while one who came before him waits. -/
theorem Orderly.not_first {earlier later : RequestId} {ticket : UInt64} {rest : List Signal}
    (orderly : h.Orderly x came) (coherent : h.Coherent) (ticketed : h.Ticketed)
    (before : [earlier, later].Sublist came) (waits : h.awaits x earlier = true) :
    h.broker.line x ≠ ⟨ticket, later⟩ :: rest := by
  intro first
  have mem := (awaits_iff_mem coherent ticketed).1 waits
  rw [first, List.map_cons] at mem
  have hne : earlier ≠ later := by
    rintro rfl
    exact (List.nodup_cons.1 (before.nodup orderly.nodup)).1 (by simp)
  have behind : earlier ∈ rest.map Signal.request := (List.mem_cons.1 mem).resolve_left hne
  have line := orderly.line
  rw [first, List.map_cons] at line
  exact not_sublist_swap orderly.nodup before
    (((List.singleton_sublist.2 behind).cons_cons later).trans line)

/-- Whoever came and is there still has the mail he had, or he was first and was sent the
resource, unless the id was taken away. -/
theorem Move.mail_of_came {r' : Request ι ρ} (move : h.Move actor transfers h')
    (coherent : h.Coherent) (ticketed : h.Ticketed)
    (spared : actor ≠ none ∨ h'.broker.isBusy? x ≠ none) (orderly : h.Orderly x came)
    (mem : k ∈ came) (live' : h'.requests.get? k = some r') :
    r'.target = x ∧ ∃ r ticket mail mail', h.requests.get? k = some r ∧ r.target = x ∧
      r.stage = .queued ticket mail ∧ r'.stage = .queued ticket mail' ∧ mail' ≠ .discarded ∧
      (mail' = mail ∨ mail' ≠ .awaited ∧ ∃ rest, h.broker.line x = ⟨ticket, k⟩ :: rest) := by
  obtain ⟨r, live⟩ := move.was_live (orderly.known k mem) live'
  obtain ⟨rfl, ticket, mail, stage, opened⟩ := orderly.queued k mem r live
  obtain ⟨target, mail', stage', mailed⟩ := move.mail coherent ticketed live stage live'
  refine ⟨target, r, ticket, mail, mail', live, rfl, stage, stage', ?_⟩
  cases mailed with
  | kept => exact ⟨opened, .inl rfl⟩
  | @sent resource rest first => exact ⟨by simp, .inr ⟨by simp, rest, first⟩⟩
  | discarded idle gone => exact absurd gone (spared.resolve_left (not_not.2 idle))

/-- A move by which nobody joins keeps the order, unless it takes the id away. -/
theorem Move.orderly_of_shorter (move : h.Move actor transfers h') (coherent : h.Coherent)
    (ticketed : h.Ticketed) (spared : actor ≠ none ∨ h'.broker.isBusy? x ≠ none)
    (shorter : (h'.broker.line x).Sublist (h.broker.line x)) (orderly : h.Orderly x came) :
    h'.Orderly x came := by
  constructor
  · exact orderly.nodup
  · exact fun k mem => Nat.lt_of_lt_of_le (orderly.known k mem) move.nextRequest_le
  · intro k mem r' live'
    obtain ⟨target, _, ticket, _, mail', _, _, _, stage', opened, _⟩ :=
      move.mail_of_came coherent ticketed spared orderly mem live'
    exact ⟨target, ticket, mail', stage', opened⟩
  · exact (shorter.map Signal.request).trans orderly.line
  · rw [List.pairwise_iff_forall_sublist]
    intro earlier later before waits'
    rw [Bool.eq_false_iff]
    intro sent'
    have fair := List.pairwise_iff_forall_sublist.1 orderly.fair before
    obtain ⟨r', ticket', live', _, stage'⟩ := awaits_iff.1 waits'
    obtain ⟨s', ticket₁, resource, sLive', _, sStage'⟩ := isSent_iff.1 sent'
    obtain ⟨_, r, ticket, mail, mail', live, target, stage, stage'', _, mailed⟩ :=
      move.mail_of_came coherent ticketed spared orderly (before.mem (by simp)) live'
    obtain ⟨_, s, ticket₂, mail₂, mail₃, sLive, sTarget, sStage, sStage'', _, sMailed⟩ :=
      move.mail_of_came coherent ticketed spared orderly (before.mem (by simp)) sLive'
    rw [stage', Stage.queued.injEq] at stage''
    rw [sStage', Stage.queued.injEq] at sStage''
    have waits : h.awaits x earlier = true := by
      rcases mailed with same | ⟨opened, _⟩
      · exact awaits_iff.2 ⟨r, ticket, live, target, by rw [stage, ← same, ← stage''.2]⟩
      · exact absurd stage''.2.symm opened
    rcases sMailed with same | ⟨_, rest, first⟩
    · have sent : h.isSent x later = true :=
        isSent_iff.2 ⟨s, ticket₂, resource, sLive, sTarget, by rw [sStage, ← same, ← sStage''.2]⟩
      rw [fair waits] at sent
      cases sent
    · exact orderly.not_first coherent ticketed before waits first

/-- Whoever joins a line comes last. -/
theorem Joins.orderly (joins : h.Joins k r h') (known : k < h'.nextRequest)
    (next : h.nextRequest ≤ h'.nextRequest) (orderly : h.Orderly x came) :
    ∃ came', h'.Orderly x came' ∧ (came' = came ∨ k ∉ came ∧ came' = came ++ [k]) := by
  have absent : k ∉ came := by
    intro mem
    obtain ⟨_, ticket, mail, stage, _⟩ := orderly.queued k mem r joins.live
    exact joins.stage ticket mail stage
  have others : ∀ j, j ≠ k → h'.requests.get? j = h.requests.get? j := by
    intro j hj
    rw [joins.requests, if_neg hj]
  have same : ∀ j ∈ came, h'.requests.get? j = h.requests.get? j := fun j mem =>
    others j fun heq => absent (heq ▸ mem)
  have kept : came.Pairwise fun earlier later =>
      h'.awaits x earlier = true → h'.isSent x later = false := by
    refine orderly.fair.imp_of_mem fun {earlier later} mem mem' fair => ?_
    rw [awaits, isSent, same earlier mem, same later mem']
    exact fair
  by_cases target : x = r.target
  · refine ⟨came ++ [k], ?_, .inr ⟨absent, rfl⟩⟩
    have live' : h'.requests.get? k =
        some { r with stage := .queued h.broker.nextTicket .awaited } := by simp [joins.requests]
    constructor
    · exact List.nodup_append.2 ⟨orderly.nodup, by simp, by
        intro j mem i mem'
        rw [List.mem_singleton.1 mem']
        exact fun heq => absent (heq ▸ mem)⟩
    · intro j mem
      rcases List.mem_append.1 mem with hmem | hmem
      · exact Nat.lt_of_lt_of_le (orderly.known j hmem) next
      · exact List.mem_singleton.1 hmem ▸ known
    · intro j mem s live
      rcases List.mem_append.1 mem with hmem | hmem
      · exact orderly.queued j hmem s (same j hmem ▸ live)
      · rw [List.mem_singleton.1 hmem, live', Option.some.injEq] at live
        exact live ▸ ⟨target.symm, _, _, rfl, by simp⟩
    · rw [joins.line, if_pos target, List.map_append]
      exact orderly.line.append (.refl _)
    · rw [List.pairwise_append]
      refine ⟨kept, by simp, fun earlier _ later mem _ => ?_⟩
      rw [List.mem_singleton.1 mem, isSent_of_get? live']
      simp [isSentTo, Request.isSent]
  · refine ⟨came, ⟨orderly.nodup, ?_, ?_, ?_, kept⟩, .inl rfl⟩
    · exact fun j mem => Nat.lt_of_lt_of_le (orderly.known j mem) next
    · exact fun j mem s live => orderly.queued j mem s (same j mem ▸ live)
    · rw [joins.line, if_neg target]
      exact orderly.line

theorem Move.orderly (move : h.Move actor transfers h') (coherent : h.Coherent)
    (ticketed : h.Ticketed) (spared : actor ≠ none ∨ h'.broker.isBusy? x ≠ none)
    (orderly : h.Orderly x came) :
    ∃ came', h'.Orderly x came' ∧
      (came' = came ∨ ∃ k, actor = some k ∧ k ∉ came ∧ came' = came ++ [k]) := by
  rcases move.keeps_or_joins with ⟨_, _, shorter⟩ | ⟨k, r, acts, joins⟩
  · exact ⟨came, move.orderly_of_shorter coherent ticketed spared (shorter x) orderly, .inl rfl⟩
  · have known := coherent.numbered k r joins.live
    obtain ⟨came', orderly', ended⟩ := joins.orderly
      (Nat.lt_of_lt_of_le known move.nextRequest_le) move.nextRequest_le orderly
    refine ⟨came', orderly', ended.imp_right fun last => ⟨k, acts, last⟩⟩

/-- In the moves of a request, it joins the line once at most. -/
theorem Moves.orderly (moves : Moves (some k) h transfers h') (coherent : h.Coherent)
    (ticketed : h.Ticketed) (bound : h'.ticketsIssued < 2 ^ 64) (orderly : h.Orderly x came) :
    ∃ came', h'.Orderly x came' ∧ (came' = came ∨ k ∉ came ∧ came' = came ++ [k]) := by
  generalize acts : some k = actor at moves
  induction moves generalizing came with
  | done => exact ⟨came, orderly, .inl rfl⟩
  | next move moves ih =>
    subst acts
    have bound' := Nat.lt_of_le_of_lt moves.issued_le bound
    obtain ⟨came₁, orderly₁, ended₁⟩ := move.orderly coherent ticketed (.inl (by simp)) orderly
    obtain ⟨came₂, orderly₂, ended₂⟩ :=
      ih (move.coherent coherent) (move.ticketed coherent bound' ticketed) bound orderly₁
    refine ⟨came₂, orderly₂, ?_⟩
    rcases ended₁ with rfl | ⟨j, hj, absent, rfl⟩
    · exact ended₂
    · rw [Option.some.injEq] at hj
      subst hj
      rcases ended₂ with rfl | ⟨absent', _⟩
      · exact .inr ⟨absent, rfl⟩
      · exact absurd (by simp) absent'

end Hall

end Custody
