import Custody.Proofs.Shared.Turns
import Custody.Proofs.Shelf.Queues
import Custody.Proofs.Shelf.RankedQueues
import Mathlib.Data.List.Flatten

/-!
# Producers on one queue

Clients that push into one queue through handles of their own, in any order of their calls.

* `serve_eq`: a container answers the calls of all clients as its list does;
* `Queue.pulled_append`: what a queue gave and what it still has is what came in;
* `countP_refused`: how many pushes find no room does not depend on who comes when;
* `RankedQueue.ownPart_served`: each client's entries are served in the order that they would
  have alone;
* `Shared.any_interleaving`: all of this through handles, for both kinds of queues.
-/

namespace Custody

section Arrivals

variable {k : Kind}

/-- The turns of one client. -/
def turnsOf {κ ρ : Type} (i : Nat) (turns : List (Turn κ ρ)) : List (Turn κ ρ) :=
  turns.filter (·.handle == i)

/-- What came in, in order of acceptance, and through which handle. -/
def arrivals (k : Kind) (turns : List (Turn k.Call k.Reply)) : List (Nat × k.Entry) :=
  turns.flatMap fun turn => (k.entered turn.call turn.reply).map (turn.handle, ·)

theorem arrivals_cons (turn : Turn k.Call k.Reply) (turns : List (Turn k.Call k.Reply)) :
    arrivals k (turn :: turns) =
      (k.entered turn.call turn.reply).map (turn.handle, ·) ++ arrivals k turns :=
  rfl

/-- What came in through one handle came with the turns of that client. -/
theorem ownPart_arrivals (i : Nat) (turns : List (Turn k.Call k.Reply)) :
    ownPart i (arrivals k turns) =
      (turnsOf i turns).flatMap fun turn => k.entered turn.call turn.reply := by
  induction turns with
  | nil => rfl
  | cons turn turns ih =>
    have first : ownPart i ((k.entered turn.call turn.reply).map (turn.handle, ·)) =
        if turn.handle == i then k.entered turn.call turn.reply else [] := by
      by_cases same : turn.handle = i
      · simp [ownPart, List.filter_map, Function.comp_def, same]
      · simp [ownPart, same]
    have rest : ownPart i (arrivals k (turn :: turns)) =
        ownPart i ((k.entered turn.call turn.reply).map (turn.handle, ·)) ++
          ownPart i (arrivals k turns) := by
      simp only [ownPart, arrivals_cons, List.filter_append, List.map_append]
    rw [rest, first, ih]
    by_cases same : turn.handle = i
    · simp [turnsOf, same]
    · simp [turnsOf, same]

variable {γ κ ρ : Type} (answer : γ → κ → ρ × γ)

/-- Every turn has the handle and the call that were to come. -/
theorem map_turns (container : γ) (schedule : List (Nat × κ)) :
    (serve answer container schedule).1.map (fun turn => (turn.handle, turn.call)) = schedule := by
  induction schedule generalizing container with
  | nil => rfl
  | cons event rest ih => exact congrArg (event :: ·) (ih (answer container event.2).2)

/-- A turn is the answer of what the turns before it left. -/
theorem serve_split {container : γ} {schedule : List (Nat × κ)} {before later : List (Turn κ ρ)}
    {turn : Turn κ ρ} (split : (serve answer container schedule).1 = before ++ turn :: later) :
    ∃ first rest, schedule = first ++ (turn.handle, turn.call) :: rest ∧
      (serve answer container first).1 = before ∧
      turn.reply = (answer (serve answer container first).2 turn.call).1 := by
  induction before generalizing container schedule with
  | nil =>
    cases schedule with
    | nil => cases split
    | cons event rest =>
      obtain ⟨rfl, _⟩ := List.cons.inj split
      exact ⟨[], rest, rfl, rfl, rfl⟩
  | cons told before ih =>
    cases schedule with
    | nil => cases split
    | cons event schedule =>
      obtain ⟨rfl, onward⟩ := List.cons.inj split
      obtain ⟨first, rest, rfl, served, reply⟩ := ih onward
      exact ⟨event :: first, rest, rfl, congrArg _ served, reply⟩

/-- The calls of a client are answered one by one. -/
theorem calls_turnsOf (container : γ) (schedule : List (Nat × κ)) (i : Nat) :
    (turnsOf i (serve answer container schedule).1).map Turn.call = ownPart i schedule := by
  rw [ownPart]
  nth_rewrite 2 [← map_turns answer container schedule]
  rw [List.filter_map, List.map_map]
  rfl

/-- A container answers the calls of all clients as its list does. -/
theorem serve_eq {rule : k.Rule} (law : k.Lawful) (obeys : k.Obeys rule)
    (may : ∀ container call, k.may container call) {container : k.Container}
    (sound : (k.ring container).Sound) (schedule : List (Nat × k.Call)) :
    ∃ turns after, serve k.answer container schedule = (turns, after) ∧
      serve (rule (k.plan container)) (k.entries container) schedule =
        (turns, k.entries after) ∧
      (k.ring after).Sound ∧ k.plan after = k.plan container := by
  induction schedule generalizing container with
  | nil => exact ⟨[], container, rfl, rfl, sound, rfl⟩
  | cons event rest ih =>
    obtain ⟨handle, call⟩ := event
    have told := obeys container call sound (may container call)
    have answered := law.answered container call sound (may container call)
    obtain ⟨turns, after, served, listed, sound', plan⟩ := ih answered.sound
    rw [answered.plan] at listed
    refine ⟨⟨handle, call, (k.answer container call).1⟩ :: turns, after, ?_, ?_, sound',
      plan.trans answered.plan⟩
    · simp only [serve, served]
    · simp only [serve, told, listed]

/-- What comes in first is what the first call brings. -/
theorem map_arrivals_serve (rule : List k.Entry → k.Call → k.Reply × List k.Entry)
    (entries : List k.Entry) (event : Nat × k.Call) (rest : List (Nat × k.Call)) :
    (arrivals k (serve rule entries (event :: rest)).1).map Prod.snd =
      k.entered event.2 (rule entries event.2).1 ++
        (arrivals k (serve rule (rule entries event.2).2 rest).1).map Prod.snd := by
  simp [serve, arrivals_cons, Function.comp_def]

/-- Clients whose handles lead to a container are answered as if its list was theirs. -/
theorem Shared.run?_eq {rule : k.Rule} (law : k.Lawful) (obeys : k.Obeys rule)
    (may : ∀ container call, k.may container call) {s : Shared Nat k.Container} {n : Nat}
    {container : k.Container} (leads : s.Leads n container) (sound : (k.ring container).Sound)
    {schedule : List (Nat × k.Call)} (inside : ∀ event ∈ schedule, event.1 < n) :
    ∃ turns after s', s.run? k.answer schedule = some (turns, s') ∧ s'.Leads n after ∧
      serve (rule (k.plan container)) (k.entries container) schedule =
        (turns, k.entries after) ∧
      (k.ring after).Sound ∧ k.plan after = k.plan container ∧
      ∀ i, (turnsOf i turns).map Turn.call = ownPart i schedule := by
  obtain ⟨s', run, leads'⟩ := Shared.run?_of_leads k.answer leads inside
  obtain ⟨turns, after, served, listed, sound', plan⟩ := serve_eq law obeys may sound schedule
  have calls := calls_turnsOf k.answer container schedule
  rw [served] at run leads' calls
  exact ⟨turns, after, s', run, leads', listed, sound', plan, calls⟩

/-- Clients of a new container are answered as if its list was theirs, in any order. -/
theorem Shared.run?_among {rule : k.Rule} (law : k.Lawful) (obeys : k.Obeys rule)
    (may : ∀ container call, k.may container call) (plan : k.Plan)
    {programs : List (List k.Call)} {schedule : List (Nat × k.Call)}
    (order : Interleaving programs schedule) :
    ∃ turns after s,
      (Shared.among programs.length (k.make plan)).run? k.answer schedule = some (turns, s) ∧
      s.Leads programs.length after ∧
      serve (rule plan) [] schedule = (turns, k.entries after) ∧
      (k.ring after).Sound ∧ k.plan after = plan ∧
      ∀ i, (turnsOf i turns).map Turn.call = programs[i]?.getD [] := by
  obtain ⟨turns, after, s, run, leads, listed, sound, same, calls⟩ := Shared.run?_eq law obeys may
    (Shared.leads_among programs.length (k.make plan)) (law.sound_make plan)
    fun event mem => order.client_lt mem
  rw [law.plan_make] at listed same
  rw [law.entries_make] at listed
  refine ⟨turns, after, s, run, leads, listed, sound, same, ?_⟩
  intro i
  rw [calls, order.ownPart_eq]

end Arrivals

/-! ### Pushes that find no room -/

section Refusals

variable {k : Kind} {rule : List k.Entry → k.Call → k.Reply × List k.Entry} {capacity : Nat}
  {refused : k.Reply → Bool} {offered : k.Call → List k.Entry}

/-- The call brings what it offers if there is room, and is refused if there is none. -/
structure Offers (k : Kind) (rule : List k.Entry → k.Call → k.Reply × List k.Entry)
    (capacity : Nat) (refused : k.Reply → Bool) (offered : k.Call → List k.Entry)
    (call : k.Call) : Prop where
  room (entries : List k.Entry) : entries.length < capacity →
    refused (rule entries call).1 = false ∧ k.entered call (rule entries call).1 = offered call ∧
      (rule entries call).2.length = entries.length + 1
  full (entries : List k.Entry) : ¬ entries.length < capacity →
    refused (rule entries call).1 = true ∧ (rule entries call).2 = entries

/-- However the pushes come, those for which there is no room are refused. -/
theorem countP_refused (entries : List k.Entry) {schedule : List (Nat × k.Call)}
    (offers : ∀ event ∈ schedule, Offers k rule capacity refused offered event.2) :
    (serve rule entries schedule).1.countP (fun turn => refused turn.reply) =
      schedule.length - (capacity - entries.length) := by
  induction schedule generalizing entries with
  | nil => simp [serve]
  | cons event rest ih =>
    have first := offers event List.mem_cons_self
    have later := ih (rule entries event.2).2 fun other mem =>
      offers other (List.mem_cons_of_mem _ mem)
    simp only [serve, List.countP_cons, later, List.length_cons]
    by_cases room : entries.length < capacity
    · obtain ⟨taken, _, longer⟩ := first.room entries room
      simp only [taken, longer, Bool.false_eq_true, if_false]
      omega
    · obtain ⟨back, same⟩ := first.full entries room
      simp only [back, same, if_true]
      omega

/-- If none is refused, all that a client offers comes in. -/
theorem ownPart_arrivals_of_countP (entries : List k.Entry) {schedule : List (Nat × k.Call)}
    (offers : ∀ event ∈ schedule, Offers k rule capacity refused offered event.2)
    (none : (serve rule entries schedule).1.countP (fun turn => refused turn.reply) = 0)
    (i : Nat) :
    ownPart i (arrivals k (serve rule entries schedule).1) =
      (ownPart i schedule).flatMap offered := by
  induction schedule generalizing entries with
  | nil => rfl
  | cons event rest ih =>
    have first := offers event List.mem_cons_self
    simp only [serve, List.countP_cons, Nat.add_eq_zero_iff] at none
    have later := ih (rule entries event.2).2 (fun other mem =>
      offers other (List.mem_cons_of_mem _ mem)) none.1
    have brings : k.entered event.2 (rule entries event.2).1 = offered event.2 := by
      by_cases room : entries.length < capacity
      · exact (first.room entries room).2.1
      · simp [(first.full entries room).1] at none
    rw [ownPart_arrivals] at later ⊢
    simp only [serve, turnsOf, ownPart, List.filter_cons] at later ⊢
    split
    · simp only [List.flatMap_cons, List.map_cons, brings, later]
    · exact later

end Refusals

/-! ### Queues -/

namespace Queue

variable {α σ : Type}

/-- What a push offers. -/
def Call.offered : Call α σ → List α
  | .push value => [value]
  | _ => []

def Call.isPush : Call α σ → Bool
  | .push _ => true
  | _ => false

def Call.isPull : Call α σ → Bool
  | .pull => true
  | _ => false

def Reply.isHandedBack : Reply α σ → Bool
  | .handedBack _ => true
  | _ => false

def Reply.taken? : Reply α σ → Option α
  | .taken value? => value?
  | _ => none

/-- What was pulled, in order. -/
def pulled (turns : List (Turn (Call α σ) (Reply α σ))) : List α :=
  turns.filterMap (·.reply.taken?)

theorem entered_sublist (call : Call α σ) (reply : Reply α σ) :
    (call.entered reply).Sublist call.offered := by
  unfold Call.entered
  split
  · exact List.Sublist.refl _
  · exact List.nil_sublist _

variable [BEq α]

theorem offers_push (capacity : Nat) {call : Call α σ} (push : call.isPush = true) :
    Offers (kind α σ) (onList capacity) capacity Reply.isHandedBack Call.offered call := by
  cases call with
  | push value =>
    constructor
    · intro values room
      simp [onList, if_pos room, Reply.isHandedBack, Call.entered, Call.offered]
    · intro values full
      simp [onList, if_neg full, Reply.isHandedBack]
  | _ => cases push

/-- What one push or pull gives and leaves is what there was and what it brings. -/
theorem taken_append (capacity : Nat) (values : List α) {call : Call α σ}
    (plain : call.isPush = true ∨ call.isPull = true) :
    (onList capacity values call).1.taken?.toList ++ (onList capacity values call).2 =
      values ++ call.entered (onList capacity values call).1 := by
  cases call with
  | push value =>
    simp only [onList]
    split
    · rfl
    · exact (List.append_nil values).symm
  | pull => cases values <;> simp [onList, Reply.taken?, Call.entered]
  | _ => simp [Call.isPush, Call.isPull] at plain

/-- What was pulled and what is left is what there was and what came in. -/
theorem pulled_append (capacity : Nat) (values : List α) {schedule : List (Nat × Call α σ)}
    (plain : ∀ event ∈ schedule, event.2.isPush = true ∨ event.2.isPull = true) :
    pulled (serve (onList capacity) values schedule).1 ++
        (serve (onList capacity) values schedule).2 =
      values ++
        (arrivals (kind α σ) (serve (onList capacity) values schedule).1).map Prod.snd := by
  induction schedule generalizing values with
  | nil => simp [serve, pulled, arrivals]
  | cons event rest ih =>
    have once := taken_append capacity values (plain event List.mem_cons_self)
    have later := ih (onList capacity values event.2).2 fun other mem =>
      plain other (List.mem_cons_of_mem _ mem)
    have first (reply : Reply α σ) (turns : List (Turn (Call α σ) (Reply α σ))) :
        pulled (⟨event.1, event.2, reply⟩ :: turns) = reply.taken?.toList ++ pulled turns := by
      cases taken : reply.taken? <;> simp [pulled, taken]
    rw [map_arrivals_serve, ← List.append_assoc, ← once, List.append_assoc, ← later]
    simp only [serve, first, List.append_assoc]

/-- A pull takes the first of what came in and was not pulled, if there is anything. -/
theorem pull_reply (capacity : Nat) {schedule : List (Nat × Call α σ)}
    (plain : ∀ event ∈ schedule, event.2.isPush = true ∨ event.2.isPull = true)
    {before later : List (Turn (Call α σ) (Reply α σ))} {turn : Turn (Call α σ) (Reply α σ)}
    (split : (serve (onList capacity) [] schedule).1 = before ++ turn :: later)
    (pull : turn.call = .pull) :
    turn.reply = .taken ((arrivals (kind α σ) before).map Prod.snd)[(pulled before).length]? := by
  obtain ⟨first, rest, rfl, served, reply⟩ := serve_split (onList capacity) split
  have balance := pulled_append capacity [] fun event mem =>
    plain event (List.mem_append_left _ mem)
  rw [served, List.nil_append] at balance
  rw [reply, pull, ← balance, List.getElem?_append_right (Nat.le_refl _), Nat.sub_self,
    ← List.head?_eq_getElem?]
  rfl

end Queue

/-! ### Ranked queues -/

namespace RankedQueue

variable {α σ : Type}

/-- What is served of all that has come, and from which client it came. -/
def served (order : ServingOrder) (arrivals : List (Nat × Priority × α)) :
    List (Nat × Priority × α) :=
  (inOrder order (arrivals.map fun (i, p, value) => (p, i, value))).map
    fun (p, i, value) => (i, p, value)

/-- Of which client an entry is does not matter for its rank. -/
theorem forget_inOrder (order : ServingOrder) (arrivals : List (Priority × Nat × α)) :
    (inOrder order arrivals).map (fun (p, _, value) => (p, value)) =
      inOrder order (arrivals.map fun (p, _, value) => (p, value)) :=
  inOrder_map order arrivals fun _ => rfl

theorem map_served (order : ServingOrder) (arrivals : List (Nat × Priority × α)) :
    (served order arrivals).map Prod.snd = inOrder order (arrivals.map Prod.snd) := by
  have forgotten := forget_inOrder order (arrivals.map fun (i, p, value) => (p, i, value))
  rw [List.map_map] at forgotten
  rw [served, List.map_map]
  exact forgotten

/-- The entries of a client are served in the order that they would have alone. -/
theorem ownPart_served (order : ServingOrder) (arrivals : List (Nat × Priority × α)) (i : Nat) :
    ownPart i (served order arrivals) = inOrder order (ownPart i arrivals) := by
  have own : ownPart i (served order arrivals) =
      ((inOrder order (arrivals.map fun (i, p, value) => (p, i, value))).filter
        (·.2.1 == i)).map fun (p, _, value) => (p, value) := by
    rw [ownPart, served, List.filter_map, List.map_map]
    rfl
  rw [own, inOrder_filter, forget_inOrder, List.filter_map, List.map_map]
  rfl

/-- What a push offers. -/
def Call.offered : Call α σ → List (Priority × α)
  | .push priority value => [(priority, value)]
  | _ => []

def Call.isPush : Call α σ → Bool
  | .push _ _ => true
  | _ => false

def Reply.isHandedBack : Reply α σ → Bool
  | .handedBack _ => true
  | _ => false

variable [BEq α]

theorem offers_push (plan : Nat × ServingOrder) {call : Call α σ} (push : call.isPush = true) :
    Offers (kind α σ) (onList plan) plan.1 Reply.isHandedBack Call.offered call := by
  cases call with
  | push priority value =>
    constructor
    · intro entries room
      have longer := (ranked_perm plan.2 (priority, value) entries).length_eq
      simp [onList, if_pos room, Reply.isHandedBack, Call.entered, Call.offered, longer]
    · intro entries full
      simp [onList, if_neg full, Reply.isHandedBack]
  | _ => cases push

/-- After pushes only, the entries are in the order of the stable sort. -/
theorem serve_inOrder (plan : Nat × ServingOrder) (before : List (Priority × α))
    {schedule : List (Nat × Call α σ)} (pushes : ∀ event ∈ schedule, event.2.isPush = true) :
    (serve (onList plan) (inOrder plan.2 before) schedule).2 =
      inOrder plan.2 (before ++ (arrivals (kind α σ)
        (serve (onList plan) (inOrder plan.2 before) schedule).1).map Prod.snd) := by
  induction schedule generalizing before with
  | nil => simp [serve, arrivals]
  | cons event rest ih =>
    have once : (onList plan (inOrder plan.2 before) event.2).2 = inOrder plan.2
        (before ++ event.2.entered (onList plan (inOrder plan.2 before) event.2).1) := by
      have push := pushes event List.mem_cons_self
      cases call : event.2 with
      | push priority value =>
        simp only [onList]
        split
        · exact (inOrder_concat plan.2 before (priority, value)).symm
        · exact congrArg (inOrder plan.2) (List.append_nil before).symm
      | _ => simp [call, Call.isPush] at push
    have later := ih (before ++ event.2.entered (onList plan (inOrder plan.2 before) event.2).1)
      fun other mem => pushes other (List.mem_cons_of_mem _ mem)
    rw [← once, List.append_assoc] at later
    rw [map_arrivals_serve]
    exact later

/-- As many pulls as there are entries take them all, in order. -/
theorem serve_pullEntry (plan : Nat × ServingOrder) (entries : List (Priority × α))
    {readers : List Nat} (count : readers.length = entries.length) :
    (serve (onList (σ := σ) plan) entries (readers.map (·, .pullEntry))).1.map Turn.reply =
      entries.map (.takenEntry ∘ some) ∧
    (serve (onList (σ := σ) plan) entries (readers.map (·, .pullEntry))).2 = [] := by
  induction readers generalizing entries with
  | nil =>
    obtain rfl := List.eq_nil_of_length_eq_zero count.symm
    exact ⟨rfl, rfl⟩
  | cons reader readers ih =>
    cases entries with
    | nil => cases count
    | cons entry entries =>
      obtain ⟨replies, nothing⟩ := ih entries (Nat.succ.inj count)
      exact ⟨congrArg (List.cons (Reply.takenEntry (some entry))) replies, nothing⟩

end RankedQueue

/-! ### Through handles -/

section Handles

variable {α σ : Type} [BEq α]

/-- What clients that push and pull have got from a queue of that capacity, and what it still
has. -/
structure Queue.Conserved (programs : List (List (Queue.Call α σ))) (capacity : Nat)
    (turns : List (Turn (Queue.Call α σ) (Queue.Reply α σ))) (q : Queue α) : Prop where
  calls (i : Nat) : (turnsOf i turns).map Turn.call = programs[i]?.getD []
  /-- What was pulled and is left is what was accepted, in order of acceptance. -/
  conserved : pulled turns ++ q.toList = (arrivals (kind α σ) turns).map Prod.snd
  /-- A pull takes what was accepted first of all that is not yet pulled, and nothing only if
  there is nothing. -/
  pulls (before : List (Turn (Queue.Call α σ) (Queue.Reply α σ)))
    (turn : Turn (Queue.Call α σ) (Queue.Reply α σ))
    (later : List (Turn (Queue.Call α σ) (Queue.Reply α σ))) :
    turns = before ++ turn :: later → turn.call = .pull →
      turn.reply = .taken ((arrivals (kind α σ) before).map Prod.snd)[(pulled before).length]?
  /-- What was accepted of a client is in that client's order. -/
  own (i : Nat) : (ownPart i (arrivals (kind α σ) turns)).Sublist
    ((programs[i]?.getD []).flatMap Call.offered)
  refused : (∀ program ∈ programs, ∀ call ∈ program, call.isPush = true) →
    turns.countP (fun turn => turn.reply.isHandedBack) = programs.flatten.length - capacity

/-- What clients that push have brought into a ranked queue, and what others then pull. -/
structure RankedQueue.Merged (programs : List (List (RankedQueue.Call α σ))) (capacity : Nat)
    (order : ServingOrder) (turns : List (Turn (RankedQueue.Call α σ) (RankedQueue.Reply α σ)))
    (s : Shared Nat (RankedQueue α)) : Prop where
  calls (i : Nat) : (turnsOf i turns).map Turn.call = programs[i]?.getD []
  refused : turns.countP (fun turn => turn.reply.isHandedBack) =
    programs.flatten.length - capacity
  /-- As many pulls as were accepted, through any handles, take all there is. -/
  drained (readers : List Nat) : (∀ reader ∈ readers, reader < programs.length) →
    readers.length = (arrivals (kind α σ) turns).length →
    ∃ turns' s' rest,
      s.run? (answer (σ := σ)) (readers.map (·, .pullEntry)) = some (turns', s') ∧
      turns'.map Turn.reply = (served order (arrivals (kind α σ) turns)).map
        (fun entry => .takenEntry (some entry.2)) ∧
      s'.Leads programs.length rest ∧ rest.entries = []
  /-- If all was accepted, what comes from a client is in its stable order. -/
  own : turns.countP (fun turn => turn.reply.isHandedBack) = 0 → ∀ i,
    ownPart i (served order (arrivals (kind α σ) turns)) =
      inOrder order ((programs[i]?.getD []).flatMap Call.offered)

/-- The calls of all clients of a queue are answered, and nothing is lost or doubled. -/
theorem Queue.run?_conserved {programs : List (List (Queue.Call α σ))}
    {schedule : List (Nat × Queue.Call α σ)} (order : Interleaving programs schedule)
    (plain : ∀ program ∈ programs, ∀ call ∈ program, call.isPush = true ∨ call.isPull = true)
    (capacity : Nat) :
    ∃ turns q s, (Shared.among programs.length (Queue.empty capacity)).run? answer schedule =
        some (turns, s) ∧
      s.Leads programs.length q ∧ Queue.Conserved programs capacity turns q := by
  obtain ⟨turns, q, s, run, leads, listed, -, -, calls⟩ :=
    Shared.run?_among (k := kind α σ) lawful obeys (fun _ _ => trivial) capacity order
  refine ⟨turns, q, s, run, leads, calls, ?_, ?_, ?_, ?_⟩
  · have balance := pulled_append capacity [] (order.forall_calls plain)
    rwa [listed, List.nil_append] at balance
  · intro before turn later split
    exact pull_reply capacity (order.forall_calls plain) (by rw [listed, split])
  · intro i
    rw [ownPart_arrivals, ← calls i, List.flatMap_map]
    exact List.Sublist.flatMap_right _ fun turn _ => entered_sublist turn.call turn.reply
  · intro pushes
    have refused := countP_refused []
      fun event mem => offers_push capacity (order.forall_calls pushes event mem)
    rwa [listed, order.length_eq] at refused

/-- The pushes of all clients of a ranked queue are answered, and what is accepted is served in
order of priority, and of acceptance where priorities are equal. -/
theorem RankedQueue.run?_merged {programs : List (List (RankedQueue.Call α σ))}
    {schedule : List (Nat × RankedQueue.Call α σ)} (order : Interleaving programs schedule)
    (pushes : ∀ program ∈ programs, ∀ call ∈ program, call.isPush = true)
    (plan : Nat × ServingOrder) :
    ∃ turns q s, (Shared.among programs.length (RankedQueue.empty plan.1 plan.2)).run? answer
        schedule = some (turns, s) ∧
      s.Leads programs.length q ∧ RankedQueue.Merged programs plan.1 plan.2 turns s := by
  obtain ⟨turns, q, s, run, leads, listed, sound, same, calls⟩ :=
    Shared.run?_among (k := kind α σ) lawful obeys (fun _ _ => trivial) plan order
  have offers : ∀ event ∈ schedule, Offers (kind α σ) (onList plan) plan.1
      Reply.isHandedBack Call.offered event.2 :=
    fun event mem => offers_push plan (order.forall_calls pushes event mem)
  refine ⟨turns, q, s, run, leads, calls, ?_, ?_, ?_⟩
  · have refused := countP_refused (k := kind α σ) [] offers
    rwa [listed, order.length_eq] at refused
  · intro readers inside count
    have entries : q.entries =
        (served plan.2 (arrivals (kind α σ) turns)).map Prod.snd := by
      have start : inOrder plan.2 ([] : List (Priority × α)) = [] := List.mergeSort_nil
      have sorted := serve_inOrder plan [] (order.forall_calls pushes)
      rwa [start, listed, List.nil_append, ← map_served] at sorted
    have count' : readers.length = q.entries.length := by
      rw [count, entries, map_served, (inOrder_perm _ _).length_eq, List.length_map]
    have inside' : ∀ event ∈ readers.map (·, Call.pullEntry (α := α) (σ := σ)),
        event.1 < programs.length := by simpa using inside
    obtain ⟨turns', rest, s', run', leads', listed', -⟩ := Shared.run?_eq (k := kind α σ)
      lawful obeys (fun _ _ => trivial) leads sound inside'
    obtain ⟨replies, nothing⟩ := serve_pullEntry (σ := σ) plan q.entries count'
    rw [same] at listed'
    rw [listed'] at replies nothing
    refine ⟨turns', s', rest, run', ?_, leads', nothing⟩
    rw [replies, entries, List.map_map]
    rfl
  · intro none i
    have all := ownPart_arrivals_of_countP (k := kind α σ) [] offers (by rwa [listed]) i
    rw [listed, order.ownPart_eq] at all
    rw [ownPart_served, all]

end Handles

namespace Shared

variable {α σ : Type} [BEq α]

/-- Handles of one queue, whatever the order of the calls made through them. What pulls took and
what is left of a queue is what was accepted, each client's part in that client's order, and a
pull takes nothing only if there is nothing; of pushes into an empty queue just those are refused
that its capacity does not suffice for; and a ranked queue that has refused none serves each
client's entries in the stable order that they would have alone. -/
theorem any_interleaving {programs : List (List (Queue.Call α σ))}
    {schedule : List (Nat × Queue.Call α σ)} (order : Interleaving programs schedule)
    (plain : ∀ program ∈ programs, ∀ call ∈ program, call.isPush = true ∨ call.isPull = true)
    {ranked : List (List (RankedQueue.Call α σ))} {turns : List (Nat × RankedQueue.Call α σ)}
    (order' : Interleaving ranked turns)
    (pushes : ∀ program ∈ ranked, ∀ call ∈ program, call.isPush = true)
    (capacity capacity' : Nat) (serving : ServingOrder) :
    (∃ turns q s, (among programs.length (Queue.empty capacity)).run? Queue.answer schedule =
        some (turns, s) ∧
      s.Leads programs.length q ∧ Queue.Conserved programs capacity turns q) ∧
    ∃ turns' q s,
      (among ranked.length (RankedQueue.empty capacity' serving)).run? RankedQueue.answer turns =
        some (turns', s) ∧
      s.Leads ranked.length q ∧ RankedQueue.Merged ranked capacity' serving turns' s :=
  ⟨Queue.run?_conserved order plain capacity,
    RankedQueue.run?_merged order' pushes (capacity', serving)⟩

/-- Two clients push and pull on a queue of two. The third push finds it full. -/
def contested : List (Nat × Queue.Call Nat Unit) :=
  [(0, .push 1), (1, .push 3), (0, .push 2), (1, .pull), (0, .pull)]

/-- Two clients push entries of one priority in turn, and one of them one of a higher one. -/
def tied : List (Nat × RankedQueue.Call Nat Unit) :=
  [(1, .push 1 20), (0, .push 1 10), (0, .push 5 11), (1, .push 1 21), (0, .push 1 12)]

theorem any_interleaving_contested_tied :
    (∃ turns q s, (among 2 (Queue.empty 2)).run? Queue.answer contested = some (turns, s) ∧
      s.get? 1 = some q ∧ Queue.pulled turns ++ q.toList = [1, 3]) ∧
    ∃ turns s,
      (among 2 (RankedQueue.empty 5 .descending)).run? RankedQueue.answer tied = some (turns, s) ∧
      turns.countP (fun turn => turn.reply.isHandedBack) = 0 ∧
      ownPart 0 (RankedQueue.served .descending (arrivals (RankedQueue.kind Nat Unit) turns)) =
        [(5, 11), (1, 10), (1, 12)] ∧
      ownPart 1 (RankedQueue.served .descending (arrivals (RankedQueue.kind Nat Unit) turns)) =
        [(1, 20), (1, 21)] := by
  have order : Interleaving [[.push 1, .push 2, .pull], [.push 3, .pull]] contested :=
    .turn rfl (.turn rfl (.turn rfl (.turn rfl (.turn rfl (.done (by simp))))))
  have order' : Interleaving [[.push 1 10, .push 5 11, .push 1 12], [.push 1 20, .push 1 21]]
      tied :=
    .turn rfl (.turn rfl (.turn rfl (.turn rfl (.turn rfl (.done (by simp))))))
  obtain ⟨⟨turns, q, s, run, leads, conserved⟩, turns', _, s', run', _, merged⟩ :=
    any_interleaving order (by simp [Queue.Call.isPush, Queue.Call.isPull]) order'
      (by simp [RankedQueue.Call.isPush]) 2 5 .descending
  constructor
  · have accepted : ((among 2 (Queue.empty 2)).run? Queue.answer contested).map
        (fun told => (arrivals (Queue.kind Nat Unit) told.1).map Prod.snd) = some [1, 3] := rfl
    have told := (congrArg _ run).symm.trans accepted
    exact ⟨turns, q, s, run, leads.get? 1 (by decide),
      conserved.conserved.trans (Option.some.inj told)⟩
  · have alone (entries : List (Priority × Nat)) : RankedQueue.inOrder .descending entries =
        entries.foldl (fun entries entry => RankedQueue.ranked .descending entry entries) [] :=
      (RankedQueue.inOrder_append .descending [] entries).trans (by simp [RankedQueue.inOrder])
    have own := merged.own merged.refused
    refine ⟨turns', s', run', merged.refused, ?_, ?_⟩
    · rw [own 0, alone]
      rfl
    · rw [own 1, alone]
      rfl

end Shared

end Custody
