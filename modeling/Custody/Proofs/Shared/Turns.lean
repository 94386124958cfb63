import Custody.Shared
import Mathlib.Data.List.Basic

/-!
# Handles that take turns

Clients with a handle each work through lists of calls of their own. A call holds the container
from its beginning to its end, so what happens is one order of all their calls.

* `Interleaving`: the orders in which the calls of all clients can come;
* `Shared.run?`: the calls made in one of them, through the handles;
* `Shared.run?_of_leads`: handles on one container answer as the container alone does.
-/

namespace Custody

/-! ### Orders of the calls of several clients -/

/-- An order of the calls of several clients. Each client makes its own in its own order. -/
inductive Interleaving {κ : Type} : List (List κ) → List (Nat × κ) → Prop
  | done {programs : List (List κ)} (finished : ∀ program ∈ programs, program = []) :
      Interleaving programs []
  | turn {programs : List (List κ)} {i : Nat} {call : κ} {rest : List κ}
      {schedule : List (Nat × κ)} (next : programs[i]? = some (call :: rest))
      (later : Interleaving (programs.set i rest) schedule) :
      Interleaving programs ((i, call) :: schedule)

/-- What one of the clients did. -/
def ownPart {β : Type} (i : Nat) (events : List (Nat × β)) : List β :=
  (events.filter fun event => event.1 == i).map Prod.snd

namespace Interleaving

variable {κ : Type} {programs : List (List κ)} {schedule : List (Nat × κ)}

/-- What a client calls is its own list. -/
theorem ownPart_eq (h : Interleaving programs schedule) (i : Nat) :
    ownPart i schedule = programs[i]?.getD [] := by
  induction h with
  | @done programs finished =>
    cases here : programs[i]? with
    | none => rfl
    | some program => exact (finished program (List.mem_of_getElem? here)).symm
  | @turn programs j call rest schedule next later ih =>
    obtain ⟨inside, _⟩ := List.getElem?_eq_some_iff.1 next
    by_cases same : j = i
    · subst same
      rw [List.getElem?_set_self inside] at ih
      simpa [ownPart, next] using ih
    · rw [List.getElem?_set_ne same] at ih
      simpa [ownPart, same] using ih

theorem mem_program (h : Interleaving programs schedule) {i : Nat} {call : κ}
    (mem : (i, call) ∈ schedule) : ∃ program, programs[i]? = some program ∧ call ∈ program := by
  have own : call ∈ ownPart i schedule :=
    List.mem_map.2 ⟨(i, call), List.mem_filter.2 ⟨mem, by simp⟩, rfl⟩
  rw [h.ownPart_eq] at own
  cases here : programs[i]? with
  | none => simp [here] at own
  | some program => exact ⟨program, rfl, by simpa [here] using own⟩

/-- What holds of the calls of all clients holds of all that is called. -/
theorem forall_calls (h : Interleaving programs schedule) {p : κ → Prop}
    (all : ∀ program ∈ programs, ∀ call ∈ program, p call) : ∀ event ∈ schedule, p event.2 := by
  intro event mem
  obtain ⟨program, here, call⟩ := h.mem_program mem
  exact all program (List.mem_of_getElem? here) event.2 call

theorem client_lt (h : Interleaving programs schedule) {turn : Nat × κ} (mem : turn ∈ schedule) :
    turn.1 < programs.length := by
  obtain ⟨program, here, _⟩ := h.mem_program mem
  exact (List.getElem?_eq_some_iff.1 here).1

/-- All calls are made, and each once. -/
theorem length_eq (h : Interleaving programs schedule) :
    schedule.length = programs.flatten.length := by
  induction h with
  | done finished =>
    rw [List.flatten_eq_nil_iff.2 finished]
    rfl
  | @turn programs i call rest schedule next later ih =>
    obtain ⟨inside, here⟩ := List.getElem?_eq_some_iff.1 next
    have whole : programs = programs.take i ++ (call :: rest) :: programs.drop (i + 1) := by
      rw [← here, ← List.drop_eq_getElem_cons inside, List.take_append_drop]
    have before := congrArg (List.length ∘ List.flatten) whole
    rw [List.length_cons, ih, List.set_eq_take_append_cons_drop, if_pos inside]
    simp only [Function.comp, List.flatten_append, List.flatten_cons, List.length_append,
      List.length_cons] at before ⊢
    omega

end Interleaving

/-! ### Calls through handles -/

/-- A call, the handle that it was made through and what it was answered. -/
structure Turn (κ ρ : Type) where
  handle : Nat
  call : κ
  reply : ρ

/-- The calls made on one container, one after the other. -/
def serve {γ κ ρ : Type} (answer : γ → κ → ρ × γ) (container : γ) :
    List (Nat × κ) → List (Turn κ ρ) × γ
  | [] => ([], container)
  | (handle, call) :: rest =>
    let (reply, container) := answer container call
    let (turns, container) := serve answer container rest
    (⟨handle, call, reply⟩ :: turns, container)

namespace Shared

variable {γ κ ρ : Type} {answer : γ → κ → ρ × γ} {s : Shared Nat γ} {n : Nat} {container : γ}

/-- One call through a handle that leads somewhere. -/
def call? (answer : γ → κ → ρ × γ) (s : Shared Nat γ) (handle : Nat) (call : κ) :
    Option (ρ × Shared Nat γ) :=
  match s.get? handle with
  | none => none
  | some container =>
    let (reply, container) := answer container call
    some (reply, s.set handle container)

/-- Calls through handles, one after the other. -/
def run? (answer : γ → κ → ρ × γ) (s : Shared Nat γ) :
    List (Nat × κ) → Option (List (Turn κ ρ) × Shared Nat γ)
  | [] => some ([], s)
  | (handle, call) :: rest =>
    match s.call? answer handle call with
    | none => none
    | some (reply, s) =>
      (run? answer s rest).map fun (turns, s) => (⟨handle, call, reply⟩ :: turns, s)

/-- One container, a handle on it, and as many more as make them `n`. -/
def among (n : Nat) (container : γ) : Shared Nat γ :=
  (List.range n).foldl (fun s handle => s.share handle 0) (empty.create 0 container)

/-- The first `n` handles lead to one container, which is this one. -/
structure Leads (s : Shared Nat γ) (n : Nat) (container : γ) : Prop where
  together : ∀ a < n, ∀ b < n, s.together a b
  get? : ∀ a < n, s.get? a = some container

theorem Leads.set (h : s.Leads n container) {a : Nat} (inside : a < n) (after : γ) :
    (s.set a after).Leads n after where
  together b hb c hc := by
    have same := h.together b hb c hc
    unfold Shared.together at same ⊢
    unfold Shared.set
    split
    · exact same
    · exact same
  get? b hb :=
    get?_set_of_together s after (h.together a inside b hb) (by rw [h.get? a inside]; rfl)

variable (answer) in
/-- Handles on one container answer as the container alone does, and still lead to it. -/
theorem run?_of_leads (h : s.Leads n container) {schedule : List (Nat × κ)}
    (inside : ∀ turn ∈ schedule, turn.1 < n) :
    ∃ s', s.run? answer schedule = some ((serve answer container schedule).1, s') ∧
      s'.Leads n (serve answer container schedule).2 := by
  induction schedule generalizing s container with
  | nil => exact ⟨s, rfl, h⟩
  | cons turn rest ih =>
    obtain ⟨handle, call⟩ := turn
    have lt : handle < n := inside _ List.mem_cons_self
    have once : s.call? answer handle call =
        some ((answer container call).1, s.set handle (answer container call).2) := by
      simp only [call?, h.get? handle lt]
    obtain ⟨s', run, leads⟩ := ih (h.set lt (answer container call).2)
      fun turn mem => inside turn (List.mem_cons_of_mem _ mem)
    refine ⟨s', ?_, leads⟩
    simp only [run?, once, run]
    rfl

/-- Handles that are made one from another lead to one container. -/
theorem leads_among (n : Nat) (container : γ) : (among n container).Leads n container := by
  have handles : ∀ n, (among n container).containers = [container] ∧
      (among n container).handles.get? 0 = some 0 ∧
      ∀ a < n, (among n container).handles.get? a = some 0 := by
    intro n
    induction n with
    | zero => exact ⟨rfl, rfl, by simp⟩
    | succ n ih =>
      obtain ⟨containers, first, others⟩ := ih
      have shared : among (n + 1) container = (among n container).share n 0 := by
        simp [among, List.range_succ]
      have put : ((among n container).share n 0).handles = (among n container).handles.put n 0 := by
        simp [share, first]
      rw [shared, put]
      refine ⟨by simp [share, first, containers], ?_, ?_⟩
      · rw [Registry.get?_put]
        split <;> simp [first]
      · intro a ha
        rw [Registry.get?_put]
        split
        · rfl
        · exact others a (by omega)
  obtain ⟨containers, _, all⟩ := handles n
  constructor
  · intro a ha b hb
    rw [Shared.together, all a ha, all b hb]
  · intro a ha
    simp [Shared.get?, all a ha, containers]

end Shared

end Custody
