import Custody.Broker.Roster
import Custody.Broker.Stats
import Custody.Proofs.RankedQueue
import Custody.Proofs.Registry

/-!
# Brokers of a roster, all or none

The check of a roster and the construction of its brokers each go through the roster in an order
of their own. What the check lets pass is all that the construction could refuse, so nothing is
built in part.

* `validate_ok_iff`, `validate_error`: what the check finds, in any order;
* `buildMembers_eq`: what is built from settings that are valid;
* `buildOver`: the check in one order, the construction in another;
* `all_or_nothing`: both together, whatever the orders.
-/

namespace Custody

theorem Broker.new?_of_valid {ι ρ : Type} {s : Settings} (valid : s.validate = .ok ()) :
    (Broker.new? s : Except Settings.Fault (Broker ι ρ)) = .ok (.empty s) := by
  rw [Broker.new?, valid]

namespace Roster

/-! ### The check -/

section Check

variable {entries : List (String × Settings)} {r r' : Roster} {fault : Fault}

theorem validateMembers_ok_iff :
    validateMembers entries = .ok () ↔ ∀ entry ∈ entries, entry.2.validate = .ok () := by
  induction entries with
  | nil => simp [validateMembers]
  | cons entry entries ih =>
    obtain ⟨name, s⟩ := entry
    rw [validateMembers, List.forall_mem_cons, ← ih]
    cases checked : s.validate with
    | error reason => simp
    | ok => simp

/-- The fault of a member is that of its settings. -/
theorem validateMembers_error (refused : validateMembers entries = .error fault) :
    ∃ name s reason, (name, s) ∈ entries ∧ s.validate = .error reason ∧
      fault = .member name reason := by
  induction entries with
  | nil => cases refused
  | cons entry entries ih =>
    obtain ⟨name, s⟩ := entry
    rw [validateMembers] at refused
    cases checked : s.validate with
    | error reason =>
      rw [checked] at refused
      cases refused
      exact ⟨name, s, reason, List.mem_cons_self, checked, rfl⟩
    | ok =>
      rw [checked] at refused
      obtain ⟨name', s', reason, mem, invalid, rfl⟩ := ih refused
      exact ⟨name', s', reason, List.mem_cons_of_mem _ mem, invalid, rfl⟩

theorem validate_ok_iff : r.validate = .ok () ↔
    r.brokers.entries ≠ [] ∧ ∀ entry ∈ r.brokers.entries, entry.2.validate = .ok () := by
  rw [validate, ← validateMembers_ok_iff]
  cases r.brokers.entries with
  | nil => simp
  | cons entry entries => simp

theorem validate_error (refused : r.validate = .error fault) :
    (r.brokers.entries = [] ∧ fault = .empty) ∨
      ∃ name s reason, (name, s) ∈ r.brokers.entries ∧ s.validate = .error reason ∧
        fault = .member name reason := by
  rw [validate] at refused
  by_cases empty : r.brokers.entries = []
  · rw [empty] at refused
    cases refused
    exact .inl ⟨empty, rfl⟩
  · rw [if_neg (by simpa using empty)] at refused
    exact .inr (validateMembers_error refused)

/-- Whether a roster is valid does not depend on the order. -/
theorem validate_perm (same : r.brokers.entries.Perm r'.brokers.entries) :
    r'.validate = .ok () ↔ r.validate = .ok () := by
  rw [validate_ok_iff, validate_ok_iff]
  simp only [same.mem_iff, ne_eq, ← List.length_eq_zero_iff, same.length_eq]

/-- The only invalid member is found in any order. -/
theorem validate_single {name : String} {s : Settings} {reason : Settings.Fault}
    (mem : (name, s) ∈ r.brokers.entries) (invalid : s.validate = .error reason)
    (others : ∀ entry ∈ r.brokers.entries, entry.1 ≠ name → entry.2.validate = .ok ()) :
    r.validate = .error (.member name reason) := by
  cases checked : r.validate with
  | ok =>
    have valid := (validate_ok_iff.1 checked).2 _ mem
    rw [invalid] at valid
    cases valid
  | error fault =>
    obtain ⟨none, -⟩ | ⟨name', s', reason', mem', invalid', rfl⟩ := validate_error checked
    · rw [none] at mem
      cases mem
    · by_cases same : name' = name
      · subst same
        have first := Registry.get?_of_mem mem
        rw [Registry.get?_of_mem mem', Option.some.injEq] at first
        rw [first, invalid] at invalid'
        cases invalid'
        rfl
      · have valid := others _ mem' same
        rw [invalid'] at valid
        cases valid

end Check

/-! ### The construction -/

/-- The brokers by name, or why there are none, and the lines of the log. -/
abbrev Built (ι ρ : Type) := Except (Refusal ι) (List (String × Broker ι ρ)) × List Log.Line

section Construction

variable {ι ρ : Type} {r r' : Roster} {entries : List (String × Settings)}

/-- From valid settings all brokers are built, each with its line of the log. -/
theorem buildMembers_eq (valid : ∀ entry ∈ entries, entry.2.validate = .ok ()) :
    (buildMembers entries : Built ι ρ) =
      (.ok (entries.map fun entry => (entry.1, .empty entry.2)),
        entries.map fun entry => builtLine entry.1 entry.2) := by
  induction entries with
  | nil => rfl
  | cons entry entries ih =>
    obtain ⟨name, s⟩ := entry
    obtain ⟨first, others⟩ := List.forall_mem_cons.1 valid
    rw [buildMembers, Broker.new?_of_valid first, ih others]
    rfl

/-- What is built when the construction goes through the roster in an order of its own. -/
def buildOver (r : Roster) (order : List (String × Settings)) : Built ι ρ :=
  match r.validate with
  | .error fault => (.error (.invalidSettings fault.message), [])
  | .ok () => buildMembers order

theorem build_eq (r : Roster) : (r.build : Built ι ρ) = r.buildOver r.brokers.entries := rfl

theorem buildOver_of_error {fault : Fault} (refused : r.validate = .error fault) :
    (r.buildOver entries : Built ι ρ) = (.error (.invalidSettings fault.message), []) := by
  rw [buildOver, refused]

theorem buildOver_of_ok (same : r.brokers.entries.Perm entries) (valid : r.validate = .ok ()) :
    (r.buildOver entries : Built ι ρ) =
      (.ok (entries.map fun entry => (entry.1, .empty entry.2)),
        entries.map fun entry => builtLine entry.1 entry.2) := by
  have all : ∀ entry ∈ entries, entry.2.validate = .ok () := by
    intro entry mem
    exact (validate_ok_iff.1 valid).2 entry (same.mem_iff.2 mem)
  rw [buildOver, valid]
  exact buildMembers_eq all

/-- A broker of the settings that nothing has happened to. -/
structure Unused (b : Broker ι ρ) (s : Settings) : Prop where
  settings : b.settings = s
  records : b.records.entries = []
  idle : b.idleIds = []
  retired : b.retired = []
  stats : b.stats = ⟨0, 0, 0, 0, 0, s.maxResources⟩

theorem unused_empty (s : Settings) : Unused (.empty s : Broker ι ρ) s where
  settings := rfl
  records := rfl
  idle := RankedQueue.toList_empty _ _
  retired := rfl
  stats := rfl

theorem build_ok_iff :
    (∃ brokers, (r.build : Built ι ρ).1 = .ok brokers) ↔ r.validate = .ok () := by
  constructor
  · rintro ⟨brokers, built⟩
    cases checked : r.validate with
    | ok => rfl
    | error fault =>
      rw [build_eq, buildOver_of_error checked] at built
      cases built
  · intro valid
    rw [build_eq, buildOver_of_ok (.refl _) valid]
    exact ⟨_, rfl⟩

/-- What a refused roster is refused for. -/
theorem message_of_error {fault : Fault} (refused : r.validate = .error fault) :
    (r.brokers.entries = [] ∧ fault.message = "at least one broker must be defined") ∨
      ∃ name s reason, (name, s) ∈ r.brokers.entries ∧ s.validate = .error reason ∧
        fault.message = "broker `" ++ name ++ "` invalid: " ++ reason.message := by
  rcases validate_error refused with ⟨none, rfl⟩ | ⟨name, s, reason, mem, invalid, rfl⟩
  · exact .inl ⟨none, rfl⟩
  · exact .inr ⟨name, s, reason, mem, invalid, rfl⟩

/-- The brokers of a roster are built all or none, whatever the orders in which the check and the
construction go through it. The check lets a roster pass that has members, all of them valid, and
otherwise names one that is not. What passes the check is built, one unused broker for each name:
no member is refused that the check let pass. What does not pass is refused with the message of
the check, and nothing is built. The orders decide nothing but which of several invalid members
is named. -/
theorem all_or_nothing (same : r.brokers.entries.Perm r'.brokers.entries) :
    (r.build : Built ι ρ) = r.buildOver r.brokers.entries ∧
    (r.validate = .ok () ↔
      r.brokers.entries ≠ [] ∧ ∀ entry ∈ r.brokers.entries, entry.2.validate = .ok ()) ∧
    (∀ fault, r.validate = .error fault →
      (r.buildOver r'.brokers.entries : Built ι ρ) =
        (.error (.invalidSettings fault.message), []) ∧
      ((r.brokers.entries = [] ∧ fault.message = "at least one broker must be defined") ∨
        ∃ name s reason, (name, s) ∈ r.brokers.entries ∧ s.validate = .error reason ∧
          fault.message = "broker `" ++ name ++ "` invalid: " ++ reason.message)) ∧
    (r.validate = .ok () →
      (∀ name s, (name, s) ∈ r'.brokers.entries →
        (Broker.new? s : Except Settings.Fault (Broker ι ρ)) = .ok (.empty s)) ∧
      ∃ brokers lines, (r.buildOver r'.brokers.entries : Built ι ρ) = (.ok brokers, lines) ∧
        (brokers.map Prod.fst).Nodup ∧
        (∀ name, name ∈ brokers.map Prod.fst ↔ name ∈ r.brokers.keys) ∧
        ∀ name b, (name, b) ∈ brokers → ∃ s, (name, s) ∈ r.brokers.entries ∧ Unused b s) ∧
    ((∃ brokers, (r.build : Built ι ρ).1 = .ok brokers) ↔ r.validate = .ok ()) ∧
    ((∃ brokers, (r.build : Built ι ρ).1 = .ok brokers) ↔
      ∃ brokers, (r'.build : Built ι ρ).1 = .ok brokers) ∧
    ∀ name s reason, (name, s) ∈ r.brokers.entries → s.validate = .error reason →
      (∀ entry ∈ r.brokers.entries, entry.1 ≠ name → entry.2.validate = .ok ()) →
        r.validate = .error (.member name reason) ∧ r'.validate = .error (.member name reason) ∧
        (r.build : Built ι ρ) = r'.build := by
  refine ⟨build_eq r, validate_ok_iff, ?refused, ?built, build_ok_iff, ?order, ?single⟩
  case refused =>
    intro fault refused
    exact ⟨buildOver_of_error refused, message_of_error refused⟩
  case built =>
    intro valid
    have all := (validate_ok_iff.1 ((validate_perm same).2 valid)).2
    refine ⟨fun name s mem => Broker.new?_of_valid (all _ mem), _, _,
      buildOver_of_ok same valid, ?once, ?names, ?unused⟩
    case once =>
      rw [List.map_map]
      exact r'.brokers.nodup
    case names =>
      intro name
      rw [List.map_map]
      exact ((same.map Prod.fst).mem_iff).symm
    case unused =>
      intro name b mem
      obtain ⟨⟨name', s⟩, mem', equal⟩ := List.mem_map.1 mem
      cases equal
      exact ⟨s, same.mem_iff.2 mem', unused_empty s⟩
  case order =>
    rw [build_ok_iff, build_ok_iff]
    exact (validate_perm same).symm
  case single =>
    intro name s reason mem invalid others
    have found := validate_single mem invalid others
    have again : r'.validate = .error (.member name reason) := by
      apply validate_single (same.mem_iff.1 mem) invalid
      intro entry mem' different
      exact others entry (same.mem_iff.2 mem') different
    refine ⟨found, again, ?_⟩
    rw [build_eq, build_eq, buildOver_of_error found, buildOver_of_error again]

end Construction

/-- The other way round. -/
def turned (r : Roster) : Roster where
  brokers :=
    { entries := r.brokers.entries.reverse
      nodup := by
        rw [List.map_reverse]
        exact List.nodup_reverse.2 r.brokers.nodup }

/-- Two brokers, of which the second takes as many waiting callers as given. -/
def pair (waiterCapacity : UInt64) : Roster where
  brokers :=
    { entries := [("axes", .standard), ("plc", { Settings.standard with waiterCapacity })]
      nodup := by simp }

/-- Both brokers are built, in either order. If one of them cannot have waiting callers, none is
built, and it is named in either order. -/
theorem all_or_nothing_pair :
    (pair 1).brokers.entries.Perm (pair 1).turned.brokers.entries ∧
    (∃ brokers lines, ((pair 1).buildOver (pair 1).turned.brokers.entries : Built Nat Nat) =
      (.ok brokers, lines) ∧
        ∀ name, name ∈ brokers.map Prod.fst ↔ name ∈ (pair 1).brokers.keys) ∧
    ((pair 0).buildOver (pair 0).turned.brokers.entries : Built Nat Nat) =
      (.error (.invalidSettings "broker `plc` invalid: waiter_capacity must be greater than 0"),
        []) ∧
    ((pair 0).build : Built Nat Nat) = (pair 0).turned.build := by
  have turns : ∀ r : Roster, r.brokers.entries.Perm r.turned.brokers.entries :=
    fun r => (List.reverse_perm r.brokers.entries).symm
  obtain ⟨-, -, -, built, -⟩ := all_or_nothing (ι := Nat) (ρ := Nat) (turns (pair 1))
  obtain ⟨-, -, refused, -, -, -, single⟩ := all_or_nothing (ι := Nat) (ρ := Nat) (turns (pair 0))
  obtain ⟨-, brokers, lines, whole, -, names, -⟩ := built rfl
  obtain ⟨-, -, again⟩ := single "plc" _ .noWaiters (List.mem_of_getElem? (i := 1) rfl) rfl
    (by decide)
  exact ⟨turns _, ⟨brokers, lines, whole, names⟩, (refused _ rfl).1, again⟩

end Roster

end Custody
