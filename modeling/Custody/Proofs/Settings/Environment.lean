import Custody.Proofs.Settings.Variables

/-!
# Settings from the environment and from JSON

The same settings can be written into variables and into JSON text, and both are read alike.

* `WrittenIn`: settings that are written into variables, in any of the ways there are;
* `WrittenIn.said`: they are what the variables say;
* `Settings.environment_agrees`: they are read from either, and errors are told apart.
-/

namespace Custody

open Environment (Variables)

namespace Settings

open Decimal.Integer (Numeral natural64?_eq_ok_iff signed64?_eq_ok_iff natural64?_written
  signed64?_written)
open Variable (Says)

variable {v : Variables} {family : String}

/-! ### Settings that are written into variables -/

/-- The text stands in the value of a variable, with nothing but blanks around it. -/
def Holds (raw : String) (text : List Char) : Prop :=
  ∃ before after, before.all Text.isBlank = true ∧ after.all Text.isBlank = true ∧
    raw.toList = before ++ text ++ after

/-- Each variable is left out, where its setting is the standard one, or set to what the setting is
written as: the digits of a number, or a word for the order in small letters and capitals. -/
def WrittenIn (v : Variables) (family : String) (s : Settings) : Prop :=
  ∀ x : Variable, match v.value? (x.name family) with
    | none => x.Standard s
    | some raw => ∃ text, Holds raw text ∧ x.Writes s text

theorem means_of_writes {s : Settings} {text : List Char} {x : Variable}
    (writes : x.Writes s text) : x.Means s text := by
  cases x with
  | maxResources =>
    obtain rfl : text = _ := writes
    exact natural64?_eq_ok_iff.1 (natural64?_written _)
  | waiterCapacity =>
    obtain rfl : text = _ := writes
    exact natural64?_eq_ok_iff.1 (natural64?_written _)
  | order => exact writes
  | defaultPriority =>
    obtain rfl : text = _ := writes
    exact signed64?_eq_ok_iff.1 (signed64?_written _)

theorem not_blank_of_means {s : Settings} {text : List Char} {x : Variable}
    (means : x.Means s text) : ∀ c ∈ text, Text.isBlank c = false := by
  cases x with
  | order => exact ServingOrder.IsWord.not_blank means
  | maxResources | waiterCapacity | defaultPriority => exact Numeral.not_blank means

/-- What is written into variables is what they say. -/
theorem WrittenIn.said {s : Settings} (written : WrittenIn v family s) : SaidBy v family s := by
  intro x
  have writes := written x
  unfold Says
  cases set : v.value? (x.name family) with
  | none =>
    rw [set] at writes
    exact writes
  | some raw =>
    rw [set] at writes
    obtain ⟨text, ⟨before, after, blankBefore, blankAfter, raw_eq⟩, writes⟩ := writes
    have means := means_of_writes writes
    have solid := not_blank_of_means means
    have trimmed : Text.trim raw.toList = text := by
      rw [raw_eq]
      exact Text.trim_padded (List.all_eq_true.1 blankBefore) (List.all_eq_true.1 blankAfter) text
        (fun c first => solid c (List.mem_of_mem_head? first))
        (fun c last => solid c (List.mem_of_getLast? last))
    simp only [trimmed]
    exact means

/-! ### Both ways to configure -/

/-- The environment and JSON configure alike, and errors are told apart. For every family and every
environment, whatever else is set in it:

* valid settings that are written into the variables of the family are read from them, and from
  their JSON text;
* settings are read just where the variables say them, and they are valid;
* an error is given just where a variable is malformed, or what all of them say is not valid;
* the first malformed variable is the one that is reported;
* settings are refused as not valid only where no variable is malformed. -/
theorem environment_agrees (v : Variables) (family : String) :
    (∀ s, WrittenIn v family s → s.validate = .ok () →
      ofVariables? v family = .ok s ∧ ofJson? s.toJson = .ok s) ∧
    (∀ s, ofVariables? v family = .ok s ↔ SaidBy v family s ∧ s.validate = .ok ()) ∧
    ((∃ fault, ofVariables? v family = .error fault) ↔
      (∃ x : Variable, x.Malformed v family) ∨
        ∃ s, SaidBy v family s ∧ ∃ reason, s.validate = .error reason) ∧
    (∀ x : Variable, x.FirstMalformed v family →
      ∃ fault, x.Reports v family fault ∧ ofVariables? v family = .error fault) ∧
    ∀ reason, ofVariables? v family = .error (.invalid reason) ↔
      (∀ x : Variable, ¬x.Malformed v family) ∧
        ∃ s, SaidBy v family s ∧ s.validate = .error reason := by
  refine ⟨?written, fun s => ofVariables?_eq_ok_iff, ofVariables?_fails_iff,
    fun x first => ofVariables?_first first, fun reason => ofVariables?_invalid_iff⟩
  intro s written valid
  refine ⟨ofVariables?_eq_ok_iff.2 ⟨written.said, valid⟩, ?_⟩
  rw [ofJson?_toJson, validated_of_ok valid]

/-- An environment that holds extreme settings, and variables that are not asked for. -/
def extremeVariables : Variables :=
  ⟨[("POOL", "0"), ("POOL_ORDER", "\u00a0DeSc\t"), ("POOLS_WAITER_CAPACITY", "none"),
    ("POOL_MAX_RESOURCES", " 18446744073709551615\n"),
    ("POOL_DEFAULT_PRIORITY", "-9223372036854775808")], by decide⟩

/-- An environment in which the order is no word, and the priority is too large. -/
def mistakenVariables : Variables :=
  ⟨[("POOL_DEFAULT_PRIORITY", "9223372036854775808"), ("POOL_ORDER", "sideways"),
    ("POOL_MAX_RESOURCES", "+007")], by decide⟩

/-- An environment without room for waiters. -/
def starvedVariables : Variables := ⟨[("POOL_WAITER_CAPACITY", "0")], by decide⟩

theorem environment_agrees_extreme :
    (ofVariables? extremeVariables "POOL" = .ok { extreme with waiterCapacity := 16 } ∧
      ofJson? { extreme with waiterCapacity := 16 }.toJson =
        .ok { extreme with waiterCapacity := 16 }) ∧
    (∃ fault, Variable.order.Reports mistakenVariables "POOL" fault ∧
      ofVariables? mistakenVariables "POOL" = .error fault) ∧
    ofVariables? starvedVariables "POOL" = .error (.invalid .noWaiters) := by
  obtain ⟨written, -⟩ := environment_agrees extremeVariables "POOL"
  obtain ⟨-, -, -, first, -⟩ := environment_agrees mistakenVariables "POOL"
  obtain ⟨-, -, -, -, invalid⟩ := environment_agrees starvedVariables "POOL"
  have extremes : WrittenIn extremeVariables "POOL" { extreme with waiterCapacity := 16 } := by
    intro x
    cases x with
    | maxResources =>
      exact ⟨"18446744073709551615".toList, ⟨[' '], ['\n'], rfl, rfl, rfl⟩, rfl⟩
    | waiterCapacity => rfl
    | order =>
      have word : ServingOrder.descending.IsWord "DeSc".toList := by decide
      exact ⟨"DeSc".toList, ⟨['\u00a0'], ['\t'], rfl, rfl, rfl⟩, word⟩
    | defaultPriority =>
      exact ⟨"-9223372036854775808".toList, ⟨[], [], rfl, rfl, rfl⟩, rfl⟩
  have sideways : Variable.order.FirstMalformed mistakenVariables "POOL" := by
    constructor
    case malformed =>
      refine ⟨"sideways", rfl, fun s => ?_⟩
      change ¬s.order.IsWord (Text.trim "sideways".toList)
      cases s.order <;> decide
    case earlier =>
      intro y before
      rintro ⟨raw, set, nothing⟩
      cases y with
      | maxResources =>
        obtain rfl := Option.some.inj (show some "+007" = some raw from set)
        exact nothing { standard with maxResources := 7 } (natural64?_eq_ok_iff.1 rfl)
      | waiterCapacity => cases show none = some raw from set
      | order | defaultPriority => exact absurd before (by decide)
  have starved : SaidBy starvedVariables "POOL" { standard with waiterCapacity := 0 } := by
    intro x
    cases x with
    | waiterCapacity => exact natural64?_eq_ok_iff.1 rfl
    | maxResources | order | defaultPriority => rfl
  exact ⟨written _ extremes rfl, first .order sideways,
    (invalid .noWaiters).2 ⟨starved.not_malformed, _, starved, rfl⟩⟩

end Settings

end Custody
