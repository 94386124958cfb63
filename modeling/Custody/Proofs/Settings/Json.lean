import Custody.Proofs.Settings.Members

/-!
# Settings that are written and read again

The written form of settings is an object of four members, and reading it gives the settings
back. What is read is then validated, as settings are that were never written.

* `Settings.readDocument_toJson`: the written form is read back;
* `Settings.ofJson?_toJson`: and validated;
* `Settings.json_round_trip`: writing and reading again changes nothing that was accepted.
-/

namespace Custody

/-- An order is written as its name. -/
theorem ServingOrder.names_toJson (o : ServingOrder) :
    Json.Names ServingOrder.byWord o.toJson.toList o := by
  rw [toJson, Json.toList_quote]
  cases o with
  | ascending => exact .text (Json.spells_written _) rfl
  | descending => exact .text (Json.spells_written _) rfl

namespace Settings

open Json (Member ObjectOf quote)

/-! ### Written settings -/

/-- The members that settings are written as. -/
def members (s : Settings) : List Member :=
  [⟨"max_resources", (toString s.maxResources).toList⟩,
    ⟨"waiter_capacity", (toString s.waiterCapacity).toList⟩,
    ⟨"order", s.order.toJson.toList⟩,
    ⟨"default_priority", (toString s.defaultPriority).toList⟩]

theorem toList_toJson (s : Settings) : s.toJson.toList = Json.objectText s.members := by
  have maxResources : "\x7b\"max_resources\":".toList =
      '{' :: (quote "max_resources").toList ++ [':'] := rfl
  have waiterCapacity : ",\"waiter_capacity\":".toList =
      ',' :: (quote "waiter_capacity").toList ++ [':'] := rfl
  have order : ",\"order\":".toList = ',' :: (quote "order").toList ++ [':'] := rfl
  have defaultPriority : ",\"default_priority\":".toList =
      ',' :: (quote "default_priority").toList ++ [':'] := rfl
  have closing : "\x7d".toList = ['}'] := rfl
  unfold toJson
  simp only [String.toList_append, maxResources, waiterCapacity, order, defaultPriority, closing,
    members, Json.objectText, Json.membersText, Member.text, Json.comma, List.cons_append,
    List.nil_append, List.append_assoc]

theorem written_members (s : Settings) : ∀ m ∈ s.members, Json.Written .value m.value := by
  simp only [members, List.forall_mem_cons]
  exact ⟨Json.written_natural _, Json.written_natural _, Json.written_quote _,
    Json.written_signed _, by simp⟩

theorem objectOf_toJson (s : Settings) : ObjectOf s.members s.toJson.toList := by
  rw [toList_toJson]
  exact Json.objectOf_objectText s.written_members

/-! ### Reading what was written -/

/-- The members stand for the settings that they were written for. -/
theorem forms_members (s : Settings) : Forms s.members s where
  maxResources := ⟨_, rfl, rfl⟩
  waiterCapacity := ⟨_, rfl, rfl⟩
  order := .inr ⟨_, rfl, s.order.names_toJson⟩
  defaultPriority := .inr ⟨_, rfl, rfl⟩

theorem readDocument_toJson (s : Settings) : Json.readDocument read s.toJson = .ok s :=
  (readDocument_ok_iff s.objectOf_toJson).2 s.forms_members

/-- What was written is read and validated. -/
theorem ofJson?_toJson (s : Settings) : ofJson? s.toJson = s.validated.mapError .invalid := by
  rw [ofJson?, readDocument_toJson]

/-! ### Validation -/

section Validation

variable {ε : Type} {s : Settings}

theorem validated_of_ok (valid : s.validate = .ok ()) (wrap : Fault → ε) :
    s.validated.mapError wrap = .ok s := by
  rw [validated, valid]
  rfl

theorem validated_of_error {fault : Fault} (refused : s.validate = .error fault)
    (wrap : Fault → ε) : s.validated.mapError wrap = .error (wrap fault) := by
  rw [validated, refused]
  rfl

/-- Nothing is accepted that is not valid. -/
theorem validate_of_ofJson? {text : String} (accepted : ofJson? text = .ok s) :
    s.validate = .ok () := by
  unfold ofJson? at accepted
  split at accepted
  · cases accepted
  · rename_i found _
    cases checked : found.validate with
    | error fault =>
      rw [validated_of_error checked] at accepted
      cases accepted
    | ok =>
      rw [validated_of_ok checked] at accepted
      cases accepted
      exact checked

end Validation

/-- Settings survive being written and read again, whatever their numbers and their order: valid
settings come back as they are, and others are refused as their validation refuses them, for
their resources first. So do settings that were read from any text: they are valid, and what
they are written as is read as the same settings. -/
theorem json_round_trip (s : Settings) :
    (s.maxResources ≠ 0 → s.waiterCapacity ≠ 0 → ofJson? s.toJson = .ok s) ∧
    (s.maxResources = 0 → ofJson? s.toJson = .error (.invalid .noResources)) ∧
    (s.maxResources ≠ 0 → s.waiterCapacity = 0 →
      ofJson? s.toJson = .error (.invalid .noWaiters)) ∧
    (∀ fault, s.validate = .error fault →
      ∃ refusal, ofJson? s.toJson = .error refusal ∧ refusal.message = fault.message) ∧
    ∀ text, ofJson? text = .ok s → s.validate = .ok () ∧ ofJson? s.toJson = .ok s := by
  have again : s.validate = .ok () → ofJson? s.toJson = .ok s := by
    intro valid
    rw [ofJson?_toJson, validated_of_ok valid]
  have refused : ∀ fault, s.validate = .error fault →
      ofJson? s.toJson = .error (.invalid fault) := by
    intro fault refused
    rw [ofJson?_toJson, validated_of_error refused]
  refine ⟨?positive, ?noResources, ?noWaiters, ?message, ?accepted⟩
  case positive =>
    intro maxResources waiterCapacity
    exact again (s.validate_eq_ok.2 ⟨maxResources, waiterCapacity⟩)
  case noResources =>
    intro none
    exact refused _ (by rw [validate, if_pos none])
  case noWaiters =>
    intro some none
    exact refused _ (by rw [validate, if_neg some, if_pos none])
  case message =>
    intro fault invalid
    exact ⟨_, refused fault invalid, rfl⟩
  case accepted =>
    intro text accepted
    have valid := validate_of_ofJson? accepted
    exact ⟨valid, again valid⟩

/-- Settings at the ends of the ranges. -/
def extreme : Settings where
  maxResources := 18446744073709551615
  waiterCapacity := 1
  order := .descending
  defaultPriority := -9223372036854775808

/-- The extreme settings come back. Without resources and waiters they are refused for the
resources, without waiters alone for the waiters. A list with blanks is read, written as an
object, and read again. -/
theorem json_round_trip_extreme :
    ofJson? extreme.toJson = .ok extreme ∧
    ofJson? { extreme with maxResources := 0, waiterCapacity := 0 }.toJson =
      .error (.invalid .noResources) ∧
    ofJson? { extreme with waiterCapacity := 0 }.toJson = .error (.invalid .noWaiters) ∧
    (∃ refusal, ofJson? { extreme with waiterCapacity := 0 }.toJson = .error refusal ∧
      refusal.message = "waiter_capacity must be greater than 0") ∧
    ofJson? "[ 7 ,3]" = .ok { standard with maxResources := 7, waiterCapacity := 3 } ∧
    ofJson? { standard with maxResources := 7, waiterCapacity := 3 }.toJson =
      .ok { standard with maxResources := 7, waiterCapacity := 3 } := by
  have list : ofJson? "[ 7 ,3]" = .ok { standard with maxResources := 7, waiterCapacity := 3 } := by
    rfl
  obtain ⟨positive, -⟩ := json_round_trip extreme
  obtain ⟨-, noResources, -⟩ :=
    json_round_trip { extreme with maxResources := 0, waiterCapacity := 0 }
  obtain ⟨-, -, noWaiters, message, -⟩ := json_round_trip { extreme with waiterCapacity := 0 }
  obtain ⟨-, -, -, -, accepted⟩ :=
    json_round_trip { standard with maxResources := 7, waiterCapacity := 3 }
  exact ⟨positive (by decide) (by decide), noResources rfl, noWaiters (by decide) rfl,
    message .noWaiters rfl, list, (accepted _ list).2⟩

example : extreme.toJson = "\x7b\"max_resources\":18446744073709551615,\"waiter_capacity\":1," ++
    "\"order\":\"descending\",\"default_priority\":-9223372036854775808\x7d" := by decide

end Settings

end Custody
