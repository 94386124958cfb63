import Custody.Proofs.Settings.Members

/-!
# Settings are read by name

How the reading of an object ends is decided by what it gives under the names of the fields. It
may be laid out in any way, and hold whatever else.

* `Forms.of_given`, `forms_usual`: what may be changed in an object that stands for settings;
* `Outcome`: how the reading of a text ends;
* `outcome_congr`: objects that stand for the same are read the same;
* `read_by_name`: what this means for the ways in which an object may be changed.
-/

namespace Custody.Settings

open Decimal.Integer (isDigits_toDigits)
open Json (Member ObjectOf Blanks Names Numeral Written tells_signed)

variable {members others : List Member} {s : Settings} {text : String}

/-! ### What is not noticed -/

/-- The names of the fields. -/
def fields : List String := ["max_resources", "waiter_capacity", "order", "default_priority"]

/-- What an object stands for is told by what it gives under the names of the fields, in any
order. -/
theorem Forms.of_given (forms : Forms members s)
    (same : ∀ name ∈ fields, (given name members).Perm (given name others)) : Forms others s where
  maxResources := forms.maxResources.perm (same _ (by decide))
  waiterCapacity := forms.waiterCapacity.perm (same _ (by decide))
  order := forms.order.perm (same _ (by decide))
  defaultPriority := forms.defaultPriority.perm (same _ (by decide))

/-- Nothing is given under the names of the fields by members of other names. -/
theorem given_foreign {padding : List Member} (foreign : ∀ m ∈ padding, m.key ∉ fields)
    {name : String} (field : name ∈ fields) : given name padding = [] := by
  rw [given, List.map_eq_nil_iff, List.filter_eq_nil_iff]
  intro m mem named
  have same : m.key = name := of_decide_eq_true named
  exact foreign m mem (same ▸ field)

theorem given_padded {padding : List Member} (foreign : ∀ m ∈ padding, m.key ∉ fields)
    (perm : others.Perm (members ++ padding)) {name : String} (field : name ∈ fields) :
    (given name members).Perm (given name others) := by
  have all := given_perm perm name
  rw [given_append, given_foreign foreign field, List.append_nil] at all
  exact all.symm

/-- A member that says what is the case without it. -/
inductive Usual : Member → Prop
  | order {value : List Char} (names : Names ServingOrder.byWord value .ascending) :
      Usual ⟨"order", value⟩
  | defaultPriority : Usual ⟨"default_priority", ['0']⟩

theorem forms_usual {m : Member} (usual : Usual m) (bare : given m.key members = []) :
    Forms (m :: members) s ↔ Forms members s := by
  have split : ∀ name, given name (m :: members) = given name [m] ++ given name members :=
    fun name => given_append name [m] members
  have other : ∀ name, m.key ≠ name → given name (m :: members) = given name members := by
    intro name different
    rw [split, given_singleton, if_neg different, List.nil_append]
  have own : given m.key (m :: members) = [m.value] := by
    rw [split, given_singleton, if_pos rfl, bare, List.append_nil]
  rw [forms_iff_fields, forms_iff_fields]
  cases usual with
  | @order value names =>
    have said : Names ServingOrder.byWord value standard.order := names
    dsimp only at own bare other
    rw [other "max_resources" (by decide), other "waiter_capacity" (by decide),
      other "default_priority" (by decide), own, bare,
      optional_standard ServingOrder.tells_read said]
  | defaultPriority =>
    have said : Numeral ['0'] standard.defaultPriority := rfl
    dsimp only at own bare other
    rw [other "max_resources" (by decide), other "waiter_capacity" (by decide),
      other "order" (by decide), own, bare, optional_standard (tells_signed "i64") said]

/-- Nothing is formed without the required fields, -/
theorem forms_missing {name : String} (required : name = "max_resources" ∨ name = "waiter_capacity")
    (none : given name members = []) : ¬Forms members s := by
  intro forms
  rcases required with rfl | rfl
  · obtain ⟨text, once, -⟩ := forms.maxResources
    rw [none] at once
    cases once
  · obtain ⟨text, once, -⟩ := forms.waiterCapacity
    rw [none] at once
    cases once

/-- nor with a field that is given twice. -/
theorem Forms.length_le {name : String} (forms : Forms members s) (field : name ∈ fields) :
    (given name members).length ≤ 1 := by
  simp only [fields, List.mem_cons, List.not_mem_nil, or_false] at field
  rcases field with rfl | rfl | rfl | rfl
  · exact forms.maxResources.length_le
  · exact forms.waiterCapacity.length_le
  · exact forms.order.length_le
  · exact forms.defaultPriority.length_le

/-! ### Outcomes -/

/-- How the reading of a text ends. What it is that cannot be read, and where, is left out. -/
inductive Outcome
  | accepted (s : Settings)
  | unreadable
  | invalid (fault : Fault)

def outcome (text : String) : Outcome :=
  match ofJson? text with
  | .ok s => .accepted s
  | .error (.unreadable _) => .unreadable
  | .error (.invalid fault) => .invalid fault

/-- How it ends for settings that were read. -/
def judged (s : Settings) : Outcome :=
  match s.validate with
  | .ok () => .accepted s
  | .error fault => .invalid fault

theorem outcome_of_forms (object : ObjectOf members text.toList) (forms : Forms members s) :
    outcome text = s.judged := by
  have read := (readDocument_ok_iff object).2 forms
  rw [outcome, ofJson?, read]
  simp only [validated, judged]
  cases s.validate <;> rfl

theorem outcome_of_not_forms (object : ObjectOf members text.toList)
    (none : ∀ s, ¬Forms members s) : outcome text = .unreadable := by
  cases read : Json.readDocument Settings.read text with
  | error fault => rw [outcome, ofJson?, read]
  | ok s => exact absurd ((readDocument_ok_iff object).1 read) (none s)

theorem outcome_cases (object : ObjectOf members text.toList) :
    (∃ s, Forms members s ∧ outcome text = s.judged) ∨
      (∀ s, ¬Forms members s) ∧ outcome text = .unreadable := by
  by_cases formed : ∃ s, Forms members s
  · obtain ⟨s, forms⟩ := formed
    exact .inl ⟨s, forms, outcome_of_forms object forms⟩
  · have none : ∀ s, ¬Forms members s := fun s forms => formed ⟨s, forms⟩
    exact .inr ⟨none, outcome_of_not_forms object none⟩

/-- Objects that stand for the same are read the same. -/
theorem outcome_congr {text' : String} (object : ObjectOf members text.toList)
    (object' : ObjectOf others text'.toList) (same : ∀ s, Forms others s ↔ Forms members s) :
    outcome text' = outcome text := by
  rcases outcome_cases object with ⟨s, forms, ends⟩ | ⟨none, ends⟩
  · rw [ends, outcome_of_forms object' ((same s).2 forms)]
  · rw [ends, outcome_of_not_forms object' fun s forms => none s ((same s).1 forms)]

theorem accepted_iff (object : ObjectOf members text.toList) :
    outcome text = .accepted s ↔ Forms members s ∧ s.validate = .ok () := by
  constructor
  · intro accepted
    rcases outcome_cases object with ⟨found, forms, ends⟩ | ⟨-, ends⟩
    · rw [ends, judged] at accepted
      split at accepted
      · rename_i valid
        cases accepted
        exact ⟨forms, valid⟩
      · cases accepted
    · rw [ends] at accepted
      cases accepted
  · rintro ⟨forms, valid⟩
    rw [outcome_of_forms object forms, judged, valid]

theorem invalid_iff {fault : Fault} (object : ObjectOf members text.toList) :
    outcome text = .invalid fault ↔ ∃ s, Forms members s ∧ s.validate = .error fault := by
  constructor
  · intro invalid
    rcases outcome_cases object with ⟨found, forms, ends⟩ | ⟨-, ends⟩
    · rw [ends, judged] at invalid
      split at invalid
      · cases invalid
      · rename_i refused
        cases invalid
        exact ⟨found, forms, refused⟩
    · rw [ends] at invalid
      cases invalid
  · rintro ⟨s, forms, refused⟩
    rw [outcome_of_forms object forms, judged, refused]

theorem unreadable_iff (object : ObjectOf members text.toList) :
    outcome text = .unreadable ↔ ∀ s, ¬Forms members s := by
  constructor
  · intro unreadable s forms
    rw [outcome_of_forms object forms, judged] at unreadable
    split at unreadable <;> cases unreadable
  · exact outcome_of_not_forms object

/-- Objects are read by the names of their members alone. Settings are accepted when the object
stands for them and they are valid, refused by their validation when it stands for others, and
unreadable when it stands for none. Nothing else about the object is noticed: neither the order
of the members, nor members of other names and whatever they hold, nor members that only say
what is the case without them. Without one of the required fields, or with any field given
twice, nothing can be read. -/
theorem read_by_name (object : ObjectOf members text.toList) :
    (∀ s, outcome text = .accepted s ↔ Forms members s ∧ s.validate = .ok ()) ∧
    (∀ fault, outcome text = .invalid fault ↔
      ∃ s, Forms members s ∧ s.validate = .error fault) ∧
    (outcome text = .unreadable ↔ ∀ s, ¬Forms members s) ∧
    (∀ members' padding text', (∀ m ∈ padding, m.key ∉ fields) →
      members'.Perm (members ++ padding) → ObjectOf members' text'.toList →
        outcome text' = outcome text) ∧
    (∀ m members' text', Usual m → given m.key members = [] →
      members'.Perm (m :: members) → ObjectOf members' text'.toList →
        outcome text' = outcome text) ∧
    (given "max_resources" members = [] ∨ given "waiter_capacity" members = [] →
      outcome text = .unreadable) ∧
    ∀ name ∈ fields, 2 ≤ (given name members).length → outcome text = .unreadable := by
  refine ⟨fun _ => accepted_iff object, fun _ => invalid_iff object, unreadable_iff object,
    ?padded, ?usual, ?missing, ?twice⟩
  case padded =>
    intro members' padding text' foreign perm object'
    apply outcome_congr object object'
    have same : ∀ name ∈ fields, (given name members).Perm (given name members') :=
      fun name field => given_padded foreign perm field
    exact fun s => ⟨fun forms => forms.of_given fun name field => (same name field).symm,
      fun forms => forms.of_given same⟩
  case usual =>
    intro m members' text' usual bare perm object'
    apply outcome_congr object object'
    intro s
    rw [← forms_usual usual bare]
    exact ⟨fun forms => forms.of_given fun name _ => given_perm perm name,
      fun forms => forms.of_given fun name _ => given_perm perm.symm name⟩
  case missing =>
    rintro (none | none)
    · exact outcome_of_not_forms object fun s => forms_missing (.inl rfl) none
    · exact outcome_of_not_forms object fun s => forms_missing (.inr rfl) none
  case twice =>
    intro name field twice
    apply outcome_of_not_forms object
    intro s forms
    have once := forms.length_le field
    omega

/-- The object of the members, without blanks. -/
def plain (members : List Member) : String := String.ofList (Json.objectText members)

theorem objectOf_plain {members : List Member}
    (written : ∀ m ∈ members, Written .value m.value) :
    ObjectOf members (plain members).toList := by
  rw [plain, String.toList_ofList]
  exact Json.objectOf_objectText written

/-- Two members, which is enough. -/
def sample : List Member := [⟨"max_resources", ['7']⟩, ⟨"waiter_capacity", ['3']⟩]

/-- A list that is passed over, with half a character and a number out of range in it. -/
def note : Member :=
  ⟨"note", "[\x7b\"half\" : \"\\ud800\"\x7d, -1.5e400 ,null]".toList⟩

theorem written_note : Written .value note.value := by
  have none : Blanks [] := by simp [Blanks]
  have space : Blanks [' '] := by simp [Blanks, Json.Input.isBlank]
  have lone : Written .value ['"', '\\', 'u', 'd', '8', '0', '0', '"'] :=
    .text (.unit rfl .nil)
  have key : Json.Chars ['h', 'a', 'l', 'f'] := (Json.spells_written ['h', 'a', 'l', 'f']).chars
  have object : Written .value _ := .full (.item none (.key key space) space lone none)
  have whole : Json.Whole ['1'] := .digits rfl (by decide) (by simp)
  have fraction : Json.Fraction ['.', '5'] := .digits (isDigits_toDigits 5)
  have exponent : Json.Exponent ('e' :: ([] ++ ['4', '0', '0'])) :=
    .digits rfl (.inl rfl) (isDigits_toDigits 400)
  have number : Written .value _ := .minus whole fraction exponent
  exact .full (.join (.item none .item none object none)
    (.join (.item space .item none number space) (.item none .item none .null none)))

/-- The members the other way round and in front of the note, with blanks and an escape. -/
def padded : String :=
  "\x7b\"waiter_capacity\":3, \"max\\u005fresources\": 7 ,\"note\":" ++
    "[\x7b\"half\" : \"\\ud800\"\x7d, -1.5e400 ,null]\x7d"

theorem objectOf_padded : ObjectOf (sample.reverse ++ [note]) padded.toList := by
  have none : Blanks [] := by simp [Blanks]
  have space : Blanks [' '] := by simp [Blanks, Json.Input.isBlank]
  have waiterCapacity := Json.spells_written "waiter_capacity".toList
  have maxResources : Json.Spells "max\\u005fresources".toList "max_resources".toList := by
    have front := Json.spells_written "resources".toList
    have escaped := front.escaped (.unit (a := '0') (b := '0') (c := '5') (d := 'f') rfl rfl rfl)
    exact ((escaped.written 'x').written 'a').written 'm'
  have three : Written .value ['3'] := Json.written_natural 3
  have seven : Written .value ['7'] := Json.written_natural 7
  have object := ObjectOf.braces none
    (.cons (m := ⟨"waiter_capacity", ['3']⟩) (.first none) waiterCapacity none none three
      (.cons (m := ⟨"max_resources", ['7']⟩) (.next none space) maxResources none space seven
        (.cons (m := note) (.next space none) (Json.spells_written "note".toList) none none
          written_note .nil))) none none
  exact object

/-- The object is read in both forms, and with the usual order in front. Without its first
member, or with that member twice, it is not. -/
theorem read_by_name_sample :
    outcome (plain sample) = .accepted { standard with maxResources := 7, waiterCapacity := 3 } ∧
    outcome padded = outcome (plain sample) ∧
    outcome (plain (⟨"order", "\"ascending\"".toList⟩ :: sample)) = outcome (plain sample) ∧
    outcome (plain sample.tail) = .unreadable ∧
    outcome (plain (⟨"max_resources", ['7']⟩ :: sample)) = .unreadable := by
  have three : Written .value ['3'] := Json.written_natural 3
  have seven : Written .value ['7'] := Json.written_natural 7
  have written : ∀ m ∈ sample, Written .value m.value := by simp [sample, three, seven]
  obtain ⟨accepted, -, -, widened, usual, -⟩ := read_by_name (objectOf_plain written)
  obtain ⟨-, -, -, -, -, missing, -⟩ :=
    read_by_name (objectOf_plain fun m mem => written m (List.mem_of_mem_tail mem))
  have doubled : ObjectOf (⟨"max_resources", ['7']⟩ :: sample) _ :=
    objectOf_plain (List.forall_mem_cons.2 ⟨seven, written⟩)
  obtain ⟨-, -, -, -, -, -, twice⟩ := read_by_name doubled
  refine ⟨(accepted _).2 ⟨?forms, rfl⟩, ?padded, ?usual, missing (.inl rfl), ?twice⟩
  case forms =>
    exact ⟨⟨_, rfl, rfl⟩, ⟨_, rfl, rfl⟩, .inl ⟨rfl, rfl⟩, .inl ⟨rfl, rfl⟩⟩
  case padded =>
    exact widened _ [note] padded (by decide) (sample.reverse_perm.append_right [note])
      objectOf_padded
  case usual =>
    have names : Names ServingOrder.byWord "\"ascending\"".toList .ascending :=
      .text (Json.spells_written "ascending".toList) rfl
    have ascending : Written .value "\"ascending\"".toList := Json.written_quote "ascending"
    exact usual _ _ _ (.order names) rfl (.refl _)
      (objectOf_plain (List.forall_mem_cons.2 ⟨ascending, written⟩))
  case twice => exact twice "max_resources" (by decide) (by decide)

end Custody.Settings
