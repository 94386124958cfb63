import Mathlib.Tactic.MkIffOfInductiveProp
import Custody.Proofs.Json.Members
import Custody.Settings.Json

/-!
# Settings by the names of their members

What is read from an object is decided by what is given under the names of the fields. A field
is read once, and each by itself.

* `given`: what an object gives under a name;
* `Draft.Fills`: what that makes of a draft, for one member and for all;
* `Forms`: the settings that an object stands for;
* `readDocument_ok_iff`: they are what is read.
-/

namespace Custody

theorem ServingOrder.tells_read :
    Json.Tells ServingOrder.read (Json.Names ServingOrder.byWord) :=
  Json.tells_name ServingOrder.byWord

namespace Settings

open Json (Member ObjectOf Laid Blanks Names Numeral Taken Knows Makes Written NumberEnds Tells
  readField_ok_iff skipField_ok_iff tells_natural tells_signed tells_name)

/-! ### Fields -/

/-- The values that the members of a name have, in turn. -/
def given (name : String) (members : List Member) : List (List Char) :=
  (members.filter fun m => m.key = name).map Member.value

section Given

variable {name : String} {m : Member} {members others : List Member}

theorem given_append (name : String) (members others : List Member) :
    given name (members ++ others) = given name members ++ given name others := by
  simp [given]

theorem given_singleton (name : String) (m : Member) :
    given name [m] = if m.key = name then [m.value] else [] := by
  by_cases same : m.key = name
  · simp [given, same]
  · simp [given, same]

theorem given_perm (perm : members.Perm others) (name : String) :
    (given name members).Perm (given name others) :=
  (perm.filter _).map _

end Given

/-- What the values that are given for a field make of it: nothing, or a first value. -/
inductive Gathered {β : Type} (means : List Char → β → Prop) :
    List (List Char) → Option β → Option β → Prop
  | nothing {found : Option β} : Gathered means [] found found
  | once {text : List Char} {value : β} (said : means text value) :
      Gathered means [text] none (some value)

section Gathered

variable {β : Type} {means : List Char → β → Prop} {texts more : List (List Char)}
  {text : List Char} {before after : Option β} {value standard : β}

theorem gathered_nil : Gathered means [] before after ↔ after = before := by
  constructor
  · rintro ⟨⟩
    rfl
  · rintro rfl
    exact .nothing

theorem gathered_singleton : Gathered means [text] before after ↔
    before = none ∧ ∃ value, means text value ∧ after = some value := by
  constructor
  · rintro (_ | said)
    exact ⟨rfl, _, said, rfl⟩
  · rintro ⟨rfl, value, said, rfl⟩
    exact .once said

/-- Values are gathered one after the other. -/
theorem gathered_append : Gathered means (texts ++ more) before after ↔
    ∃ between, Gathered means texts before between ∧ Gathered means more between after := by
  constructor
  · intro gathered
    cases texts with
    | nil => exact ⟨before, .nothing, gathered⟩
    | cons text texts =>
      generalize all : text :: texts ++ more = given at gathered
      cases gathered with
      | nothing => cases all
      | once said =>
        obtain ⟨rfl, rest⟩ := List.cons.inj all
        obtain ⟨rfl, rfl⟩ := List.append_eq_nil_iff.1 rest
        exact ⟨_, .once said, .nothing⟩
  · rintro ⟨between, first, others⟩
    cases first with
    | nothing => exact others
    | once said =>
      cases others with
      | nothing => exact .once said

/-- A field that must be given, once. -/
def Required (means : List Char → β → Prop) (texts : List (List Char)) (value : β) : Prop :=
  ∃ text, texts = [text] ∧ means text value

/-- A field that may be left out, and then has its standard value. -/
def Optional (means : List Char → β → Prop) (standard : β) (texts : List (List Char))
    (value : β) : Prop :=
  (texts = [] ∧ value = standard) ∨ Required means texts value

theorem gathered_some : Gathered means texts none (some value) ↔ Required means texts value := by
  constructor
  · rintro (_ | said)
    exact ⟨_, rfl, said⟩
  · rintro ⟨text, rfl, said⟩
    exact .once said

theorem gathered_getD : (∃ found, Gathered means texts none found ∧ found.getD standard = value) ↔
    Optional means standard texts value := by
  constructor
  · rintro ⟨found, gathered, rfl⟩
    cases gathered with
    | nothing => exact .inl ⟨rfl, rfl⟩
    | once said => exact .inr ⟨_, rfl, said⟩
  · rintro (⟨rfl, rfl⟩ | ⟨text, rfl, said⟩)
    · exact ⟨none, .nothing, rfl⟩
    · exact ⟨some value, .once said, rfl⟩

/-- The order of the values is no matter. -/
theorem Required.perm {others : List (List Char)} (required : Required means texts value)
    (perm : texts.Perm others) : Required means others value := by
  obtain ⟨text, rfl, said⟩ := required
  exact ⟨text, (List.singleton_perm.1 perm).symm, said⟩

theorem Optional.perm {others : List (List Char)} (optional : Optional means standard texts value)
    (perm : texts.Perm others) : Optional means standard others value := by
  rcases optional with ⟨rfl, rfl⟩ | required
  · exact .inl ⟨List.nil_perm.1 perm, rfl⟩
  · exact .inr (required.perm perm)

theorem Required.length_le (required : Required means texts value) : texts.length ≤ 1 := by
  obtain ⟨text, rfl, -⟩ := required
  exact Nat.le_refl 1

theorem Optional.length_le (optional : Optional means standard texts value) :
    texts.length ≤ 1 := by
  rcases optional with ⟨rfl, -⟩ | required
  · exact Nat.zero_le 1
  · exact required.length_le

/-- To give the standard value is to give none. -/
theorem optional_standard {read : Json.Input → Except Json.Fault (β × Json.Input)}
    (tells : Tells read means) (said : means text standard) :
    Optional means standard [text] value ↔ Optional means standard [] value := by
  constructor
  · rintro (⟨⟨⟩, _⟩ | ⟨again, same, taken⟩)
    cases same
    exact .inl ⟨rfl, tells.unique taken said⟩
  · rintro (⟨-, rfl⟩ | ⟨again, ⟨⟩, _⟩)
    exact .inr ⟨text, rfl, said⟩

end Gathered

/-! ### Drafts -/

namespace Draft

theorem read_maxResources (d : Draft) : reader.read "max_resources" d =
    Json.readField "max_resources" d.maxResources (Json.readNatural "usize")
      fun value => { d with maxResources := some value } := by
  funext i
  simp [reader, readMember]

theorem read_waiterCapacity (d : Draft) : reader.read "waiter_capacity" d =
    Json.readField "waiter_capacity" d.waiterCapacity (Json.readNatural "usize")
      fun value => { d with waiterCapacity := some value } := by
  funext i
  simp [reader, readMember]

theorem read_order (d : Draft) : reader.read "order" d =
    Json.readField "order" d.order ServingOrder.read
      fun value => { d with order := some value } := by
  funext i
  simp [reader, readMember]

theorem read_defaultPriority (d : Draft) : reader.read "default_priority" d =
    Json.readField "default_priority" d.defaultPriority (Json.readSigned "i64")
      fun value => { d with defaultPriority := some value } := by
  funext i
  simp [reader, readMember]

theorem read_other {key : String} (d : Draft) (maxResources : key ≠ "max_resources")
    (waiterCapacity : key ≠ "waiter_capacity") (order : key ≠ "order")
    (defaultPriority : key ≠ "default_priority") : reader.read key d = Json.skipField d := by
  funext i
  simp [reader, readMember, maxResources, waiterCapacity, order, defaultPriority]

/-- What the values of the fields make of a draft, each field by itself. -/
@[mk_iff]
structure Fills (texts : String → List (List Char)) (d d' : Draft) : Prop where
  maxResources : Gathered Numeral (texts "max_resources") d.maxResources d'.maxResources
  waiterCapacity : Gathered Numeral (texts "waiter_capacity") d.waiterCapacity d'.waiterCapacity
  order : Gathered (Names ServingOrder.byWord) (texts "order") d.order d'.order
  defaultPriority :
    Gathered Numeral (texts "default_priority") d.defaultPriority d'.defaultPriority

/-- One member fills its field, if it has one. -/
theorem knows : Knows reader fun m => Fills fun name => given name [m] := by
  intro m d d' between gap rest next place middle space written ends
  obtain ⟨maxResources, waiterCapacity, order, defaultPriority⟩ := d
  obtain ⟨maxResources', waiterCapacity', order', defaultPriority'⟩ := d'
  obtain ⟨key, value⟩ := m
  by_cases first : key = "max_resources"
  · subst first
    rw [read_maxResources, readField_ok_iff (tells_natural _) middle space written ends]
    simp only [fills_iff, given_singleton, gathered_singleton, gathered_nil, mk.injEq,
      String.reduceEq, if_true, if_false]
    grind
  by_cases second : key = "waiter_capacity"
  · subst second
    rw [read_waiterCapacity, readField_ok_iff (tells_natural _) middle space written ends]
    simp only [fills_iff, given_singleton, gathered_singleton, gathered_nil, mk.injEq,
      String.reduceEq, if_true, if_false]
    grind
  by_cases third : key = "order"
  · subst third
    rw [read_order, readField_ok_iff ServingOrder.tells_read middle space written ends]
    simp only [fills_iff, given_singleton, gathered_singleton, gathered_nil, mk.injEq,
      String.reduceEq, if_true, if_false]
    grind
  by_cases fourth : key = "default_priority"
  · subst fourth
    rw [read_defaultPriority, readField_ok_iff (tells_signed _) middle space written ends]
    simp only [fills_iff, given_singleton, gathered_singleton, gathered_nil, mk.injEq,
      String.reduceEq, if_true, if_false]
    grind
  · rw [read_other _ first second third fourth, skipField_ok_iff middle space written ends]
    simp only [fills_iff, given_singleton, first, second, third, fourth, gathered_nil, mk.injEq,
      if_false]

/-- All members fill the draft as what is given under each name does. -/
theorem taken_iff {members : List Member} {d final : Draft} :
    Taken (fun m => Fills fun name => given name [m]) members d final ↔
      Fills (fun name => given name members) d final := by
  induction members generalizing d with
  | nil =>
    constructor
    · rintro ⟨⟩
      exact ⟨.nothing, .nothing, .nothing, .nothing⟩
    · intro fills
      obtain rfl : final = d := by
        obtain ⟨maxResources, waiterCapacity, order, defaultPriority⟩ := d
        obtain ⟨maxResources', waiterCapacity', order', defaultPriority'⟩ := final
        simpa [fills_iff, given, gathered_nil] using fills
      exact .nil
  | cons m members ih =>
    have split : ∀ name, given name (m :: members) = given name [m] ++ given name members :=
      fun name => given_append name [m] members
    constructor
    · rintro (_ | ⟨first, others⟩)
      have rest := ih.1 others
      simp only [fills_iff, split, gathered_append]
      exact ⟨⟨_, first.maxResources, rest.maxResources⟩,
        ⟨_, first.waiterCapacity, rest.waiterCapacity⟩, ⟨_, first.order, rest.order⟩,
        ⟨_, first.defaultPriority, rest.defaultPriority⟩⟩
    · intro fills
      simp only [fills_iff, split, gathered_append] at fills
      obtain ⟨⟨maxResources, max, max'⟩, ⟨waiterCapacity, waiter, waiter'⟩,
        ⟨order, ord, ord'⟩, ⟨defaultPriority, dflt, dflt'⟩⟩ := fills
      have first : Fills (fun name => given name [m]) d
          ⟨maxResources, waiterCapacity, order, defaultPriority⟩ := ⟨max, waiter, ord, dflt⟩
      exact .cons first (ih.2 ⟨max', waiter', ord', dflt'⟩)

theorem finish_ok_iff {d : Draft} {s : Settings} : d.finish = .ok s ↔
    d.maxResources = some s.maxResources ∧ d.waiterCapacity = some s.waiterCapacity ∧
      d.order.getD standard.order = s.order ∧
      d.defaultPriority.getD standard.defaultPriority = s.defaultPriority := by
  obtain ⟨maxResources, waiterCapacity, order, defaultPriority⟩ := d
  obtain ⟨maxResources', waiterCapacity', order', defaultPriority'⟩ := s
  cases maxResources with
  | none => simp [finish]
  | some maxResources =>
    cases waiterCapacity with
    | none => simp [finish]
    | some waiterCapacity => simp [finish]

end Draft

/-! ### Objects -/

/-- The settings that an object with the members stands for. -/
@[mk_iff forms_iff_fields]
structure Forms (members : List Member) (s : Settings) : Prop where
  maxResources : Required Numeral (given "max_resources" members) s.maxResources
  waiterCapacity : Required Numeral (given "waiter_capacity" members) s.waiterCapacity
  order : Optional (Names ServingOrder.byWord) standard.order (given "order" members) s.order
  defaultPriority : Optional Numeral standard.defaultPriority (given "default_priority" members)
    s.defaultPriority

variable {members others : List Member} {s : Settings} {text : String}

theorem forms_iff : Forms members s ↔
    ∃ d, Draft.Fills (fun name => given name members) .blank d ∧ d.finish = .ok s := by
  constructor
  · intro forms
    obtain ⟨order, ordered, same⟩ := gathered_getD.2 forms.order
    obtain ⟨defaultPriority, ranked, equal⟩ := gathered_getD.2 forms.defaultPriority
    refine ⟨⟨some s.maxResources, some s.waiterCapacity, order, defaultPriority⟩, ?fills, ?finish⟩
    case fills =>
      exact ⟨gathered_some.2 forms.maxResources, gathered_some.2 forms.waiterCapacity, ordered,
        ranked⟩
    case finish => exact Draft.finish_ok_iff.2 ⟨rfl, rfl, same, equal⟩
  · rintro ⟨d, fills, finish⟩
    obtain ⟨max, waiter, order, defaultPriority⟩ := Draft.finish_ok_iff.1 finish
    have first := fills.maxResources
    have second := fills.waiterCapacity
    rw [max] at first
    rw [waiter] at second
    exact ⟨gathered_some.1 first, gathered_some.1 second,
      gathered_getD.1 ⟨_, fills.order, order⟩,
      gathered_getD.1 ⟨_, fills.defaultPriority, defaultPriority⟩⟩

theorem makes (members : List Member) : Makes reader members (Forms members) := by
  intro inside back s next rest place laid blank
  have taken : ∀ {d last}, Json.readMembers Draft.reader true .blank
      ⟨inside ++ (back ++ '}' :: rest), place⟩ = .ok (d, last) ↔ _ :=
    Json.readMembers_ok_iff Draft.knows laid blank rest
  show readMembers _ = _ ↔ _
  rw [readMembers, forms_iff]
  constructor
  · intro ok
    split at ok
    · cases ok
    · rename_i read
      obtain ⟨run, rfl⟩ := taken.1 read
      split at ok
      · cases ok
      · rename_i finish
        cases ok
        exact ⟨⟨_, Draft.taken_iff.1 run, finish⟩, rfl⟩
  · rintro ⟨⟨d, fills, finish⟩, rfl⟩
    rw [taken.2 ⟨Draft.taken_iff.2 fills, rfl⟩]
    simp only [finish]

/-- From an object, the settings are read that it stands for. -/
theorem readDocument_ok_iff (object : ObjectOf members text.toList) :
    Json.readDocument read text = .ok s ↔ Forms members s :=
  Json.readDocument_object (makes members) object

end Settings

end Custody
