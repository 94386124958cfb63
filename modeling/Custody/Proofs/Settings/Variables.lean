import Custody.Proofs.Settings.Json
import Custody.Settings.Environment

/-!
# What variables say

What each variable of a family says is told without the reader: an integer by its numerals, an
order by its words. The settings that all variables say together are read, if there are such
settings; the first variable that stands for nothing is reported, if there is one.

* `Variable.Says`: the variable says the setting, or leaves the standard one;
* `Variable.FirstMalformed`: the variable that is reported;
* `ofVariables?_cases`: what is read from the environment, for all there are;
* `ofVariables?_eq_ok_iff`, `ofVariables?_fails_iff`, `ofVariables?_first`,
  `ofVariables?_invalid_iff`: when settings are read, and which error is given when they are not.
-/

namespace Custody

open Environment (Variables)

/-! ### Characters that are not blank -/

theorem Text.isBlank_of_toNat {c : Char} (low : 0x20 < c.toNat) (high : c.toNat < 0x80) :
    isBlank c = false := by
  simp [isBlank, inRanges, blankRanges]
  omega

/-- Neither letter of a pair is blank. -/
theorem Text.isBlank_of_letter {c : Char} (low : 'a'.val ≤ c.toLower.val)
    (high : c.toLower.val ≤ 'z'.val) : isBlank c = false := by
  by_cases capital : 'A'.val ≤ c.val ∧ c.val ≤ 'Z'.val
  · have first : 65 ≤ c.toNat := UInt32.le_iff_toNat_le.1 capital.1
    have last : c.toNat ≤ 90 := UInt32.le_iff_toNat_le.1 capital.2
    exact isBlank_of_toNat (by omega) (by omega)
  · have same : c.toLower = c := by
      unfold Char.toLower
      exact dif_neg capital
    rw [same] at low high
    have first : 97 ≤ c.toNat := UInt32.le_iff_toNat_le.1 low
    have last : c.toNat ≤ 122 := UInt32.le_iff_toNat_le.1 high
    exact isBlank_of_toNat (by omega) (by omega)

namespace ServingOrder

/-! ### Words for an order -/

/-- The words that an order goes by. -/
def words : ServingOrder → List String
  | ascending => ["ascending", "asc"]
  | descending => ["descending", "desc"]

/-- One of the words for the order, in small letters or capitals. -/
def IsWord (o : ServingOrder) (text : List Char) : Prop :=
  String.ofList (text.map Char.toLower) ∈ o.words

instance (o : ServingOrder) (text : List Char) : Decidable (o.IsWord text) :=
  inferInstanceAs (Decidable (_ ∈ _))

/-- An order is read just from its words, with blanks around them. -/
theorem ofWord?_eq_ok_iff {raw : String} {o : ServingOrder} :
    ofWord? raw = .ok o ↔ o.IsWord (Text.trim raw.toList) := by
  unfold ofWord? IsWord
  generalize String.ofList ((Text.trim raw.toList).map Char.toLower) = word
  simp only [Bool.or_eq_true, decide_eq_true_eq]
  split
  · rename_i found
    cases o with
    | ascending => simp [words, found]
    | descending => rcases found with rfl | rfl <;> simp [words]
  · rename_i ascends
    split
    · rename_i found
      cases o with
      | ascending => rcases found with rfl | rfl <;> simp [words]
      | descending => simp [words, found]
    · rename_i descends
      cases o with
      | ascending => simpa [words] using ascends
      | descending => simpa [words] using descends

/-- Else the word is reported, in small letters. -/
theorem ofWord?_eq_error {raw word : String} (refused : ofWord? raw = .error word) :
    word = String.ofList ((Text.trim raw.toList).map Char.toLower) := by
  unfold ofWord? at refused
  simp only at refused
  split at refused
  · cases refused
  · split at refused
    · cases refused
    · cases refused
      rfl

theorem IsWord.not_blank {o : ServingOrder} {text : List Char} (word : o.IsWord text) :
    ∀ c ∈ text, Text.isBlank c = false := by
  have letters : (o.words.all fun word => word.toList.all fun c =>
      'a'.val ≤ c.val && c.val ≤ 'z'.val) = true := by
    cases o <;> rfl
  simp only [List.all_eq_true, Bool.and_eq_true, decide_eq_true_eq] at letters
  intro c mem
  have lower : c.toLower ∈ (String.ofList (text.map Char.toLower)).toList := by
    rw [String.toList_ofList]
    exact List.mem_map_of_mem mem
  obtain ⟨low, high⟩ := letters _ word _ lower
  exact Text.isBlank_of_letter low high

end ServingOrder

theorem Decimal.Integer.Numeral.not_blank {signed : Bool} {cs : List Char} {n : Int}
    (numeral : Numeral signed cs n) : ∀ c ∈ cs, Text.isBlank c = false := by
  have digits : ∀ {digits : List Char}, IsDigits digits → ∀ c ∈ digits, Text.isBlank c = false := by
    intro digits proper c mem
    have digit := proper.all c mem
    simp only [Char.isDigit, Bool.and_eq_true, decide_eq_true_eq] at digit
    have first : 48 ≤ c.toNat := UInt32.le_iff_toNat_le.1 digit.1
    have last : c.toNat ≤ 57 := UInt32.le_iff_toNat_le.1 digit.2
    exact Text.isBlank_of_toNat (by omega) (by omega)
  cases numeral with
  | bare proper => exact digits proper
  | plus proper =>
    intro c mem
    rcases List.mem_cons.1 mem with rfl | mem
    · rfl
    · exact digits proper c mem
  | minus proper sign =>
    intro c mem
    rcases List.mem_cons.1 mem with rfl | mem
    · rfl
    · exact digits proper c mem

namespace Settings

open Decimal.Integer (Numeral natural64? signed64? natural64?_eq_ok_iff signed64?_eq_ok_iff)

/-! ### What variables say -/

/-- The variables of a family. -/
inductive Variable
  | maxResources
  | waiterCapacity
  | order
  | defaultPriority
  deriving DecidableEq, Repr

namespace Variable

def name (family : String) : Variable → String
  | maxResources => family ++ "_MAX_RESOURCES"
  | waiterCapacity => family ++ "_WAITER_CAPACITY"
  | order => family ++ "_ORDER"
  | defaultPriority => family ++ "_DEFAULT_PRIORITY"

/-- How many variables are read before it. -/
def place : Variable → Nat
  | maxResources => 0
  | waiterCapacity => 1
  | order => 2
  | defaultPriority => 3

/-- The setting is the standard one. -/
def Standard (s : Settings) : Variable → Prop
  | maxResources => s.maxResources = standard.maxResources
  | waiterCapacity => s.waiterCapacity = standard.waiterCapacity
  | order => s.order = standard.order
  | defaultPriority => s.defaultPriority = standard.defaultPriority

/-- The text stands for the setting: as a numeral of its value, or as a word for it. -/
def Means (s : Settings) (text : List Char) : Variable → Prop
  | maxResources => Numeral false text s.maxResources.toNat
  | waiterCapacity => Numeral false text s.waiterCapacity.toNat
  | order => s.order.IsWord text
  | defaultPriority => Numeral true text s.defaultPriority.toInt

/-- The text is what the setting is written as. -/
def Writes (s : Settings) (text : List Char) : Variable → Prop
  | maxResources => text = (toString s.maxResources).toList
  | waiterCapacity => text = (toString s.waiterCapacity).toList
  | order => s.order.IsWord text
  | defaultPriority => text = (toString s.defaultPriority).toList

variable (v : Variables) (family : String)

/-- The variable says the setting, or leaves the standard one. -/
def Says (s : Settings) (x : Variable) : Prop :=
  match v.value? (x.name family) with
  | none => x.Standard s
  | some raw => x.Means s (Text.trim raw.toList)

/-- The variable is set, to what stands for no setting at all. -/
def Malformed (x : Variable) : Prop :=
  ∃ raw, v.value? (x.name family) = some raw ∧ ∀ s, ¬x.Means s (Text.trim raw.toList)

/-- The first that is malformed. -/
structure FirstMalformed (x : Variable) : Prop where
  malformed : x.Malformed v family
  earlier : ∀ y : Variable, y.place < x.place → ¬y.Malformed v family

/-- The fault is about what the variable is set to. -/
def Reports (fault : VariableFault) : Variable → Prop
  | order => ∃ raw, v.value? (order.name family) = some raw ∧
      fault = .order (String.ofList ((Text.trim raw.toList).map Char.toLower))
  | x => ∃ raw reason, v.value? (x.name family) = some raw ∧
      fault = .integer (x.name family) raw reason

/-- A setting is found for the variable, the only one that it says; or it is malformed, and
reported. -/
def Found {α : Type} (field : Settings → α) (result : Except VariableFault α) (x : Variable) :
    Prop :=
  (∃ value, result = .ok value ∧ ¬x.Malformed v family ∧
    ∀ s, x.Says v family s ↔ field s = value) ∨
  ∃ fault, result = .error fault ∧ x.Malformed v family ∧ x.Reports v family fault

end Variable

open Variable

section Found

variable (v : Variables) (family : String)

/-- A reader finds the setting of a variable, if it takes what stands for the setting and reports
the rest. -/
theorem found_of {α ε : Type} (x : Variable) (fault : String → ε → VariableFault)
    {field : Settings → α} {otherwise : α} {result : Except VariableFault α}
    {read : String → Except ε α}
    (unset : v.value? (x.name family) = none → result = .ok otherwise)
    (set : ∀ raw, v.value? (x.name family) = some raw → result = (read raw).mapError (fault raw))
    (onto : ∀ value, ∃ s, field s = value) (standard : ∀ s, x.Standard s ↔ field s = otherwise)
    (means : ∀ s raw, x.Means s (Text.trim raw.toList) ↔ read raw = .ok (field s))
    (reports : ∀ raw reason, v.value? (x.name family) = some raw → read raw = .error reason →
      x.Reports v family (fault raw reason)) :
    x.Found v family field result := by
  cases held : v.value? (x.name family) with
  | none =>
    refine .inl ⟨otherwise, unset held, ?_, fun s => ?_⟩
    · rintro ⟨raw, same, -⟩
      rw [held] at same
      cases same
    · simp only [Says, held]
      exact standard s
  | some raw =>
    rw [set raw held]
    cases result : read raw with
    | ok value =>
      refine .inl ⟨value, rfl, ?_, fun s => ?_⟩
      · rintro ⟨same, written, nothing⟩
        rw [held] at written
        cases written
        obtain ⟨s, rfl⟩ := onto value
        exact nothing s ((means s raw).2 result)
      · simp only [Says, held, means, result, Except.ok.injEq]
        exact eq_comm
    | error reason =>
      refine .inr ⟨fault raw reason, rfl, ⟨raw, held, fun s meant => ?_⟩,
        reports raw reason held result⟩
      rw [means, result] at meant
      cases meant

theorem found_integer {α : Type} (x : Variable) {field : Settings → α}
    {read : List Char → Except Decimal.Integer.Fault α} {otherwise : α} (integer : x ≠ .order)
    (onto : ∀ value, ∃ s, field s = value) (standard : ∀ s, x.Standard s ↔ field s = otherwise)
    (means : ∀ s text, x.Means s text ↔ read text = .ok (field s)) :
    x.Found v family field (integerIn v (x.name family) read otherwise) := by
  refine found_of v family x (.integer (x.name family)) (fun unset => ?_) (fun raw set => ?_) onto
    standard (fun s raw => means s _) (fun raw reason set _ => ?_)
  · rw [integerIn, unset]
  · rw [integerIn, set]
  · cases x with
    | order => exact absurd rfl integer
    | maxResources | waiterCapacity | defaultPriority => exact ⟨raw, reason, set, rfl⟩

theorem found_maxResources : Variable.maxResources.Found v family Settings.maxResources
    (integerIn v (family ++ "_MAX_RESOURCES") natural64? standard.maxResources) :=
  found_integer v family .maxResources (by decide)
    (fun value => ⟨{ standard with maxResources := value }, rfl⟩) (fun _ => Iff.rfl)
    fun _ _ => natural64?_eq_ok_iff.symm

theorem found_waiterCapacity : Variable.waiterCapacity.Found v family Settings.waiterCapacity
    (integerIn v (family ++ "_WAITER_CAPACITY") natural64? standard.waiterCapacity) :=
  found_integer v family .waiterCapacity (by decide)
    (fun value => ⟨{ standard with waiterCapacity := value }, rfl⟩) (fun _ => Iff.rfl)
    fun _ _ => natural64?_eq_ok_iff.symm

theorem found_order : Variable.order.Found v family Settings.order
    (orderIn v (family ++ "_ORDER") standard.order) := by
  refine found_of v family .order (fun _ => .order) (fun unset => ?_) (fun raw set => ?_)
    (fun value => ⟨{ standard with order := value }, rfl⟩) (fun _ => Iff.rfl)
    (fun _ _ => ServingOrder.ofWord?_eq_ok_iff.symm) (fun raw word set refused => ?_)
  · rw [name] at unset
    rw [orderIn, unset]
  · rw [name] at set
    rw [orderIn, set]
  · exact ⟨raw, set, by rw [ServingOrder.ofWord?_eq_error refused]⟩

theorem found_defaultPriority : Variable.defaultPriority.Found v family Settings.defaultPriority
    (integerIn v (family ++ "_DEFAULT_PRIORITY") signed64? standard.defaultPriority) :=
  found_integer v family .defaultPriority (by decide)
    (fun value => ⟨{ standard with defaultPriority := value }, rfl⟩) (fun _ => Iff.rfl)
    fun _ _ => signed64?_eq_ok_iff.symm

end Found

/-! ### What is read -/

section Reading

variable {v : Variables} {family : String}

/-- All variables say these settings. -/
def SaidBy (v : Variables) (family : String) (s : Settings) : Prop :=
  ∀ x : Variable, x.Says v family s

theorem SaidBy.not_malformed {s : Settings} (said : SaidBy v family s) (x : Variable) :
    ¬x.Malformed v family := by
  rintro ⟨raw, set, nothing⟩
  have meant := said x
  simp only [Says, set] at meant
  exact nothing s meant

theorem place_inj {x y : Variable} (same : x.place = y.place) : x = y := by
  cases x <;> cases y <;> first | rfl | cases same

/-- The first malformed variable is the only one that is first. -/
theorem Variable.FirstMalformed.unique {x y : Variable} (hx : FirstMalformed v family x)
    (hy : FirstMalformed v family y) : x = y := by
  rcases Nat.lt_trichotomy x.place y.place with before | same | after
  · exact absurd hx.malformed (hy.earlier x before)
  · exact place_inj same
  · exact absurd hy.malformed (hx.earlier y after)

/-- One more variable has been read. -/
theorem proper_upto (x : Variable)
    (earlier : ∀ y : Variable, y.place < x.place → ¬y.Malformed v family)
    (proper : ¬x.Malformed v family) :
    ∀ y : Variable, y.place < x.place + 1 → ¬y.Malformed v family := by
  intro y before
  rcases Nat.lt_succ_iff_lt_or_eq.1 before with before | same
  · exact earlier y before
  · rw [place_inj same]
    exact proper

/-- Every environment either has a malformed variable, and the first is reported, or it says
settings, and these are validated. -/
theorem ofVariables?_cases (v : Variables) (family : String) :
    (∃ x fault, FirstMalformed v family x ∧ x.Reports v family fault ∧
      ofVariables? v family = .error fault) ∨
    ∃ s, (∀ s', SaidBy v family s' ↔ s' = s) ∧
      ofVariables? v family = s.validated.mapError .invalid := by
  unfold ofVariables?
  have earlier₁ : ∀ y : Variable, y.place < 0 → ¬y.Malformed v family :=
    fun y before => absurd before (Nat.not_lt_zero _)
  rcases found_maxResources v family with
    ⟨maxResources, read₁, proper, said₁⟩ | ⟨fault, read₁, malformed, reports⟩
  case inr =>
    exact .inl ⟨.maxResources, fault, ⟨malformed, earlier₁⟩, reports, by rw [read₁]; rfl⟩
  have earlier₂ := proper_upto .maxResources earlier₁ proper
  rcases found_waiterCapacity v family with
    ⟨waiterCapacity, read₂, proper, said₂⟩ | ⟨fault, read₂, malformed, reports⟩
  case inr =>
    exact .inl ⟨.waiterCapacity, fault, ⟨malformed, earlier₂⟩, reports, by
      rw [read₁, read₂]; rfl⟩
  have earlier₃ := proper_upto .waiterCapacity earlier₂ proper
  rcases found_order v family with
    ⟨order, read₃, proper, said₃⟩ | ⟨fault, read₃, malformed, reports⟩
  case inr =>
    exact .inl ⟨.order, fault, ⟨malformed, earlier₃⟩, reports, by
      rw [read₁, read₂, read₃]; rfl⟩
  have earlier₄ := proper_upto .order earlier₃ proper
  rcases found_defaultPriority v family with
    ⟨defaultPriority, read₄, -, said₄⟩ | ⟨fault, read₄, malformed, reports⟩
  case inr =>
    exact .inl ⟨.defaultPriority, fault, ⟨malformed, earlier₄⟩, reports, by
      rw [read₁, read₂, read₃, read₄]; rfl⟩
  refine .inr ⟨⟨maxResources, waiterCapacity, order, defaultPriority⟩, fun s => ⟨?_, ?_⟩, by
    rw [read₁, read₂, read₃, read₄]; rfl⟩
  · intro said
    obtain ⟨m, w, o, p⟩ := s
    obtain rfl : m = maxResources := (said₁ _).1 (said .maxResources)
    obtain rfl : w = waiterCapacity := (said₂ _).1 (said .waiterCapacity)
    obtain rfl : o = order := (said₃ _).1 (said .order)
    obtain rfl : p = defaultPriority := (said₄ _).1 (said .defaultPriority)
    rfl
  · rintro rfl x
    cases x with
    | maxResources => exact (said₁ _).2 rfl
    | waiterCapacity => exact (said₂ _).2 rfl
    | order => exact (said₃ _).2 rfl
    | defaultPriority => exact (said₄ _).2 rfl

/-! ### Errors -/

theorem not_reports_invalid {fault : Fault} (x : Variable) :
    ¬x.Reports v family (.invalid fault) := by
  cases x with
  | order =>
    rintro ⟨raw, -, same⟩
    cases same
  | maxResources | waiterCapacity | defaultPriority =>
    rintro ⟨raw, reason, -, same⟩
    cases same

theorem validated_eq_ok_iff {s s' : Settings} :
    s.validated.mapError VariableFault.invalid = .ok s' ↔ s = s' ∧ s.validate = .ok () := by
  cases checked : s.validate with
  | ok => simp [validated_of_ok checked]
  | error fault => simp [validated_of_error checked]

theorem validated_eq_error_iff {s : Settings} {fault : VariableFault} :
    s.validated.mapError VariableFault.invalid = .error fault ↔
      ∃ reason, s.validate = .error reason ∧ fault = .invalid reason := by
  cases checked : s.validate with
  | ok => simp [validated_of_ok checked]
  | error reason => simp [validated_of_error checked, eq_comm]

/-- Settings are read just where the variables say them, and they are valid. -/
theorem ofVariables?_eq_ok_iff {s : Settings} :
    ofVariables? v family = .ok s ↔ SaidBy v family s ∧ s.validate = .ok () := by
  rcases ofVariables?_cases v family with ⟨x, fault, first, -, refused⟩ | ⟨only, said, read⟩
  · rw [refused]
    constructor
    · intro accepted
      cases accepted
    · rintro ⟨saidToo, -⟩
      exact absurd first.malformed (saidToo.not_malformed x)
  · rw [read, validated_eq_ok_iff, said]
    constructor
    · rintro ⟨rfl, valid⟩
      exact ⟨rfl, valid⟩
    · rintro ⟨rfl, valid⟩
      exact ⟨rfl, valid⟩

/-- The first malformed variable is reported. -/
theorem ofVariables?_first {x : Variable} (first : x.FirstMalformed v family) :
    ∃ fault, x.Reports v family fault ∧ ofVariables? v family = .error fault := by
  rcases ofVariables?_cases v family with ⟨y, fault, also, reports, refused⟩ | ⟨s, said, -⟩
  · rw [first.unique also]
    exact ⟨fault, reports, refused⟩
  · have proper := ((said s).2 rfl).not_malformed
    exact absurd first.malformed (proper x)

/-- Settings are refused as not valid just where all variables say them. -/
theorem ofVariables?_invalid_iff {reason : Fault} :
    ofVariables? v family = .error (.invalid reason) ↔
      (∀ x : Variable, ¬x.Malformed v family) ∧
        ∃ s, SaidBy v family s ∧ s.validate = .error reason := by
  rcases ofVariables?_cases v family with ⟨x, fault, first, reports, refused⟩ | ⟨only, said, read⟩
  · rw [refused]
    constructor
    · intro invalid
      cases invalid
      exact absurd reports (not_reports_invalid x)
    · rintro ⟨proper, -⟩
      exact absurd first.malformed (proper x)
  · rw [read, validated_eq_error_iff]
    constructor
    · rintro ⟨_, invalid, same⟩
      cases same
      exact ⟨((said only).2 rfl).not_malformed, only, (said only).2 rfl, invalid⟩
    · rintro ⟨-, s, saidToo, invalid⟩
      obtain rfl := (said s).1 saidToo
      exact ⟨reason, invalid, rfl⟩

/-- An error is given just where a variable is malformed, or what all of them say is not valid. -/
theorem ofVariables?_fails_iff :
    (∃ fault, ofVariables? v family = .error fault) ↔
      (∃ x : Variable, x.Malformed v family) ∨
        ∃ s, SaidBy v family s ∧ ∃ reason, s.validate = .error reason := by
  rcases ofVariables?_cases v family with ⟨x, fault, first, -, refused⟩ | ⟨only, said, read⟩
  · constructor
    · intro _
      exact .inl ⟨x, first.malformed⟩
    · intro _
      exact ⟨fault, refused⟩
  · have proper := ((said only).2 rfl).not_malformed
    constructor
    · rintro ⟨fault, refused⟩
      rw [read, validated_eq_error_iff] at refused
      obtain ⟨reason, invalid, -⟩ := refused
      exact .inr ⟨only, (said only).2 rfl, reason, invalid⟩
    · rintro (⟨x, malformed⟩ | ⟨s, saidToo, reason, invalid⟩)
      · exact absurd malformed (proper x)
      · exact ⟨.invalid reason, ofVariables?_invalid_iff.2 ⟨proper, s, saidToo, invalid⟩⟩

end Reading

end Settings

end Custody
