import Custody.Proofs.Json.Grammar

/-!
# Values that are skipped

Getting past a value leaves what follows it, exactly, however deep its brackets nest.

* `skipText_eq`, `skipNumber_eq`: past texts and numbers;
* `skipOpen_written`: past a value, and past the items of a bracket;
* `skipValue_eq`: past one value of any kind.
-/

namespace Custody.Json

open Decimal.Integer (IsDigits)

variable {rest : List Char} {place : Position}

/-! ### Blanks -/

namespace Input

theorem skipBlank_append {blanks : List Char} (blank : Blanks blanks) (rest : List Char)
    (place : Position) :
    skipBlank ⟨blanks ++ rest, place⟩ = skipBlank ⟨rest, place.afterAll blanks⟩ := by
  induction blanks generalizing place with
  | nil => rfl
  | cons c blanks ih =>
    have first : isBlank c = true := blank c List.mem_cons_self
    have others := ih (fun d mem => blank d (List.mem_cons_of_mem c mem)) (place.after c)
    rw [skipBlank, List.cons_append, skipFrom, if_pos first]
    exact others

/-- Up to what is no blank. -/
theorem skipBlank_eq {blanks : List Char} (blank : Blanks blanks) {c : Char}
    (solid : isBlank c = false) (rest : List Char) (place : Position) :
    skipBlank ⟨blanks ++ c :: rest, place⟩ = ⟨c :: rest, place.afterAll blanks⟩ := by
  rw [skipBlank_append blank, skipBlank_of_not_blank solid]

end Input

/-! ### Texts -/

theorem skipEscape_letter {c : Char} (simple : (simpleEscape? c).isSome = true)
    (rest : List Char) (place : Position) :
    skipEscape ⟨c :: rest, place⟩ = .ok ⟨rest, place.after c⟩ := by
  obtain ⟨escaped, known⟩ := Option.isSome_iff_exists.1 simple
  have unit : c ≠ 'u' := by
    rintro rfl
    cases known
  simp [skipEscape, known, Input.eat]

theorem skipEscape_unit {a b c d : Char} (digits : (hexUnit? a b c d).isSome = true)
    (rest : List Char) (place : Position) :
    skipEscape ⟨'u' :: a :: b :: c :: d :: rest, place⟩ =
      .ok ⟨rest, place.afterAll ['u', a, b, c, d]⟩ := by
  obtain ⟨unit, known⟩ := Option.isSome_iff_exists.1 digits
  simp [skipEscape, readUnit, known, Input.eat, Position.afterAll]

theorem skipText_escape {text : List Char} {next : Input}
    (escape : skipEscape ⟨text, place.after '\\'⟩ = .ok next) :
    skipText ⟨'\\' :: text, place⟩ = skipText next := by
  rw [skipText]
  split
  · rename_i refused
    rw [escape] at refused
    cases refused
  · rename_i taken
    rw [escape] at taken
    cases taken
    rfl

theorem skipText_eq {text : List Char} (chars : Chars text) (rest : List Char)
    (place : Position) :
    skipText ⟨text ++ '"' :: rest, place⟩ = .ok ⟨rest, place.afterAll (text ++ ['"'])⟩ := by
  induction chars generalizing place with
  | nil => simp [skipText, Position.afterAll]
  | @plain c text quotes backslash control _ ih =>
    rw [List.cons_append, skipText, if_neg control, ih (place.after c)]
    · rfl
    · exact quotes
    · exact backslash
  | @letter c text simple _ ih =>
    have escape := skipEscape_letter simple (text ++ '"' :: rest) (place.after '\\')
    rw [List.cons_append, List.cons_append, skipText_escape escape, ih]
    rfl
  | @unit a b c d text digits _ ih =>
    have escape := skipEscape_unit digits (text ++ '"' :: rest) (place.after '\\')
    simp only [List.cons_append]
    rw [skipText_escape escape, ih]
    rfl

/-! ### Numbers -/

section Numbers

variable {whole fraction exponent digits : List Char}

theorem startsWith_isDigit (proper : IsDigits digits) (rest : List Char) (place : Position) :
    startsWith Char.isDigit ⟨digits ++ rest, place⟩ = true := by
  cases digits with
  | nil => exact absurd rfl proper.some
  | cons c digits => exact proper.all c List.mem_cons_self

theorem skipDigits_eq (all : ∀ c ∈ digits, c.isDigit = true) (ends : Undigited rest)
    (place : Position) :
    Input.skipDigits ⟨digits ++ rest, place⟩ = ⟨rest, place.afterAll digits⟩ :=
  Input.skipFrom_span all ends

theorem skipExponent_eq {sign : List Char} (signed : sign = [] ∨ sign = ['+'] ∨ sign = ['-'])
    (proper : IsDigits digits) (ends : Undigited rest) (place : Position) :
    skipExponent ⟨sign ++ (digits ++ rest), place⟩ =
      .ok ⟨rest, place.afterAll (sign ++ digits)⟩ := by
  have past : (exponentSign ⟨sign ++ (digits ++ rest), place⟩).2 =
      ⟨digits ++ rest, place.afterAll sign⟩ := by
    rcases signed with rfl | rfl | rfl
    · cases digits with
      | nil => exact absurd rfl proper.some
      | cons c digits =>
        have digit : c.isDigit = true := proper.all c List.mem_cons_self
        unfold exponentSign
        split
        · rename_i front
          cases front
          cases digit
        · rename_i front
          cases front
          cases digit
        · rfl
    · rfl
    · rfl
  rw [skipExponent]
  simp only [past, startsWith_isDigit proper, if_true, skipDigits_eq proper.all ends,
    Position.afterAll_append]

theorem exponentMark_cases {mark : Char} (known : isExponentMark mark = true) :
    mark = 'e' ∨ mark = 'E' := by
  simpa [isExponentMark] using known

theorem undigited_exponent (e : Exponent exponent) (ends : NumberEnds rest) :
    Undigited (exponent ++ rest) := by
  cases e with
  | none => exact ends.digit
  | digits known =>
    intro c first
    cases first
    rcases exponentMark_cases known with rfl | rfl <;> rfl

theorem undigited_fraction (f : Fraction fraction) (e : Exponent exponent)
    (ends : NumberEnds rest) : Undigited (fraction ++ (exponent ++ rest)) := by
  cases f with
  | none =>
    rw [List.nil_append]
    exact undigited_exponent e ends
  | digits =>
    intro c first
    cases first
    rfl

theorem skipPower_eq (e : Exponent exponent) (ends : NumberEnds rest) (place : Position) :
    (if startsWith isExponentMark ⟨exponent ++ rest, place⟩ then
      skipExponent (Input.eat ⟨exponent ++ rest, place⟩) else .ok ⟨exponent ++ rest, place⟩) =
        .ok ⟨rest, place.afterAll exponent⟩ := by
  cases e with
  | none =>
    have bare : startsWith isExponentMark ⟨rest, place⟩ = false := by
      cases rest with
      | nil => rfl
      | cons c rest => exact (ends c rfl).2.2
    simp [bare, Position.afterAll]
  | @digits mark sign digits known signed proper =>
    have past := skipExponent_eq signed proper ends.digit (place.after mark)
    simp only [List.cons_append, List.append_assoc, startsWith, known, if_true, Input.eat, past]
    rfl

/-- Unless there is a fraction, all that may follow is an exponent. -/
theorem skipTail_of_not_point {i : Input} (bare : ∀ more, i.chars ≠ '.' :: more) :
    skipTail i = if startsWith isExponentMark i then skipExponent i.eat else .ok i := by
  unfold skipTail
  split
  · rename_i front
    exact absurd front (bare _)
  · rename_i front
    simp [startsWith, front, isExponentMark]
  · rename_i front
    simp [startsWith, front, isExponentMark]
  · rename_i small large
    have ends : startsWith isExponentMark i = false := by
      obtain ⟨chars, place⟩ := i
      cases chars with
      | nil => rfl
      | cons c rest =>
        cases known : isExponentMark c with
        | false => exact known
        | true =>
          rcases exponentMark_cases known with rfl | rfl
          · exact absurd rfl (small rest)
          · exact absurd rfl (large rest)
    rw [ends]
    rfl

theorem not_point_exponent (e : Exponent exponent) (ends : NumberEnds rest) (more : List Char) :
    exponent ++ rest ≠ '.' :: more := by
  intro point
  cases e with
  | none => exact (ends '.' (by rw [show rest = _ from point]; rfl)).2.1 rfl
  | digits known =>
    cases point
    cases known

theorem skipTail_eq (f : Fraction fraction) (e : Exponent exponent) (ends : NumberEnds rest)
    (place : Position) :
    skipTail ⟨fraction ++ (exponent ++ rest), place⟩ =
      .ok ⟨rest, place.afterAll (fraction ++ exponent)⟩ := by
  cases f with
  | none =>
    rw [List.nil_append, skipTail_of_not_point (not_point_exponent e ends)]
    exact skipPower_eq e ends place
  | @digits digits proper =>
    have digit := startsWith_isDigit proper (exponent ++ rest) (place.after '.')
    have past := skipDigits_eq proper.all (undigited_exponent e ends) (place.after '.')
    have power := skipPower_eq e ends ((place.after '.').afterAll digits)
    simp only [List.cons_append, skipTail, Input.eat, digit, past, if_true]
    rw [← Position.afterAll_append] at power
    exact power

/-- All digits are passed, if the first is not zero. -/
theorem skipNumber_of_digit {i : Input} {c : Char} (front : i.chars = c :: rest)
    (nonzero : c ≠ '0') (digit : c.isDigit = true) : skipNumber i = skipTail i.skipDigits := by
  obtain ⟨chars, place⟩ := i
  obtain rfl : chars = c :: rest := front
  simp [skipNumber, digit]

theorem skipNumber_eq (w : Whole whole) (f : Fraction fraction) (e : Exponent exponent)
    (ends : NumberEnds rest) (place : Position) :
    skipNumber ⟨whole ++ (fraction ++ (exponent ++ rest)), place⟩ =
      .ok ⟨rest, place.afterAll (whole ++ (fraction ++ exponent))⟩ := by
  have undigited := undigited_fraction f e ends
  cases w with
  | zero =>
    have bare : startsWith Char.isDigit ⟨fraction ++ (exponent ++ rest), place.after '0'⟩ =
        false := by
      cases tail : fraction ++ (exponent ++ rest) with
      | nil => rfl
      | cons c more => exact undigited c (by rw [tail]; rfl)
    simp only [List.cons_append, List.nil_append, skipNumber, Input.eat, bare,
      skipTail_eq f e ends]
    rfl
  | @digits c digits first nonzero others =>
    have all := (Whole.digits first nonzero others).all
    have past := skipDigits_eq all undigited place
    have tail := skipTail_eq f e ends (place.afterAll (c :: digits))
    rw [skipNumber_of_digit rfl nonzero first, past, tail, ← Position.afterAll_append]

end Numbers

/-! ### Values -/

theorem expectWord_eq (word rest : List Char) (place : Position) :
    expectWord word ⟨word ++ rest, place⟩ = .ok ⟨rest, place.afterAll word⟩ := by
  induction word generalizing place with
  | nil => rfl
  | cons c word ih =>
    rw [expectWord]
    simp only [List.cons_append, if_true, Input.eat, ih (place.after c)]
    rfl

/-- The start of an item: past its key, in an object. -/
def enter (bracket : Bracket) (outer : List Bracket) (i : Input) : Except Fault Input :=
  match bracket with
  | .list => skipOpen .value (.list :: outer) i
  | .object =>
    match skipKey i with
    | .error fault => .error fault
    | .ok rest => skipOpen .value (.object :: outer) rest

theorem enter_object (outer : List Bracket) (i : Input) :
    (match _key : skipKey i with
      | .error fault => .error fault
      | .ok rest => skipOpen .value (.object :: outer) rest) = enter .object outer i := by
  unfold enter
  split <;> rename_i key <;> simp only [key]

section Steps

variable {c : Char} {blanks more : List Char} {next : Input} {bracket : Bracket}
  {brackets : List Bracket}

/-- A value without brackets is passed at once. -/
theorem skipOpen_scalar (solid : Input.isBlank c = false) (bare : ∀ b : Bracket, c ≠ b.opening)
    (scalar : skipScalar ⟨c :: more, place⟩ = .ok next) :
    skipOpen .value brackets ⟨c :: more, place⟩ = skipOpen .separator brackets next := by
  rw [skipOpen.eq_def, Input.skipBlank_of_not_blank solid]
  simp only
  split
  · rename_i found
    cases found
    exact absurd rfl (bare .list)
  · rename_i found
    cases found
    exact absurd rfl (bare .object)
  · split
    · rename_i refused
      rw [scalar] at refused
      cases refused
    · rename_i passed
      rw [scalar] at passed
      cases passed
      rfl

theorem skipOpen_opening (bracket : Bracket) (brackets : List Bracket) (rest : List Char)
    (place : Position) :
    skipOpen .value brackets ⟨bracket.opening :: rest, place⟩ =
      skipOpen .first (bracket :: brackets) ⟨rest, place.after bracket.opening⟩ := by
  rw [skipOpen.eq_def, Input.skipBlank_of_not_blank bracket.isBlank_opening]
  cases bracket <;> rfl

theorem skipOpen_first (blank : Blanks blanks) (solid : Input.isBlank c = false)
    (inner : c ≠ bracket.closing) :
    skipOpen .first (bracket :: brackets) ⟨blanks ++ c :: more, place⟩ =
      enter bracket brackets ⟨c :: more, place.afterAll blanks⟩ := by
  rw [skipOpen.eq_def, Input.skipBlank_eq blank solid]
  simp only [if_neg inner]
  cases bracket with
  | list => rfl
  | object => exact enter_object _ _

theorem skipOpen_comma (bracket : Bracket) (brackets : List Bracket) (rest : List Char)
    (place : Position) :
    skipOpen .separator (bracket :: brackets) ⟨',' :: rest, place⟩ =
      enter bracket brackets ⟨rest, place.after ','⟩ := by
  rw [skipOpen.eq_def, Input.skipBlank_of_not_blank (c := ',') rfl]
  cases bracket with
  | list => rfl
  | object => exact enter_object _ _

theorem skipOpen_closing {expecting : Expecting} (inside : expecting ≠ .value)
    (blank : Blanks blanks) (bracket : Bracket) (brackets : List Bracket) (rest : List Char)
    (place : Position) :
    skipOpen expecting (bracket :: brackets) ⟨blanks ++ bracket.closing :: rest, place⟩ =
      skipOpen .separator brackets ⟨rest, place.afterAll (blanks ++ [bracket.closing])⟩ := by
  have solid : Input.isBlank bracket.closing = false := by cases bracket <;> rfl
  rw [skipOpen.eq_def, Input.skipBlank_eq blank solid, Position.afterAll_append]
  cases expecting with
  | value => exact absurd rfl inside
  | first | separator =>
    simp only [if_true]
    rfl

/-- Blanks in front of a value are no matter. -/
theorem skipOpen_blanks (blank : Blanks blanks) (brackets : List Bracket) (rest : List Char)
    (place : Position) :
    skipOpen .value brackets ⟨blanks ++ rest, place⟩ =
      skipOpen .value brackets ⟨rest, place.afterAll blanks⟩ := by
  rw [skipOpen.eq_def, skipOpen.eq_def _ _ ⟨rest, _⟩, Input.skipBlank_append blank]

/-- Nor are blanks behind one, inside a bracket, -/
theorem skipOpen_separator_blanks (blank : Blanks blanks) (bracket : Bracket)
    (brackets : List Bracket) (rest : List Char) (place : Position) :
    skipOpen .separator (bracket :: brackets) ⟨blanks ++ rest, place⟩ =
      skipOpen .separator (bracket :: brackets) ⟨rest, place.afterAll blanks⟩ := by
  rw [skipOpen.eq_def, skipOpen.eq_def _ _ ⟨rest, _⟩, Input.skipBlank_append blank]

/-- nor those in front of an item. -/
theorem enter_blanks (blank : Blanks blanks) (bracket : Bracket) (brackets : List Bracket)
    (rest : List Char) (place : Position) :
    enter bracket brackets ⟨blanks ++ rest, place⟩ =
      enter bracket brackets ⟨rest, place.afterAll blanks⟩ := by
  cases bracket with
  | list => exact skipOpen_blanks blank _ rest place
  | object =>
    have key : skipKey ⟨blanks ++ rest, place⟩ = skipKey ⟨rest, place.afterAll blanks⟩ := by
      rw [skipKey, skipKey, Input.skipBlank_append blank]
    simp only [enter, key]

end Steps

theorem skipKey_eq {before text blanks : List Char} (front : Blanks before) (chars : Chars text)
    (blank : Blanks blanks) (rest : List Char) (place : Position) :
    skipKey ⟨before ++ '"' :: (text ++ '"' :: (blanks ++ ':' :: rest)), place⟩ =
      .ok ⟨rest, place.afterAll (before ++ '"' :: (text ++ '"' :: (blanks ++ [':'])))⟩ := by
  have key := skipText_eq chars (blanks ++ ':' :: rest) ((place.afterAll before).after '"')
  have colon : Input.isBlank ':' = false := rfl
  unfold skipKey
  simp only [Input.skipBlank_eq front (c := '"') rfl, Input.eat, key,
    Input.skipBlank_eq blank colon]
  simp [Position.afterAll]

/-- The key of an item is passed with its colon, and blanks around it are no matter. -/
theorem enter_eq {bracket : Bracket} {before label : List Char} (front : Blanks before)
    (labelled : Label bracket label) (outer : List Bracket) (rest : List Char)
    (place : Position) :
    enter bracket outer ⟨before ++ (label ++ rest), place⟩ =
      skipOpen .value (bracket :: outer) ⟨rest, place.afterAll (before ++ label)⟩ := by
  cases labelled with
  | item =>
    rw [List.append_nil]
    exact skipOpen_blanks front _ rest place
  | @key text blanks chars blank =>
    have key := skipKey_eq front chars blank rest place
    simp only [List.cons_append, List.append_assoc, List.nil_append, enter, key]

/-- A number is told by its first digit. -/
theorem skipScalar_digit {c : Char} {more : List Char} (digit : c.isDigit = true)
    (place : Position) : skipScalar ⟨c :: more, place⟩ = skipNumber ⟨c :: more, place⟩ := by
  unfold skipScalar
  split
  case h_7 =>
    rename_i found
    cases found
    rw [if_pos digit]
  all_goals
    rename_i found
    cases found
    try cases digit

theorem opening_cases {c : Char} (list : c ≠ '[') (object : c ≠ '{') (b : Bracket) :
    c ≠ b.opening := by
  cases b with
  | list => exact list
  | object => exact object

/-- A value is passed, whatever brackets are open around it, and so are the items of a bracket,
up to where a comma or the end of the bracket may follow. -/
theorem skipOpen_written {part : Part} {text : List Char} (written : Written part text) :
    ∀ (rest : List Char) (place : Position) (outer : List Bracket), NumberEnds rest →
      match part with
      | .value => skipOpen .value outer ⟨text ++ rest, place⟩ =
          skipOpen .separator outer ⟨rest, place.afterAll text⟩
      | .items bracket => enter bracket outer ⟨text ++ rest, place⟩ =
          skipOpen .separator (bracket :: outer) ⟨rest, place.afterAll text⟩ := by
  induction written with
  | null =>
    intro rest place outer _
    exact skipOpen_scalar (c := 'n') rfl (opening_cases (by decide) (by decide))
      (expectWord_eq ['u', 'l', 'l'] rest (place.after 'n'))
  | yes =>
    intro rest place outer _
    exact skipOpen_scalar (c := 't') rfl (opening_cases (by decide) (by decide))
      (expectWord_eq ['r', 'u', 'e'] rest (place.after 't'))
  | no =>
    intro rest place outer _
    exact skipOpen_scalar (c := 'f') rfl (opening_cases (by decide) (by decide))
      (expectWord_eq ['a', 'l', 's', 'e'] rest (place.after 'f'))
  | @number whole fraction exponent w f e =>
    intro rest place outer ends
    have past := skipNumber_eq w f e ends place
    obtain ⟨c, digits, rfl, digit⟩ := w.front
    simp only [List.append_assoc, List.cons_append] at past ⊢
    rw [← skipScalar_digit digit] at past
    exact skipOpen_scalar (Input.isBlank_of_isDigit digit)
      (opening_cases (ne_of_isDigit digit rfl) (ne_of_isDigit digit rfl)) past
  | @minus whole fraction exponent w f e =>
    intro rest place outer ends
    have past := skipNumber_eq w f e ends (place.after '-')
    simp only [List.append_assoc, List.cons_append]
    exact skipOpen_scalar (c := '-') rfl (opening_cases (by decide) (by decide)) past
  | text chars =>
    intro rest place outer ends
    have past := skipText_eq chars rest (place.after '"')
    simp only [List.append_assoc, List.cons_append]
    exact skipOpen_scalar (c := '"') rfl (opening_cases (by decide) (by decide)) past
  | @empty blanks bracket blank =>
    intro rest place outer _
    simp only [List.append_assoc, List.cons_append, List.nil_append]
    rw [skipOpen_opening, skipOpen_closing (by decide) blank]
    rfl
  | @full bracket items inside ih =>
    intro rest place outer _
    have past := ih _ (place.after bracket.opening) outer (numberEnds_closing bracket rest)
    have closing : skipOpen .separator (bracket :: outer)
        ⟨[] ++ bracket.closing :: rest, (place.after bracket.opening).afterAll items⟩ = _ :=
      skipOpen_closing (by decide) (by simp [Blanks]) bracket outer rest _
    obtain ⟨blanks, c, more, rfl, blank, solid, inner⟩ := inside.items_front
    simp only [List.append_assoc, List.cons_append, List.nil_append] at past closing ⊢
    rw [enter_blanks blank] at past
    rw [skipOpen_opening, skipOpen_first blank solid inner, past, closing]
    simp [Position.afterAll]
  | @item bracket before label between value behind front labelled middle written back ih =>
    intro rest place outer ends
    have past := ih _ ((place.afterAll (before ++ label)).afterAll between) (bracket :: outer)
      (back.numberEnds ends)
    simp only [List.append_assoc] at past ⊢
    rw [enter_eq front labelled, skipOpen_blanks middle, past, skipOpen_separator_blanks back]
    simp only [Position.afterAll_append]
  | @join bracket front back first others ihf iho =>
    intro rest place outer ends
    have before := ihf _ place outer (numberEnds_comma (back ++ rest))
    have behind := iho rest ((place.afterAll front).after ',') outer ends
    simp only at before behind
    simp only [List.append_assoc, List.cons_append]
    rw [before, skipOpen_comma, behind, Position.afterAll_append]
    rfl

/-- Past one value of any kind, and no further. -/
theorem skipValue_eq {blanks text : List Char} (blank : Blanks blanks)
    (written : Written .value text) (ends : NumberEnds rest) (place : Position) :
    skipValue ⟨blanks ++ (text ++ rest), place⟩ = .ok ⟨rest, place.afterAll (blanks ++ text)⟩ := by
  have past := skipOpen_written written rest (place.afterAll blanks) [] ends
  rw [skipValue, skipOpen_blanks blank, past, Position.afterAll_append]
  rw [skipOpen.eq_def]

end Custody.Json
