import Custody.Proofs.Json.Skipping

/-!
# What readers make of any value

A reader of one kind of value takes the values of that kind and refuses all others, whatever
stands around them.

* `Tells`: which values a reader takes, and for what;
* `tells_natural`, `tells_signed`: integers of 64 bits in their one written form;
* `tells_name`: known names, in any spelling.
-/

namespace Custody.Json

open Decimal (toList_natural toList_signed toDigits_append toDigits_of_isDigit)

/-- Of all values the reader takes those that `means` relates to a value, and for that value.
Blanks in front are no matter. -/
structure Tells {α : Type} (read : Input → Except Fault (α × Input))
    (means : List Char → α → Prop) : Prop where
  blanks {blanks : List Char} : Blanks blanks → ∀ rest place,
    read ⟨blanks ++ rest, place⟩ = read ⟨rest, place.afterAll blanks⟩
  reads {text rest : List Char} {value : α} : means text value → NumberEnds rest →
    Reads read text value rest
  only {text rest : List Char} {place : Position} {value : α} {next : Input} :
    Written .value text → NumberEnds rest →
      read ⟨text ++ rest, place⟩ = .ok (value, next) → means text value

/-- A value is taken for one thing only. -/
theorem Tells.unique {α : Type} {read : Input → Except Fault (α × Input)}
    {means : List Char → α → Prop} (tells : Tells read means) {text : List Char} {value other : α}
    (said : means text value) (again : means text other) : value = other := by
  have ends : NumberEnds [] := by
    rintro c ⟨⟩
  have first := tells.reads said ends Position.start
  have second := tells.reads again ends Position.start
  rw [first] at second
  cases second
  rfl

variable {rest : List Char} {place : Position} {number : Number} {next i : Input}

/-! ### Numbers -/

section Numbers

variable {positive : Bool} {n left : Nat}

theorem realOf_ok {exponent : Int} (ok : realOf positive n exponent i = .ok (number, next)) :
    ∃ x, number = .real x := by
  unfold realOf at ok
  split at ok
  · cases ok
    exact ⟨_, rfl⟩
  · cases ok

theorem readExponent_ok {start : Int} (ok : readExponent positive n start i = .ok (number, next)) :
    ∃ x, number = .real x := by
  unfold readExponent at ok
  simp only at ok
  split at ok
  · cases ok
  · split at ok
    · split at ok
      · exact realOf_ok ok
      · split at ok
        · cases ok
        · cases ok
          exact ⟨_, rfl⟩
    · cases ok

theorem readFraction_ok {start : Int} (ok : readFraction positive n start i = .ok (number, next)) :
    ∃ x, number = .real x := by
  unfold readFraction at ok
  simp only at ok
  split at ok
  · cases ok
  · split at ok
    · exact readExponent_ok ok
    · exact realOf_ok ok

/-- Behind its integer digits a number is an integer only if it ends there. -/
theorem readTail_ok {fraction exponent : List Char} (f : Fraction fraction) (e : Exponent exponent)
    (ok : readTail positive n left ⟨fraction ++ (exponent ++ rest), place⟩ = .ok (number, next)) :
    (fraction ++ exponent = [] ∧ left = 0 ∧ number = integerOf positive n) ∨
      ∃ x, number = .real x := by
  cases f with
  | digits => exact .inr (readFraction_ok ok)
  | none =>
    cases e with
    | digits known =>
      rcases exponentMark_cases known with rfl | rfl
      · exact .inr (readExponent_ok ok)
      · exact .inr (readExponent_ok ok)
    | none =>
      unfold readTail at ok
      split at ok
      · exact .inr (readFraction_ok ok)
      · exact .inr (readExponent_ok ok)
      · exact .inr (readExponent_ok ok)
      · split at ok
        · rename_i whole
          cases ok
          exact .inl ⟨rfl, whole, rfl⟩
        · exact .inr (realOf_ok ok)

/-- If no digit is left, all were kept, and the limit is. -/
theorem absorb_whole {digits : List Char} (small : n ≤ significandLimit)
    (all : (absorb n digits).2.2 = 0) :
    (absorb n digits).1 = Nat.ofDigitChars 10 digits n ∧
      Nat.ofDigitChars 10 digits n ≤ significandLimit := by
  induction digits generalizing n with
  | nil => exact ⟨rfl, small⟩
  | cons c digits ih =>
    have larger : n * 10 + (c.toNat - 48) = 10 * n + (c.toNat - '0'.toNat) := by
      rw [Nat.mul_comm]
      rfl
    rw [absorb, larger] at all ⊢
    rw [Nat.ofDigitChars_cons]
    split at all
    · cases all
    · rename_i within
      rw [if_neg within]
      exact ih (Nat.le_of_not_lt within) all

/-- The integer digits of a number are those that the number is written with. -/
theorem Whole.eq_toDigits {whole : List Char} (w : Whole whole) :
    whole = Nat.toDigits 10 (Nat.ofDigitChars 10 whole 0) := by
  cases w with
  | zero => decide
  | @digits c digits first nonzero others =>
    have pos : 0 < c.toNat - '0'.toNat := by
      have low := (Char.isDigit_iff_toNat.1 first).1
      have other : c.toNat ≠ '0'.toNat := fun same => nonzero (Char.toNat_inj.1 same)
      omega
    have written := toDigits_append pos others
    rw [toDigits_of_isDigit first] at written
    rw [Nat.ofDigitChars_cons, Nat.mul_zero, Nat.zero_add, ← written]
    rfl

theorem readNumber_whole {whole : List Char} (w : Whole whole) (ends : Undigited rest)
    (positive : Bool) (place : Position) :
    readNumber positive ⟨whole ++ rest, place⟩ =
      readTail positive (absorb 0 whole).1 (absorb 0 whole).2.2 ⟨rest, place.afterAll whole⟩ := by
  cases w with
  | zero =>
    have bare : startsWith Char.isDigit ⟨rest, place.after '0'⟩ = false := by
      cases rest with
      | nil => rfl
      | cons c rest => exact ends c rfl
    simp only [List.cons_append, List.nil_append, readNumber, Input.eat, bare]
    rfl
  | @digits c digits first nonzero others =>
    have all := (Whole.digits first nonzero others).all
    rw [readNumber_eq rfl nonzero first, frontDigits_append all ends, skipDigits_eq all ends]

theorem readExpectedNumber_digit {c : Char} {more : List Char} (digit : c.isDigit = true)
    (expected : String) (place : Position) :
    readExpectedNumber expected ⟨c :: more, place⟩ = readNumber true ⟨c :: more, place⟩ := by
  have minus : c ≠ '-' := ne_of_isDigit digit rfl
  simp [readExpectedNumber, digit]

/-- How the text of a number that was read is written: an integer in the one form that it has. -/
inductive Denotes (text : List Char) : Number → Prop
  | natural {n : Nat} (small : n ≤ significandLimit) (digits : text = Nat.toDigits 10 n) :
      Denotes text (.natural n)
  | negative {n : Nat} (pos : 0 < n) (small : n ≤ Nat.pow 2 63)
      (digits : text = '-' :: Nat.toDigits 10 n) : Denotes text (.negative (-n))
  | real (x : Float) : Denotes text (.real x)

theorem denotes_of_readNumber {whole fraction exponent : List Char} (w : Whole whole)
    (f : Fraction fraction) (e : Exponent exponent) (ends : NumberEnds rest)
    (ok : readNumber positive ⟨whole ++ (fraction ++ (exponent ++ rest)), place⟩ =
      .ok (number, next)) :
    Denotes ((if positive then [] else ['-']) ++ (whole ++ (fraction ++ exponent))) number := by
  rw [readNumber_whole w (undigited_fraction f e ends)] at ok
  rcases readTail_ok f e ok with ⟨bare, left, rfl⟩ | ⟨x, rfl⟩
  · obtain ⟨value, small⟩ := absorb_whole (Nat.zero_le _) left
    have digits := w.eq_toDigits
    rw [bare, List.append_nil, value]
    cases positive with
    | true => exact .natural small digits
    | false =>
      unfold integerOf
      split
      · rename_i sign
        cases sign
      · split
        · exact .real _
        · rename_i range
          simp only [Bool.or_eq_true, decide_eq_true_eq] at range
          exact .negative (by omega) (by omega) (congrArg ('-' :: ·) digits)
  · exact .real x

/-- What is read as a number was a number. -/
theorem denotes_of_readExpectedNumber {text : List Char} {expected : String}
    (written : Written .value text) (ends : NumberEnds rest)
    (ok : readExpectedNumber expected ⟨text ++ rest, place⟩ = .ok (number, next)) :
    Denotes text number := by
  cases written with
  | null | yes | no | text => cases ok
  | empty bracket | @full bracket => cases bracket <;> cases ok
  | @number whole fraction exponent w f e =>
    obtain ⟨c, digits, front, digit⟩ := w.front
    rw [List.append_assoc, List.append_assoc] at ok
    have read : readNumber true ⟨whole ++ (fraction ++ (exponent ++ rest)), place⟩ =
        .ok (number, next) := by
      rw [front] at ok ⊢
      exact (readExpectedNumber_digit digit expected place).symm.trans ok
    exact denotes_of_readNumber w f e ends read
  | @minus whole fraction exponent w f e =>
    rw [List.cons_append, List.append_assoc, List.append_assoc] at ok
    have read : readNumber false ⟨whole ++ (fraction ++ (exponent ++ rest)), place.after '-'⟩ =
        .ok (number, next) := ok
    exact denotes_of_readNumber w f e ends read

end Numbers

theorem Written.skipBlank {text : List Char} (written : Written .value text) (rest : List Char)
    (place : Position) : Input.skipBlank ⟨text ++ rest, place⟩ = ⟨text ++ rest, place⟩ := by
  obtain ⟨c, more, rfl, solid, _⟩ := written.front
  exact Input.skipBlank_of_not_blank solid

/-- The text is what the integer is written as. -/
def Numeral {α : Type} [ToString α] (text : List Char) (value : α) : Prop :=
  text = (toString value).toList

/-- A reader of unsigned integers takes their one written form. -/
theorem tells_natural (expected : String) : Tells (readNatural expected) Numeral where
  blanks blank rest place := by
    unfold readNatural
    rw [Input.skipBlank_append blank]
  reads := by
    rintro text rest value rfl ends
    exact reads_natural value ends expected
  only := by
    intro text rest place value next written ends ok
    unfold readNatural at ok
    rw [written.skipBlank] at ok
    split at ok
    · cases ok
    · rename_i read
      have denotes := denotes_of_readExpectedNumber written ends read
      cases ok
      cases denotes with
      | natural small digits =>
        have size : UInt64.size = significandLimit + 1 := rfl
        rw [Numeral, toList_natural, UInt64.toNat_ofNat_of_lt' (by omega)]
        exact digits
    · cases ok
    · cases ok

/-- A reader of signed integers takes their one written form. -/
theorem tells_signed (expected : String) : Tells (readSigned expected) Numeral where
  blanks blank rest place := by
    unfold readSigned
    rw [Input.skipBlank_append blank]
  reads := by
    rintro text rest value rfl ends
    exact reads_signed value ends expected
  only := by
    intro text rest place value next written ends ok
    unfold readSigned at ok
    rw [written.skipBlank] at ok
    split at ok
    · cases ok
    · rename_i read
      have denotes := denotes_of_readExpectedNumber written ends read
      split at ok
      · rename_i inside
        cases ok
        cases denotes with
        | natural small digits =>
          rw [Numeral, toList_signed, Int64.toInt_ofNat_of_lt inside, if_pos (Int.natCast_nonneg _)]
          exact digits
      · cases ok
    · rename_i read
      have denotes := denotes_of_readExpectedNumber written ends read
      have power : Nat.pow 2 63 = 2 ^ 63 := rfl
      cases ok
      cases denotes with
      | @negative n pos small digits =>
        rw [Numeral, toList_signed, Int64.toInt_ofInt_of_le (by omega) (by omega),
          if_neg (by omega)]
        simpa using digits
    · cases ok

/-! ### Names -/

section Names

variable {α : Type} {c : Char} {cs escape text spelling : List Char}

theorem reads_escape (stands : Escape escape c) (rest : List Char) :
    Reads readEscape escape c rest := by
  cases stands with
  | letter simple => exact reads_letter simple
  | unit digits low high =>
    intro place
    simp [readEscape, readUnit, Input.eat, digits, low, high, Position.afterAll]
  | @pair a b c d a' b' c' d' n m first high second low =>
    intro place
    have other : isLowSurrogate n = false := by
      simp only [isHighSurrogate, Bool.and_eq_true, decide_eq_true_eq] at high
      simp only [isLowSurrogate, Bool.and_eq_false_iff, decide_eq_false_iff_not]
      omega
    simp [readEscape, readUnit, readLowUnit, Input.eat, first, high, other, second, low,
      Position.afterAll]

theorem reads_spelled (spells : Spells spelling cs) (rest : List Char) :
    Reads readChars (spelling ++ ['"']) cs rest := by
  induction spells with
  | nil =>
    intro place
    simp [readChars, Position.afterAll]
  | plain quotes backslash control _ ih => exact ih.plain quotes backslash control
  | @escaped c escape text cs stands _ ih =>
    have first := reads_escape stands (text ++ ['"'] ++ rest)
    rw [List.cons_append, List.append_assoc]
    exact ih.escaped first

/-- Only a second half is read behind the first half of a character. -/
theorem readLowUnit_ok {high : Nat} {next : Input} (chars : Chars text)
    (ok : readLowUnit high ⟨text ++ '"' :: rest, place⟩ = .ok (c, next)) :
    ∃ a b d e m more, text = '\\' :: 'u' :: a :: b :: d :: e :: more ∧
      hexUnit? a b d e = some m ∧ isLowSurrogate m = true ∧ Chars more ∧ c = pairedChar high m ∧
      next = ⟨more ++ '"' :: rest, place.afterAll ['\\', 'u', a, b, d, e]⟩ := by
  cases chars with
  | nil => cases ok
  | plain quotes backslash =>
    unfold readLowUnit at ok
    split at ok
    · cases ok
    · rename_i front
      cases front
      exact absurd rfl backslash
    · cases ok
  | @letter letter more simple others =>
    unfold readLowUnit at ok
    simp only [List.cons_append, Input.eat] at ok
    split at ok
    · cases ok
    · rename_i front
      cases front
      cases simple
    · cases ok
  | @unit a b d e more digits others =>
    obtain ⟨m, known⟩ := Option.isSome_iff_exists.1 digits
    simp only [List.cons_append, readLowUnit, Input.eat, readUnit, known] at ok
    split at ok
    · rename_i low
      simp only [Except.ok.injEq, Prod.mk.injEq] at ok
      obtain ⟨rfl, rfl⟩ := ok
      exact ⟨a, b, d, e, m, more, rfl, known, low, others, rfl, rfl⟩
    · cases ok

/-- What is read behind a backslash is an escape. -/
theorem readEscape_ok {next : Input} (chars : Chars ('\\' :: text))
    (ok : readEscape ⟨text ++ '"' :: rest, place⟩ = .ok (c, next)) :
    ∃ escape more, text = escape ++ more ∧ Escape escape c ∧ Chars more ∧
      next = ⟨more ++ '"' :: rest, place.afterAll escape⟩ := by
  cases chars with
  | plain _ backslash => exact absurd rfl backslash
  | @letter letter more simple others =>
    obtain ⟨known, simple⟩ := Option.isSome_iff_exists.1 simple
    have read : readEscape ⟨[letter] ++ (more ++ '"' :: rest), place⟩ = _ :=
      reads_letter simple place
    rw [List.cons_append] at ok
    cases read.symm.trans ok
    exact ⟨[letter], more, rfl, .letter simple, others, rfl⟩
  | @unit a b d e more digits others =>
    obtain ⟨n, known⟩ := Option.isSome_iff_exists.1 digits
    simp only [List.cons_append, readEscape, Input.eat, readUnit, known] at ok
    split at ok
    · cases ok
    · rename_i low
      split at ok
      · rename_i high
        obtain ⟨a', b', d', e', m, last, both, second, low', others, paired, left⟩ :=
          readLowUnit_ok others ok
        refine ⟨['u', a, b, d, e, '\\', 'u', a', b', d', e'], last, by simp [both],
          paired ▸ .pair known high second low', others, ?_⟩
        simp [left, Position.afterAll]
      · rename_i high
        simp only [Except.ok.injEq, Prod.mk.injEq] at ok
        obtain ⟨rfl, rfl⟩ := ok
        exact ⟨['u', a, b, d, e], more, rfl,
          .unit known (by simpa using low) (by simpa using high), others, rfl⟩

/-- What is read from a text is what it spells. -/
theorem spells_of_readChars {next : Input} (chars : Chars text)
    (ok : readChars ⟨text ++ '"' :: rest, place⟩ = .ok (cs, next)) : Spells text cs := by
  generalize input : Input.mk (text ++ '"' :: rest) place = i at ok
  fun_induction readChars i generalizing text place cs next with
  | case1 | case3 | case4 | case6 | case7 => cases ok
  | case2 =>
    cases ok
    cases chars with
    | nil => exact .nil
    | plain quotes =>
      cases input
      exact absurd rfl quotes
    | letter | unit => cases input
  | case5 back place' c left escaped cs last read ih =>
    cases ok
    cases text with
    | nil => cases input
    | cons d text =>
      cases input
      obtain ⟨escape, more, rfl, stands, others, rfl⟩ := readEscape_ok chars escaped
      exact .escaped stands (ih others rfl read)
  | case8 c back place' quotes backslash control cs last read ih =>
    cases ok
    cases chars with
    | nil =>
      cases input
      exact absurd rfl quotes
    | letter | unit =>
      cases input
      exact absurd rfl backslash
    | plain _ _ _ others =>
      cases input
      exact .plain quotes backslash control (ih others rfl read)

theorem reads_spelledText {name : String} (spells : Spells spelling name.toList)
    (rest : List Char) : Reads readText (spelling ++ ['"']) name rest := by
  intro place
  rw [readText, reads_spelled spells rest place]
  simp

theorem readText_ok {name : String} {next : Input} (chars : Chars text)
    (ok : readText ⟨text ++ '"' :: rest, place⟩ = .ok (name, next)) :
    Spells text name.toList ∧ next = ⟨rest, place.afterAll (text ++ ['"'])⟩ := by
  unfold readText at ok
  split at ok
  · cases ok
  · rename_i cs last read
    cases ok
    have spells := spells_of_readChars chars read
    have again := reads_spelled spells rest place
    rw [List.append_assoc, List.singleton_append, read] at again
    cases again
    exact ⟨by simpa using spells, rfl⟩

theorem readKnown_ok {known : List (String × α)} {value : α} {next : Input} (chars : Chars text)
    (ok : readKnown known ⟨text ++ '"' :: rest, place⟩ = .ok (value, next)) :
    ∃ name, Spells text name.toList ∧ known.lookup name = some value ∧
      next = ⟨rest, place.afterAll (text ++ ['"'])⟩ := by
  unfold readKnown at ok
  split at ok
  · cases ok
  · rename_i name last read
    obtain ⟨spells, rfl⟩ := readText_ok chars read
    split at ok
    · rename_i found
      cases ok
      exact ⟨name, spells, found, rfl⟩
    · cases ok

theorem readColon_eq {blanks : List Char} (blank : Blanks blanks) (rest : List Char)
    (place : Position) :
    readColon ⟨blanks ++ ':' :: rest, place⟩ = .ok ⟨rest, place.afterAll (blanks ++ [':'])⟩ := by
  simp only [readColon, Input.skipBlank_eq blank (c := ':') rfl, Input.eat,
    Position.afterAll_append]
  rfl

theorem readNull_blanks {blanks : List Char} (blank : Blanks blanks) (expected : String)
    (rest : List Char) (place : Position) :
    readNull expected ⟨blanks ++ rest, place⟩ =
      readNull expected ⟨rest, place.afterAll blanks⟩ := by
  rw [readNull, readNull, Input.skipBlank_append blank]

theorem readNull_eq (expected : String) (rest : List Char) (place : Position) :
    readNull expected ⟨'n' :: 'u' :: 'l' :: 'l' :: rest, place⟩ =
      .ok ⟨rest, place.afterAll ['n', 'u', 'l', 'l']⟩ :=
  expectWord_eq ['u', 'l', 'l'] rest (place.after 'n')

/-- Of all values only null is read as null. -/
theorem eq_null_of_readNull {value : List Char} {expected : String} {next : Input}
    (written : Written .value value)
    (ok : readNull expected ⟨value ++ rest, place⟩ = .ok next) : value = ['n', 'u', 'l', 'l'] := by
  cases written with
  | null => rfl
  | yes | no | minus | text => cases ok
  | empty bracket | @full bracket => cases bracket <;> cases ok
  | number w =>
    obtain ⟨c, digits, rfl, digit⟩ := w.front
    have solid := Input.isBlank_of_isDigit digit
    have other : c ≠ 'n' := ne_of_isDigit digit rfl
    simp [readNull, Input.skipBlank_of_not_blank solid, other] at ok

/-- What stands inside the brackets of an object starts with a member. -/
theorem Written.first_member {items : List Char} (inside : Written (.items .object) items) :
    ∃ before key between gap value behind more,
      items = before ++ '"' :: (key ++ '"' :: (between ++ ':' ::
        (gap ++ (value ++ (behind ++ more))))) ∧
      Blanks before ∧ Chars key ∧ Blanks between ∧ Blanks gap ∧ Written .value value ∧
      Blanks behind ∧ (more = [] ∨ ∃ others, more = ',' :: others) := by
  generalize part : Part.items .object = p at inside
  induction inside with
  | null | yes | no | number | minus | text | empty | full => cases part
  | item front labelled middle written back =>
    cases part
    cases labelled with
    | key chars blank =>
      exact ⟨_, _, _, _, _, _, [], by simp, front, chars, blank, middle, written, back, .inl rfl⟩
  | @join _ _ back _ _ ih =>
    cases part
    obtain ⟨before, key, between, gap, value, behind, more, rfl, front, chars, blank, middle,
      written, after, follows⟩ := ih rfl
    refine ⟨before, key, between, gap, value, behind, more ++ ',' :: back, by simp, front, chars,
      blank, middle, written, after, .inr ?_⟩
    rcases follows with rfl | ⟨others, rfl⟩
    · exact ⟨back, rfl⟩
    · exact ⟨others ++ ',' :: back, rfl⟩

/-- The values that a known name is read from: the name as a text, in any spelling, or an
object whose one member is null under the name. -/
inductive Names (known : List (String × α)) : List Char → α → Prop
  | text {spelling : List Char} {name : String} {value : α}
      (spells : Spells spelling name.toList) (found : known.lookup name = some value) :
      Names known ('"' :: (spelling ++ ['"'])) value
  | object {before spelling between gap behind : List Char} {name : String} {value : α}
      (front : Blanks before) (spells : Spells spelling name.toList)
      (found : known.lookup name = some value) (middle : Blanks between) (space : Blanks gap)
      (back : Blanks behind) :
      Names known ('{' :: (before ++ '"' :: (spelling ++ '"' :: (between ++ ':' ::
        (gap ++ 'n' :: 'u' :: 'l' :: 'l' :: (behind ++ ['}'])))))) value

theorem reads_known {known : List (String × α)} {name : String} {value : α}
    (spells : Spells spelling name.toList) (found : known.lookup name = some value)
    (rest : List Char) : Reads (readKnown known) (spelling ++ ['"']) value rest := by
  intro place
  rw [readKnown, reads_spelledText spells rest place]
  simp only [found]

theorem reads_names {known : List (String × α)} {value : α} (names : Names known text value)
    (rest : List Char) : Reads (readName known) text value rest := by
  intro place
  cases names with
  | text spells found =>
    have known := reads_known spells found rest (place.after '"')
    rw [List.cons_append]
    simp only [readName, Input.skipBlank_of_not_blank (c := '"') rfl, Input.eat, known]
    rfl
  | @object before spelling between gap behind name _ front spells found middle space back =>
    have quotes : Input.isBlank '"' = false := rfl
    have closing : Input.isBlank '}' = false := rfl
    have text := reads_known spells found (between ++ ':' ::
      (gap ++ 'n' :: 'u' :: 'l' :: 'l' :: (behind ++ '}' :: rest)))
    have key := text (((place.after '{').afterAll before).after '"')
    simp only [List.append_assoc, List.cons_append, List.nil_append] at key ⊢
    simp only [readName, Input.skipBlank_of_not_blank (c := '{') rfl, Input.eat,
      Input.skipBlank_eq front quotes, readKnownKey, key, readColon_eq middle,
      readNull_blanks space, readNull_eq, Input.skipBlank_eq back closing]
    simp [Position.afterAll]

/-- An object that is read for a name has one member, and that is null. -/
theorem readKnownKey_ok {known : List (String × α)} {key between gap value behind more : List Char}
    {result : α} {next : Input} (chars : Chars key) (middle : Blanks between) (space : Blanks gap)
    (written : Written .value value) (back : Blanks behind)
    (follows : more = [] ∨ ∃ others, more = ',' :: others)
    (ok : readKnownKey known ⟨key ++ '"' :: (between ++ ':' ::
      (gap ++ (value ++ (behind ++ (more ++ '}' :: rest))))), place⟩ = .ok (result, next)) :
    ∃ name, Spells key name.toList ∧ known.lookup name = some result ∧
      value = ['n', 'u', 'l', 'l'] ∧ more = [] := by
  unfold readKnownKey at ok
  split at ok
  · cases ok
  · rename_i read
    obtain ⟨name, spells, found, rfl⟩ := readKnown_ok chars read
    simp only [readColon_eq middle, readNull_blanks space] at ok
    split at ok
    · cases ok
    · rename_i null
      obtain rfl := eq_null_of_readNull written null
      simp only [List.cons_append, List.nil_append, readNull_eq, Except.ok.injEq] at null
      subst null
      rcases follows with rfl | ⟨others, rfl⟩
      · simp only [List.nil_append, Input.skipBlank_eq back (c := '}') rfl] at ok
        cases ok
        exact ⟨name, spells, found, rfl, rfl⟩
      · simp only [List.cons_append, Input.skipBlank_eq back (c := ',') rfl] at ok
        cases ok

theorem names_of_readName {known : List (String × α)} {value : α} {next : Input}
    (written : Written .value text)
    (ok : readName known ⟨text ++ rest, place⟩ = .ok (value, next)) : Names known text value := by
  cases written with
  | null | yes | no | minus => cases ok
  | number w =>
    obtain ⟨c, digits, rfl, digit⟩ := w.front
    have solid := Input.isBlank_of_isDigit digit
    have text : c ≠ '"' := ne_of_isDigit digit rfl
    have object : c ≠ '{' := ne_of_isDigit digit rfl
    simp [readName, Input.skipBlank_of_not_blank solid, text, object, Input.refuseNext] at ok
  | text chars =>
    rw [List.cons_append, List.append_assoc] at ok
    have read : readKnown known ⟨_ ++ '"' :: rest, place.after '"'⟩ = .ok (value, next) := ok
    obtain ⟨name, spells, found, -⟩ := readKnown_ok chars read
    exact .text spells found
  | empty bracket blank =>
    cases bracket with
    | list => cases ok
    | object =>
      have key := Input.skipBlank_eq blank (c := '}') rfl rest (place.after '{')
      simp only [Bracket.opening, Bracket.closing, List.cons_append, List.append_assoc,
        List.nil_append, readName, Input.skipBlank_of_not_blank (c := '{') rfl, Input.eat,
        key] at ok
      cases ok
  | @full bracket items inside =>
    cases bracket with
    | list => cases ok
    | object =>
      obtain ⟨before, key, between, gap, value, behind, more, rfl, front, chars, middle, space,
        written, back, follows⟩ := inside.first_member
      simp only [Bracket.opening, Bracket.closing, List.cons_append, List.append_assoc,
        List.nil_append, readName, Input.skipBlank_of_not_blank (c := '{') rfl, Input.eat,
        Input.skipBlank_eq front (c := '"') rfl] at ok
      obtain ⟨name, spells, found, rfl, rfl⟩ :=
        readKnownKey_ok chars middle space written back follows ok
      simpa [Bracket.opening, Bracket.closing] using
        Names.object front spells found middle space back

/-- A reader of names takes them in any spelling, and as keys of null. -/
theorem tells_name (known : List (String × α)) : Tells (readName known) (Names known) where
  blanks blank rest place := by
    unfold readName
    rw [Input.skipBlank_append blank]
  reads names _ := reads_names names _
  only written _ ok := names_of_readName written ok

end Names

end Custody.Json
