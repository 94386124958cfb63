import Custody.Proofs.Json.Reading

/-!
# The grammar of JSON

Which texts are JSON values, said of the texts alone and not through any reader. Values nest as
deep as one likes, and numbers have any size.

* `Chars`, `Whole`, `Fraction`, `Exponent`: the pieces of texts and of numbers;
* `Written`: values, and what may stand inside brackets;
* `Spells`: which characters a text stands for, escapes and all;
* `Written.front`, `Written.items_front`: what a value, and a list of items, starts with.

A text in a value may hold escapes that stand for half a character. Such a text spells nothing.
-/

namespace Custody.Json

open Decimal.Integer (IsDigits)

/-! ### Pieces -/

def Blanks (text : List Char) : Prop := ∀ c ∈ text, Input.isBlank c = true

/-- What may stand between the quotation marks of a text. -/
inductive Chars : List Char → Prop
  | nil : Chars []
  | plain {c : Char} {text : List Char} (quotes : c ≠ '"') (backslash : c ≠ '\\')
      (control : ¬c < ' ') (more : Chars text) : Chars (c :: text)
  | letter {c : Char} {text : List Char} (simple : (simpleEscape? c).isSome = true)
      (more : Chars text) : Chars ('\\' :: c :: text)
  | unit {a b c d : Char} {text : List Char} (digits : (hexUnit? a b c d).isSome = true)
      (more : Chars text) : Chars ('\\' :: 'u' :: a :: b :: c :: d :: text)

/-- The integer digits of a number. Only zero starts with a zero. -/
inductive Whole : List Char → Prop
  | zero : Whole ['0']
  | digits {c : Char} {digits : List Char} (first : c.isDigit = true) (nonzero : c ≠ '0')
      (others : ∀ d ∈ digits, d.isDigit = true) : Whole (c :: digits)

inductive Fraction : List Char → Prop
  | none : Fraction []
  | digits {digits : List Char} (proper : IsDigits digits) : Fraction ('.' :: digits)

inductive Exponent : List Char → Prop
  | none : Exponent []
  | digits {mark : Char} {sign digits : List Char} (known : isExponentMark mark = true)
      (signed : sign = [] ∨ sign = ['+'] ∨ sign = ['-']) (proper : IsDigits digits) :
      Exponent (mark :: (sign ++ digits))

/-! ### Values -/

namespace Bracket

def opening : Bracket → Char
  | list => '['
  | object => '{'

theorem isBlank_opening (b : Bracket) : Input.isBlank b.opening = false := by
  cases b <;> rfl

theorem opening_ne_closing (b b' : Bracket) : b.opening ≠ b'.closing := by
  cases b <;> cases b' <;> decide

end Bracket

/-- What stands in front of the value of an item: a key with its colon, in an object. -/
inductive Label : Bracket → List Char → Prop
  | item : Label .list []
  | key {text blanks : List Char} (chars : Chars text) (blank : Blanks blanks) :
      Label .object ('"' :: (text ++ '"' :: (blanks ++ [':'])))

/-- What a text may be. -/
inductive Part
  | value
  /-- What stands inside brackets. -/
  | items (bracket : Bracket)

/-- The texts of the grammar. -/
inductive Written : Part → List Char → Prop
  | null : Written .value ['n', 'u', 'l', 'l']
  | yes : Written .value ['t', 'r', 'u', 'e']
  | no : Written .value ['f', 'a', 'l', 's', 'e']
  | number {whole fraction exponent : List Char} (w : Whole whole) (f : Fraction fraction)
      (e : Exponent exponent) : Written .value (whole ++ (fraction ++ exponent))
  | minus {whole fraction exponent : List Char} (w : Whole whole) (f : Fraction fraction)
      (e : Exponent exponent) : Written .value ('-' :: (whole ++ (fraction ++ exponent)))
  | text {text : List Char} (chars : Chars text) : Written .value ('"' :: (text ++ ['"']))
  | empty {blanks : List Char} (bracket : Bracket) (blank : Blanks blanks) :
      Written .value (bracket.opening :: (blanks ++ [bracket.closing]))
  | full {bracket : Bracket} {items : List Char} (inside : Written (.items bracket) items) :
      Written .value (bracket.opening :: (items ++ [bracket.closing]))
  | item {bracket : Bracket} {before label between value behind : List Char}
      (front : Blanks before) (labelled : Label bracket label) (middle : Blanks between)
      (written : Written .value value) (back : Blanks behind) :
      Written (.items bracket) (before ++ (label ++ (between ++ (value ++ behind))))
  | join {bracket : Bracket} {front back : List Char} (first : Written (.items bracket) front)
      (others : Written (.items bracket) back) : Written (.items bracket) (front ++ ',' :: back)

/-! ### Spelling -/

/-- What stands behind a backslash, for one character. -/
inductive Escape : List Char → Char → Prop
  | letter {letter c : Char} (simple : simpleEscape? letter = some c) : Escape [letter] c
  | unit {a b c d : Char} {n : Nat} (digits : hexUnit? a b c d = some n)
      (low : isLowSurrogate n = false) (high : isHighSurrogate n = false) :
      Escape ['u', a, b, c, d] (Char.ofNat n)
  | pair {a b c d a' b' c' d' : Char} {n m : Nat} (first : hexUnit? a b c d = some n)
      (high : isHighSurrogate n = true) (second : hexUnit? a' b' c' d' = some m)
      (low : isLowSurrogate m = true) :
      Escape ['u', a, b, c, d, '\\', 'u', a', b', c', d'] (pairedChar n m)

/-- The text stands for the characters, one by one. -/
inductive Spells : List Char → List Char → Prop
  | nil : Spells [] []
  | plain {c : Char} {text cs : List Char} (quotes : c ≠ '"') (backslash : c ≠ '\\')
      (control : ¬c < ' ') (more : Spells text cs) : Spells (c :: text) (c :: cs)
  | escaped {c : Char} {escape text cs : List Char} (stands : Escape escape c)
      (more : Spells text cs) : Spells ('\\' :: (escape ++ text)) (c :: cs)

/-! ### What is written -/

section Writing

open Decimal (toDigits_of_pos toList_natural toList_signed)
open Decimal.Integer (isDigits_toDigits)

variable {c : Char} {text cs : List Char}

/-- The two digits that a control is written with stand for it. -/
theorem hexUnit?_written {n : Nat} (control : n < 32) :
    hexUnit? '0' '0' (unitDigit (n / 16)) (unitDigit (n % 16)) = some n := by
  have digits : ∀ n < 32,
      hexUnit? '0' '0' (unitDigit (n / 16)) (unitDigit (n % 16)) = some n := by decide
  exact digits n control

/-- Controls are escaped by their code unit. -/
theorem Escape.control (control : c < ' ') :
    Escape ['u', '0', '0', unitDigit (c.toNat / 16), unitDigit (c.toNat % 16)] c := by
  have small : c.toNat < 32 := control
  have low : isLowSurrogate c.toNat = false := by simp [isLowSurrogate]; omega
  have high : isHighSurrogate c.toNat = false := by simp [isHighSurrogate]; omega
  have unit := Escape.unit (hexUnit?_written small) low high
  rwa [Char.ofNat_toNat] at unit

theorem Spells.written (more : Spells text cs) (c : Char) :
    Spells (writtenChar c ++ text) (c :: cs) := by
  unfold writtenChar
  split
  · exact more.escaped (.letter rfl)
  · exact more.escaped (.letter rfl)
  · exact more.escaped (.letter rfl)
  · exact more.escaped (.letter rfl)
  · exact more.escaped (.letter rfl)
  · exact more.escaped (.letter rfl)
  · exact more.escaped (.letter rfl)
  · rename_i quotes backslash _ _ _ _ _
    split
    · rename_i control
      exact more.escaped (.control control)
    · rename_i control
      exact more.plain quotes backslash control

/-- A written text spells what was written. -/
theorem spells_written (cs : List Char) : Spells (cs.flatMap writtenChar) cs := by
  induction cs with
  | nil => exact .nil
  | cons c cs ih => exact ih.written c

/-- Its quotation marks stand around it. -/
theorem toList_quote (text : String) :
    (quote text).toList = '"' :: (text.toList.flatMap writtenChar ++ ['"']) := by
  simp [quote]

theorem Escape.chars {escape : List Char} (stands : Escape escape c) (more : Chars text) :
    Chars ('\\' :: (escape ++ text)) := by
  cases stands with
  | letter simple => exact .letter (by rw [simple]; rfl) more
  | unit digits => exact .unit (by rw [digits]; rfl) more
  | pair first _ second => exact .unit (by rw [first]; rfl) (.unit (by rw [second]; rfl) more)

/-- What spells something may stand in a text. -/
theorem Spells.chars (spells : Spells text cs) : Chars text := by
  induction spells with
  | nil => exact .nil
  | plain quotes backslash control _ ih => exact ih.plain quotes backslash control
  | escaped stands _ ih => exact stands.chars ih

theorem whole_toDigits (n : Nat) : Whole (Nat.toDigits 10 n) := by
  rcases Nat.eq_zero_or_pos n with rfl | pos
  · exact .zero
  · obtain ⟨c, digits, written, nonzero⟩ := toDigits_of_pos pos
    have all := (isDigits_toDigits n).all
    rw [written] at all ⊢
    exact .digits (all c List.mem_cons_self) nonzero
      fun d mem => all d (List.mem_cons_of_mem c mem)

theorem written_natural (n : UInt64) : Written .value (toString n).toList := by
  have written := Written.number (whole_toDigits n.toNat) .none .none
  rwa [List.append_nil, List.append_nil, ← toList_natural] at written

theorem written_signed (n : Int64) : Written .value (toString n).toList := by
  rw [toList_signed]
  split
  · have written := Written.number (whole_toDigits n.toInt.toNat) .none .none
    rwa [List.append_nil, List.append_nil] at written
  · have written := Written.minus (whole_toDigits (-n.toInt).toNat) .none .none
    rwa [List.append_nil, List.append_nil] at written

theorem written_quote (text : String) : Written .value (quote text).toList := by
  rw [toList_quote]
  exact .text (spells_written text.toList).chars

end Writing

/-! ### What texts start with -/

theorem Whole.front {whole : List Char} (w : Whole whole) :
    ∃ c digits, whole = c :: digits ∧ c.isDigit = true := by
  cases w with
  | zero => exact ⟨'0', [], rfl, rfl⟩
  | digits first => exact ⟨_, _, rfl, first⟩

theorem Whole.all {whole : List Char} (w : Whole whole) : ∀ d ∈ whole, d.isDigit = true := by
  cases w with
  | zero => exact List.forall_mem_singleton.2 rfl
  | digits first _ others =>
    rintro d (_ | ⟨_, mem⟩)
    · exact first
    · exact others d mem

/-- A digit is no other mark. -/
theorem ne_of_isDigit {c mark : Char} (digit : c.isDigit = true) (other : mark.isDigit = false) :
    c ≠ mark := by
  rintro rfl
  rw [digit] at other
  cases other

/-- A value starts with no blank, and with nothing that ends a bracket. -/
theorem Written.front {text : List Char} (value : Written .value text) :
    ∃ c more, text = c :: more ∧ Input.isBlank c = false ∧ ∀ b : Bracket, c ≠ b.closing := by
  cases value with
  | null => exact ⟨'n', _, rfl, rfl, by rintro (_ | _) <;> decide⟩
  | yes => exact ⟨'t', _, rfl, rfl, by rintro (_ | _) <;> decide⟩
  | no => exact ⟨'f', _, rfl, rfl, by rintro (_ | _) <;> decide⟩
  | number w =>
    obtain ⟨c, digits, rfl, digit⟩ := w.front
    refine ⟨c, _, rfl, Input.isBlank_of_isDigit digit, ?_⟩
    rintro (_ | _) <;> exact ne_of_isDigit digit rfl
  | minus => exact ⟨'-', _, rfl, rfl, by rintro (_ | _) <;> decide⟩
  | text => exact ⟨'"', _, rfl, rfl, by rintro (_ | _) <;> decide⟩
  | empty bracket => exact ⟨_, _, rfl, bracket.isBlank_opening, bracket.opening_ne_closing⟩
  | @full bracket => exact ⟨_, _, rfl, bracket.isBlank_opening, bracket.opening_ne_closing⟩

theorem Blanks.append {front back : List Char} (first : Blanks front) (others : Blanks back) :
    Blanks (front ++ back) := by
  intro c mem
  rcases List.mem_append.1 mem with mem | mem
  · exact first c mem
  · exact others c mem

theorem NumberEnds.of_mark {mark : Char} (digit : mark.isDigit = false) (point : mark ≠ '.')
    (exponent : isExponentMark mark = false) (rest : List Char) : NumberEnds (mark :: rest) := by
  rintro c ⟨⟩
  exact ⟨digit, point, exponent⟩

theorem numberEnds_comma (rest : List Char) : NumberEnds (',' :: rest) :=
  .of_mark rfl (by decide) rfl rest

theorem numberEnds_closing (bracket : Bracket) (rest : List Char) :
    NumberEnds (bracket.closing :: rest) := by
  cases bracket with
  | list => exact .of_mark rfl (by decide) rfl rest
  | object => exact .of_mark rfl (by decide) rfl rest

/-- Blanks end a number. -/
theorem Blanks.numberEnds {blanks rest : List Char} (blank : Blanks blanks)
    (ends : NumberEnds rest) : NumberEnds (blanks ++ rest) := by
  cases blanks with
  | nil => exact ends
  | cons c blanks =>
    have first : Input.isBlank c = true := blank c List.mem_cons_self
    simp only [Input.isBlank, Bool.or_eq_true, beq_iff_eq] at first
    rcases first with ((rfl | rfl) | rfl) | rfl <;> exact .of_mark rfl (by decide) rfl _

/-- Behind blanks, what stands inside a bracket does not start with its end. -/
theorem Written.items_front {bracket : Bracket} {text : List Char}
    (items : Written (.items bracket) text) :
    ∃ blanks c more, text = blanks ++ c :: more ∧ Blanks blanks ∧ Input.isBlank c = false ∧
      c ≠ bracket.closing := by
  generalize part : Part.items bracket = p at items
  induction items with
  | null | yes | no | number | minus | text | empty | full => cases part
  | @item _ before _ between _ behind front labelled middle written =>
    cases part
    cases labelled with
    | item =>
      obtain ⟨c, more, rfl, solid, inner⟩ := written.front
      exact ⟨before ++ between, c, more ++ behind, by simp, front.append middle, solid,
        inner .list⟩
    | key => exact ⟨before, '"', _, rfl, front, rfl, by decide⟩
  | @join _ _ back _ _ ih =>
    cases part
    obtain ⟨blanks, c, more, rfl, blank, solid, inner⟩ := ih rfl
    exact ⟨blanks, c, more ++ ',' :: back, by simp, blank, solid, inner⟩

end Custody.Json
