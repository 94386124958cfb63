import Custody.Json.Number
import Custody.Json.Text

/-!
# Skipped values

Getting past a JSON value that nobody asked for. Its grammar is checked, and
nothing is kept but the stack of brackets still open, so values nest as deep as
the text is long.

* `skipValue`: past one value of any kind.
-/

namespace Custody.Json

/-- Past the rest of a word. -/
def expectWord : List Char → Input → Except Fault Input
  | [], i => .ok i
  | expected :: word, i =>
    match i.chars with
    | [] => i.refuse .endInValue
    | c :: _ => if c = expected then expectWord word i.eat else i.refuseNext .wordExpected

theorem expectWord_size {word : List Char} {i rest : Input} (h : expectWord word i = .ok rest) :
    rest.size ≤ i.size := by
  induction word generalizing i with
  | nil => cases h; exact Nat.le_refl _
  | cons c word ih =>
    unfold expectWord at h
    split at h
    · cases h
    · split at h
      · exact Nat.le_trans (ih h) i.size_eat_le
      · cases h

/-- Past a value that is neither a list nor an object. -/
def skipScalar (i : Input) : Except Fault Input :=
  match i.chars with
  | [] => i.refuse .endInValue
  | 'n' :: _ => expectWord ['u', 'l', 'l'] i.eat
  | 't' :: _ => expectWord ['r', 'u', 'e'] i.eat
  | 'f' :: _ => expectWord ['a', 'l', 's', 'e'] i.eat
  | '-' :: _ => skipNumber i.eat
  | '"' :: _ => skipText i.eat
  | c :: _ => if c.isDigit then skipNumber i else i.refuseNext .valueExpected

/-- Past the key of a member and the colon behind it. -/
def skipKey (i : Input) : Except Fault Input :=
  let start := i.skipBlank
  match start.chars with
  | [] => start.refuse .endInObject
  | '"' :: _ =>
    match skipText start.eat with
    | .error fault => .error fault
    | .ok rest =>
      let colon := rest.skipBlank
      match colon.chars with
      | [] => colon.refuse .endInObject
      | ':' :: _ => .ok colon.eat
      | _ => colon.refuseNext .colonExpected
  | _ => start.refuseNext .keyNotText

/-- A bracket that is open. -/
inductive Bracket
  | list
  | object
  deriving DecidableEq, Repr

namespace Bracket

def closing : Bracket → Char
  | list => ']'
  | object => '}'

/-- The text ended inside the bracket. -/
def ended : Bracket → Cause
  | list => .endInList
  | object => .endInObject

/-- Neither a comma nor the end of the bracket follows. -/
def separatorMissing : Bracket → Cause
  | list => .commaOrListEndExpected
  | object => .commaOrObjectEndExpected

end Bracket

/-- What a reader past a value expects next. -/
inductive Expecting
  | value
  /-- The first item of the innermost bracket, or its end. -/
  | first
  /-- What separates items, or the end of the innermost bracket. -/
  | separator
  deriving DecidableEq, Repr

theorem skipText_size {i rest : Input} (h : skipText i = .ok rest) : rest.size < i.size := by
  fun_induction skipText i with
  | case1 => cases h
  | case2 => cases h; exact Nat.lt_succ_self _
  | case3 => cases h
  | case4 place chars next _ ih => exact Nat.lt_trans (ih h) (Nat.lt_succ_of_lt (skipEscape_size ‹_›))
  | case5 => cases h
  | case6 place c chars _ _ _ ih => exact Nat.lt_succ_of_lt (ih h)

theorem size_exponentSign_le (i : Input) : (exponentSign i).2.size ≤ i.size := by
  unfold exponentSign
  split
  · exact i.size_eat_le
  · exact i.size_eat_le
  · exact Nat.le_refl _

theorem skipExponent_size {i rest : Input} (h : skipExponent i = .ok rest) :
    rest.size ≤ i.size := by
  unfold skipExponent at h
  simp only at h
  split at h
  · cases h
    exact Nat.le_trans (Input.size_skipDigits_le _) (size_exponentSign_le i)
  · cases h

theorem skipTail_size {i rest : Input} (h : skipTail i = .ok rest) : rest.size ≤ i.size := by
  have heat := i.size_eat_le
  unfold skipTail at h
  split at h
  · simp only at h
    split at h
    · have hdigits := i.eat.size_skipDigits_le
      split at h
      · have := skipExponent_size h
        have := i.eat.skipDigits.size_eat_le
        omega
      · cases h
        omega
    · cases h
  · exact Nat.le_trans (skipExponent_size h) heat
  · exact Nat.le_trans (skipExponent_size h) heat
  · cases h
    exact Nat.le_refl _

theorem size_skipDigits_lt {i : Input} {c : Char} {rest : List Char} (h : i.chars = c :: rest)
    (hdigit : c.isDigit = true) : i.skipDigits.size < i.size := by
  have := Input.size_skipFrom_le Char.isDigit rest (i.place.after c)
  simp only [Input.skipDigits, h, Input.skipFrom, hdigit, if_true]
  simp only [Input.size, h, List.length_cons] at *
  omega

theorem skipNumber_size {i rest : Input} (h : skipNumber i = .ok rest) : rest.size < i.size := by
  unfold skipNumber at h
  split at h
  · next hchars =>
    split at h
    · cases h
    · exact Nat.lt_of_le_of_lt (skipTail_size h) (Input.size_eat_lt (by simp [hchars]))
  · next hchars =>
    split at h
    · exact Nat.lt_of_le_of_lt (skipTail_size h) (size_skipDigits_lt hchars ‹_›)
    · cases h
  · cases h

theorem skipScalar_size {i rest : Input} (h : skipScalar i = .ok rest) : rest.size < i.size := by
  unfold skipScalar at h
  split at h
  · cases h
  · next hchars => exact Nat.lt_of_le_of_lt (expectWord_size h) (Input.size_eat_lt (by simp [hchars]))
  · next hchars => exact Nat.lt_of_le_of_lt (expectWord_size h) (Input.size_eat_lt (by simp [hchars]))
  · next hchars => exact Nat.lt_of_le_of_lt (expectWord_size h) (Input.size_eat_lt (by simp [hchars]))
  · exact Nat.lt_of_lt_of_le (skipNumber_size h) i.size_eat_le
  · exact Nat.lt_of_lt_of_le (skipText_size h) i.size_eat_le
  · split at h
    · exact skipNumber_size h
    · cases h

theorem skipKey_size {i rest : Input} (h : skipKey i = .ok rest) : rest.size < i.size := by
  have hblank := i.size_skipBlank_le
  unfold skipKey at h
  simp only at h
  split at h
  · cases h
  · split at h
    · cases h
    · next text htext =>
      have := skipText_size htext
      have := i.skipBlank.size_eat_le
      have := text.size_skipBlank_le
      have := text.skipBlank.size_eat_le
      split at h
      · cases h
      · cases h
        omega
      · cases h
  · cases h

/-- Past a value, and past the brackets around it that are still open. -/
def skipOpen (expecting : Expecting) (brackets : List Bracket) (i : Input) :
    Except Fault Input :=
  match expecting, brackets with
  | .value, _ =>
    match _chars : i.skipBlank.chars with
    | '[' :: _ => skipOpen .first (.list :: brackets) i.skipBlank.eat
    | '{' :: _ => skipOpen .first (.object :: brackets) i.skipBlank.eat
    | _ =>
      match _scalar : skipScalar i.skipBlank with
      | .error fault => .error fault
      | .ok rest => skipOpen .separator brackets rest
  | _, [] => .ok i
  | .first, bracket :: outer =>
    match _chars : i.skipBlank.chars with
    | [] => i.skipBlank.refuse bracket.ended
    | c :: _ =>
      if c = bracket.closing then
        skipOpen .separator outer i.skipBlank.eat
      else
        match bracket with
        | .list => skipOpen .value (.list :: outer) i.skipBlank
        | .object =>
          match _key : skipKey i.skipBlank with
          | .error fault => .error fault
          | .ok rest => skipOpen .value (.object :: outer) rest
  | .separator, bracket :: outer =>
    match _chars : i.skipBlank.chars with
    | [] => i.skipBlank.refuse bracket.ended
    | c :: _ =>
      if c = bracket.closing then
        skipOpen .separator outer i.skipBlank.eat
      else if c = ',' then
        match bracket with
        | .list => skipOpen .value (.list :: outer) i.skipBlank.eat
        | .object =>
          match _key : skipKey i.skipBlank.eat with
          | .error fault => .error fault
          | .ok rest => skipOpen .value (.object :: outer) rest
      else
        i.skipBlank.refuseNext bracket.separatorMissing
termination_by 2 * i.size + if expecting = .first then 1 else 0
decreasing_by
  all_goals
    have blank := i.size_skipBlank_le
    have eaten := i.skipBlank.size_eat_le
    have eatenLt : i.skipBlank.chars ≠ [] → i.skipBlank.eat.size < i.skipBlank.size :=
      Input.size_eat_lt
    simp only [if_true, if_false]
  · have := eatenLt (by simp [_chars])
    omega
  · have := eatenLt (by simp [_chars])
    omega
  · have := skipScalar_size _scalar
    omega
  · have := eatenLt (by simp [_chars])
    omega
  · omega
  · have := skipKey_size _key
    omega
  · have := eatenLt (by simp [_chars])
    omega
  · have := eatenLt (by simp [_chars])
    omega
  · have := skipKey_size _key
    omega

/-- Past one value of any kind. -/
def skipValue (i : Input) : Except Fault Input := skipOpen .value [] i

end Custody.Json
