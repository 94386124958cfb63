import Custody.Json.Fault
import Custody.Text.Bytes
import Custody.Text.Hexadecimal

/-!
# Text in JSON

Reading a text behind its opening quote, either for its characters or only to
get past it, and writing one.

* `readText`: the characters. Escapes by code unit must form whole characters;
* `skipText`: past the text. Escapes are looked at but not put together, so any
  four hexadecimal digits do;
* `quote`: the written form, in which only quotes, backslashes and controls are
  escaped.
-/

namespace Custody.Json

/-- The character that a backslash and one letter stand for. -/
def simpleEscape? : Char → Option Char
  | '"' => some '"'
  | '\\' => some '\\'
  | '/' => some '/'
  | 'b' => some '\x08'
  | 'f' => some '\x0c'
  | 'n' => some '\n'
  | 'r' => some '\r'
  | 't' => some '\t'
  | _ => none

/-- The value of four hexadecimal digits. -/
def hexUnit? (a b c d : Char) : Option Nat := do
  let digit := Text.hexDigit?
  return (((← digit a) * 16 + (← digit b)) * 16 + (← digit c)) * 16 + (← digit d)

/-- Refuses four bytes that are no hexadecimal digits, or the end before them. -/
def refuseUnit {α : Type} (i : Input) : Except Fault α :=
  if Text.byteCount i.chars < 4 then
    .error ⟨.endInText, i.place.afterAll i.chars⟩
  else
    .error ⟨.invalidEscape, i.place.afterBytes 4 i.chars⟩

/-- Reads a code unit of four hexadecimal digits. -/
def readUnit (i : Input) : Except Fault (Nat × Input) :=
  match i.chars with
  | a :: b :: c :: d :: rest =>
    match hexUnit? a b c d with
    | some unit => .ok (unit, ⟨rest, i.place.afterAll [a, b, c, d]⟩)
    | none => refuseUnit i
  | _ => refuseUnit i

/-- The first half of a pair of code units. -/
def isHighSurrogate (unit : Nat) : Bool := 0xD800 ≤ unit && unit ≤ 0xDBFF

/-- The second half of a pair of code units. -/
def isLowSurrogate (unit : Nat) : Bool := 0xDC00 ≤ unit && unit ≤ 0xDFFF

/-- The character of a pair of code units. -/
def pairedChar (high low : Nat) : Char :=
  Char.ofNat ((high - 0xD800) * 0x400 + (low - 0xDC00) + 0x10000)

/-- Reads the second half of a pair, behind the first. -/
def readLowUnit (high : Nat) (i : Input) : Except Fault (Char × Input) :=
  match i.chars with
  | [] => i.refuse .endInText
  | '\\' :: _ =>
    match i.eat.chars with
    | [] => i.eat.refuse .endInText
    | 'u' :: _ =>
      match readUnit i.eat.eat with
      | .error fault => .error fault
      | .ok (low, rest) =>
        if isLowSurrogate low then .ok (pairedChar high low, rest)
        else rest.refuse .loneSurrogate
    | _ => i.eat.refuseNext .unpairedSurrogate
  | _ => i.refuseNext .unpairedSurrogate

/-- Reads an escape behind its backslash. -/
def readEscape (i : Input) : Except Fault (Char × Input) :=
  match i.chars with
  | [] => i.refuse .endInText
  | 'u' :: _ =>
    match readUnit i.eat with
    | .error fault => .error fault
    | .ok (unit, rest) =>
      if isLowSurrogate unit then rest.refuse .loneSurrogate
      else if isHighSurrogate unit then readLowUnit unit rest
      else .ok (Char.ofNat unit, rest)
  | c :: _ =>
    match simpleEscape? c with
    | some escaped => .ok (escaped, i.eat)
    | none => i.refuseNext .invalidEscape

theorem readUnit_size {i rest : Input} {unit : Nat} (h : readUnit i = .ok (unit, rest)) :
    rest.size < i.size := by
  unfold readUnit refuseUnit at h
  split at h
  · next hc =>
    split at h
    · cases h
      simp [Input.size, hc]
      omega
    · split at h <;> cases h
  · split at h <;> cases h

theorem readLowUnit_size {i rest : Input} {high : Nat} {c : Char}
    (h : readLowUnit high i = .ok (c, rest)) : rest.size < i.size := by
  unfold readLowUnit Input.refuse Input.refuseNext at h
  split at h
  · cases h
  · split at h
    · cases h
    · split at h
      · cases h
      · next low rest' hunit =>
        split at h
        · simp only [Except.ok.injEq, Prod.mk.injEq] at h
          obtain ⟨_, rfl⟩ := h
          have := readUnit_size hunit
          have := i.eat.size_eat_le
          have := i.size_eat_le
          omega
        · cases h
    · cases h
  · cases h

theorem readEscape_size {i rest : Input} {c : Char} (h : readEscape i = .ok (c, rest)) :
    rest.size < i.size := by
  unfold readEscape at h
  split at h
  · cases h
  · next hc =>
    split at h
    · cases h
    · next unit rest' hunit =>
      have hlt := readUnit_size hunit
      have hle := i.size_eat_le
      split at h
      · cases h
      · split at h
        · have := readLowUnit_size h
          omega
        · cases h
          omega
  · next hc _ =>
    split at h
    · cases h
      exact Input.size_eat_lt (by simp [*])
    · cases h

/-- Reads a text behind its opening quote, up to and including the closing one. -/
def readChars : Input → Except Fault (List Char × Input)
  | ⟨[], place⟩ => .error ⟨.endInText, place⟩
  | ⟨'"' :: rest, place⟩ => .ok ([], ⟨rest, place.after '"'⟩)
  | ⟨'\\' :: rest, place⟩ =>
    match _read : readEscape ⟨rest, place.after '\\'⟩ with
    | .error fault => .error fault
    | .ok (c, rest) =>
      match readChars rest with
      | .error fault => .error fault
      | .ok (cs, rest) => .ok (c :: cs, rest)
  | ⟨c :: rest, place⟩ =>
    if c < ' ' then
      .error ⟨.controlCharacter, place.afterByte c⟩
    else
      match readChars ⟨rest, place.after c⟩ with
      | .error fault => .error fault
      | .ok (cs, rest) => .ok (c :: cs, rest)
termination_by i => i.size
decreasing_by
  · exact Nat.lt_succ_of_lt (readEscape_size _read)
  · exact Nat.lt_succ_self _

/-- The text behind an opening quote. -/
def readText (i : Input) : Except Fault (String × Input) :=
  match readChars i with
  | .error fault => .error fault
  | .ok (cs, rest) => .ok (String.ofList cs, rest)

/-- Past an escape behind its backslash. -/
def skipEscape (i : Input) : Except Fault Input :=
  match i.chars with
  | [] => i.refuse .endInText
  | 'u' :: _ =>
    match readUnit i.eat with
    | .error fault => .error fault
    | .ok (_, rest) => .ok rest
  | c :: _ =>
    match simpleEscape? c with
    | some _ => .ok i.eat
    | none => i.refuseNext .invalidEscape

theorem skipEscape_size {i rest : Input} (h : skipEscape i = .ok rest) : rest.size < i.size := by
  unfold skipEscape at h
  split at h
  · cases h
  · split at h
    · cases h
    · next unit rest' hunit =>
      cases h
      exact Nat.lt_of_lt_of_le (readUnit_size hunit) i.size_eat_le
  · split at h
    · cases h
      exact Input.size_eat_lt (by simp [*])
    · cases h

/-- Past a text behind its opening quote. -/
def skipText : Input → Except Fault Input
  | ⟨[], place⟩ => .error ⟨.endInText, place⟩
  | ⟨'"' :: rest, place⟩ => .ok ⟨rest, place.after '"'⟩
  | ⟨'\\' :: rest, place⟩ =>
    match _skipped : skipEscape ⟨rest, place.after '\\'⟩ with
    | .error fault => .error fault
    | .ok rest => skipText rest
  | ⟨c :: rest, place⟩ =>
    if c < ' ' then .error ⟨.controlCharacter, place⟩ else skipText ⟨rest, place.after c⟩
termination_by i => i.size
decreasing_by
  · exact Nat.lt_succ_of_lt (skipEscape_size _skipped)
  · exact Nat.lt_succ_self _

/-- A digit of a code unit, in lower case. -/
def unitDigit (n : Nat) : Char := Nat.digitChar n

/-- One character of a written text. -/
def writtenChar (c : Char) : List Char :=
  match c with
  | '"' => ['\\', '"']
  | '\\' => ['\\', '\\']
  | '\x08' => ['\\', 'b']
  | '\x0c' => ['\\', 'f']
  | '\n' => ['\\', 'n']
  | '\r' => ['\\', 'r']
  | '\t' => ['\\', 't']
  | c =>
    if c < ' ' then ['\\', 'u', '0', '0', unitDigit (c.toNat / 16), unitDigit (c.toNat % 16)]
    else [c]

/-- The written form of a text. -/
def quote (text : String) : String :=
  String.ofList ('"' :: text.toList.flatMap writtenChar ++ ['"'])

end Custody.Json
