/-!
# Input with positions

The unread characters of a text and the place in it. Lines count from 1; the
column counts the bytes read on the line, in UTF-8.

* `Input.skipBlank`: past spaces, tabs and line ends, the only blanks of JSON;
* `Input.peekPlace`: the place one byte on, where an unexpected character is
  reported before it is read.
-/

namespace Custody.Json

/-- A place in a text. -/
structure Position where
  line : Nat
  column : Nat
  deriving DecidableEq, Repr

namespace Position

def start : Position := ⟨1, 0⟩

/-- The place behind a character. -/
def after (p : Position) (c : Char) : Position :=
  if c = '\n' then ⟨p.line + 1, 0⟩ else ⟨p.line, p.column + c.utf8Size⟩

/-- The place behind the first byte of a character. -/
def afterByte (p : Position) (c : Char) : Position :=
  if c = '\n' then ⟨p.line + 1, 0⟩ else ⟨p.line, p.column + 1⟩

/-- The place behind all the characters. -/
def afterAll (p : Position) (cs : List Char) : Position := cs.foldl after p

/-- The place behind the first `n` bytes of the characters. -/
def afterBytes (p : Position) : Nat → List Char → Position
  | _, [] => p
  | n, c :: rest =>
    if n = 0 then p
    else if c.utf8Size ≤ n then (p.after c).afterBytes (n - c.utf8Size) rest
    else ⟨p.line, p.column + n⟩

end Position

/-- What is still to be read, and where it starts. -/
structure Input where
  chars : List Char
  place : Position
  deriving DecidableEq, Repr

namespace Input

def ofString (text : String) : Input := ⟨text.toList, Position.start⟩

def size (i : Input) : Nat := i.chars.length

/-- The place one byte on, or the end. -/
def peekPlace (i : Input) : Position :=
  match i.chars with
  | [] => i.place
  | c :: _ => i.place.afterByte c

/-- The input behind its first character, if there is one. -/
def eat (i : Input) : Input :=
  match i.chars with
  | [] => i
  | c :: rest => ⟨rest, i.place.after c⟩

/-- The blanks of JSON. -/
def isBlank (c : Char) : Bool := c == ' ' || c == '\n' || c == '\t' || c == '\r'

/-- Past the characters that satisfy `p`. -/
def skipFrom (p : Char → Bool) : List Char → Position → Input
  | [], place => ⟨[], place⟩
  | c :: rest, place => if p c then skipFrom p rest (place.after c) else ⟨c :: rest, place⟩

def skipBlank (i : Input) : Input := skipFrom isBlank i.chars i.place

/-- Past the ASCII digits. -/
def skipDigits (i : Input) : Input := skipFrom Char.isDigit i.chars i.place

theorem size_eat_lt {i : Input} (h : i.chars ≠ []) : i.eat.size < i.size := by
  obtain ⟨chars, place⟩ := i
  cases chars with
  | nil => simp at h
  | cons c rest => simp [eat, size]

theorem size_eat_le (i : Input) : i.eat.size ≤ i.size := by
  obtain ⟨chars, place⟩ := i
  cases chars <;> simp [eat, size]

theorem size_skipFrom_le (p : Char → Bool) (cs : List Char) (place : Position) :
    (skipFrom p cs place).size ≤ cs.length := by
  induction cs generalizing place with
  | nil => simp [skipFrom, size]
  | cons c rest ih =>
    simp only [skipFrom]
    split
    · exact Nat.le_succ_of_le (ih _)
    · simp [size]

theorem size_skipBlank_le (i : Input) : i.skipBlank.size ≤ i.size :=
  size_skipFrom_le _ _ _

theorem size_skipDigits_le (i : Input) : i.skipDigits.size ≤ i.size :=
  size_skipFrom_le _ _ _

end Input

end Custody.Json
