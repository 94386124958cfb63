/-!
# States of the pattern reader

What a reader of regular expressions knows in the middle of one: how characters are
to be taken, where it is, and the shape of what it has read. The shape is kept as
heights alone, since a pattern that nests too deeply is none.

* `Pile.total`: the height of pieces that are put together;
* `State`: all of it.
-/

namespace Custody.Log.Pattern

/-- How the rest of a group is read. -/
structure Style where
  /-- Upper and lower case are alike. -/
  anyCase : Bool
  /-- The pattern is about code points, not about bytes. -/
  codePoints : Bool
  /-- Blanks stand for nothing, and a number sign starts a comment. -/
  spaced : Bool
  deriving DecidableEq, Repr

/-- The heights of pieces that stand side by side. -/
structure Pile where
  count : Nat
  tallest : Nat
  last : Nat
  deriving DecidableEq, Repr

namespace Pile

def empty : Pile := ⟨0, 0, 0⟩

def add (p : Pile) (height : Nat) : Pile := ⟨p.count + 1, max p.tallest height, height⟩

/-- Puts one level over the last piece. -/
def raiseLast (p : Pile) : Pile := ⟨p.count, max p.tallest (p.last + 1), p.last + 1⟩

/-- The height of the pieces put together. A piece alone needs no level for that. -/
def total (p : Pile) : Nat := if p.count ≤ 1 then p.tallest else p.tallest + 1

end Pile

/-- A group under way: the alternatives behind it, and the one being read. -/
structure Group where
  alternatives : Pile
  sequence : Pile
  deriving DecidableEq, Repr

namespace Group

def empty : Group := ⟨.empty, .empty⟩

def add (g : Group) (height : Nat) : Group := { g with sequence := g.sequence.add height }

/-- The next alternative begins. -/
def alternate (g : Group) : Group := ⟨g.alternatives.add g.sequence.total, .empty⟩

def height (g : Group) : Nat := g.alternate.alternatives.total

end Group

/-- A class under way: what stands before the latest operator, and its members
behind it. -/
structure Operand where
  before : Option Nat
  members : Pile
  deriving DecidableEq, Repr

namespace Operand

def empty : Operand := ⟨none, .empty⟩

def add (o : Operand) (height : Nat) : Operand := { o with members := o.members.add height }

def height (o : Operand) : Nat :=
  match o.before with
  | none => o.members.total
  | some before => max before o.members.total + 1

/-- An operator takes all before it as its left side. -/
def operate (o : Operand) : Operand := ⟨some o.height, .empty⟩

end Operand

/-- What a sequence has before its next item. -/
inductive Before
  /-- Nothing that could be repeated. -/
  | nothing
  /-- The opening bracket of its group. -/
  | bracket
  /-- An item. -/
  | item
  /-- A repetition right before, which a question mark makes lazy. -/
  | repetition
  deriving DecidableEq, Repr

/-- What a character that stands for itself is. -/
inductive Role
  /-- An item of a sequence. -/
  | item
  /-- A member of a class, or the lower end of a range. -/
  | member
  /-- The upper end of a range. -/
  | upper (low : Char)
  deriving DecidableEq, Repr

/-- A place within a class. -/
inductive ClassPlace
  | opened
  /-- Behind the circumflex or a hyphen at its start. -/
  | started (hyphen : Bool)
  | between
  /-- Between the two characters of an operator. -/
  | operator
  /-- Behind a member, which is a character unless it is a class of its own. -/
  | behind (member : Option Char)
  /-- Behind the hyphen of a range. -/
  | range (low : Char)
  /-- Within a class with a name, of which so many characters are left. -/
  | named (left : Nat)
  deriving DecidableEq, Repr

namespace ClassPlace

/-- Blanks and comments may stand here. -/
def admitsBlanks : ClassPlace → Bool
  | opened => true
  | started _ => true
  | between => true
  | operator => false
  | behind _ => true
  | range _ => true
  | named _ => false

end ClassPlace

/-- What the next character belongs to. -/
inductive Place
  | sequence (before : Before)
  | flags (seen : List Char)
  | name (start : List Char)
  | klass (place : ClassPlace)
  | escape (role : Role)
  /-- A code point in `left` more hexadecimal digits. -/
  | hex (left : Nat) (value : Nat) (byte : Bool) (role : Role)
  deriving DecidableEq, Repr

namespace Place

/-- Blanks and comments may stand here. -/
def admitsBlanks : Place → Bool
  | sequence _ => true
  | flags _ => false
  | name _ => false
  | klass place => place.admitsBlanks
  | escape _ => false
  | hex _ _ _ _ => true

/-- The place behind a blank. -/
def pastBlank : Place → Place
  | sequence .repetition => sequence .item
  | place => place

end Place

/-- What has been read of a pattern. -/
structure State where
  place : Place
  style : Style
  group : Group
  /-- The groups around this one, the innermost first, each with its style. -/
  groups : List (Style × Group)
  operand : Operand
  /-- The classes around this one, the innermost first. -/
  operands : List Operand
  names : List (List Char)
  inComment : Bool
  deriving DecidableEq, Repr

namespace State

def initial : State :=
  ⟨.sequence .nothing, ⟨false, true, false⟩, .empty, [], .empty, [], [], false⟩

def goto (s : State) (place : Place) : State := { s with place := place }

/-- An item of a sequence has ended. -/
def addItem (s : State) (height : Nat) : State :=
  { s with group := s.group.add height, place := .sequence .item }

/-- A member of a class has ended. -/
def addMember (s : State) (height : Nat) (place : ClassPlace) : State :=
  { s with operand := s.operand.add height, place := .klass place }

/-- Letters would have to be folded by the tables of case, which are not there. -/
def foldsLetters (s : State) : Bool := s.style.codePoints && s.style.anyCase

/-- A character that stands for itself, written as itself or as the number of a
byte. -/
def literal (s : State) (role : Role) (byte : Bool) (c : Char) : Option State :=
  let ascii := c.toNat < 128
  if s.foldsLetters then
    none
  else
    match role with
    | .item => if s.style.codePoints || ascii || !byte then some (s.addItem 0) else none
    | .member =>
      if s.style.codePoints || ascii then some (s.addMember 0 (.behind c)) else none
    | .upper low =>
      if (s.style.codePoints || ascii) && low ≤ c then some (s.goto (.klass .between)) else none

end State

end Custody.Log.Pattern
