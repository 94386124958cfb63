import Custody.Log.Pattern.Basic
import Custody.Text.Blank

/-!
# Classes of characters in a pattern

A class stands in square brackets and has characters, ranges, classes with a name
and classes of its own as members. A circumflex at its start turns it into all that
is not in it, which is more than ASCII and so refused of bytes. Two equal marks are
an operator between what is before and behind them.

* `State.openClass`, `State.stepClass`: the start of a class and one character of it.
-/

namespace Custody.Log.Pattern

/-- The names of the classes of ASCII characters. -/
def asciiClasses : List String :=
  ["alnum", "alpha", "ascii", "blank", "cntrl", "digit", "graph", "lower", "print", "punct",
    "space", "upper", "word", "xdigit"]

/-- The class with a name that starts behind an opening bracket, as whether it is
turned around and how many characters it has left. -/
def namedClass? (rest : List Char) : Option (Bool × Nat) :=
  (asciiClasses.flatMap fun name => [(false, ":" ++ name ++ ":]"), (true, ":^" ++ name ++ ":]")])
    |>.findSome? fun (excluded, text) =>
      if text.toList.isPrefixOf rest then some (excluded, text.length) else none

/-- The text from its first character that is no blank and does not start a comment,
where there may be any. -/
def significant (spaced : Bool) (cs : List Char) : List Char :=
  if spaced then
    match cs.dropWhile Text.isBlank with
    | '#' :: rest => rest.dropWhile Text.isBlank
    | rest => rest
  else
    cs

namespace State

/-- A class begins, as an item of a sequence or as a member of the class around it. -/
def openClass (s : State) (around : List Operand) : State :=
  { s with operand := .empty, operands := around, place := .klass .opened }

/-- A class ends, and is one level higher than what is in it. -/
def closeClass (s : State) : State :=
  let height := s.operand.height + 1
  match s.operands with
  | [] => { s with operand := .empty }.addItem height
  | around :: rest => { s with operand := around, operands := rest }.addMember height .between

/-- A member of a class that may be a character. -/
def stepMember (s : State) (role : Role) (c : Char) : Option State :=
  if c = '\\' then some (s.goto (.escape role)) else s.literal role false c

/-- An opening bracket in a class. -/
def stepBracket (s : State) (rest : List Char) : Option State :=
  match namedClass? rest with
  | none => some (s.openClass (s.operand :: s.operands))
  | some (excluded, left) =>
    if s.foldsLetters || (excluded && !s.style.codePoints) then none
    else some (s.addMember 0 (.named left))

/-- The next thing in a class, which may be its end. -/
def stepBetween (s : State) (c : Char) (rest : List Char) : Option State :=
  if c = ']' then some s.closeClass
  else if c = '[' then s.stepBracket rest
  else if (c == '&' || c == '-' || c == '~') && rest.head? = some c then
    some ({ s with operand := s.operand.operate }.goto (.klass .operator))
  else
    s.stepMember .member c

/-- The start of a class. Hyphens and then a closing bracket stand for themselves. -/
def stepStarted (s : State) (hyphen : Bool) (c : Char) (rest : List Char) : Option State :=
  if c = '-' then (s.literal .member false c).map fun s => s.goto (.klass (.started true))
  else if c = ']' && !hyphen then
    (s.literal .member false c).map fun s => s.goto (.klass .between)
  else
    s.stepBetween c rest

/-- A hyphen before this text makes a range: neither does the class end, nor is the
hyphen the start of an operator. -/
def startsRange (s : State) (rest : List Char) : Bool :=
  match (significant s.style.spaced rest).head? with
  | some ']' => false
  | some '-' => false
  | _ => true

/-- A character of a class. -/
def stepClass (s : State) (place : ClassPlace) (c : Char) (rest : List Char) :
    Option State :=
  match place with
  | .opened =>
    if c = '^' then
      if s.style.codePoints then some (s.goto (.klass (.started false))) else none
    else
      s.stepStarted false c rest
  | .started hyphen => s.stepStarted hyphen c rest
  | .between => s.stepBetween c rest
  | .operator => some (s.goto (.klass .between))
  | .behind member =>
    if c = '-' && s.startsRange rest then
      member.map fun low => s.goto (.klass (.range low))
    else
      s.stepBetween c rest
  | .range low => s.stepMember (.upper low) c
  | .named left =>
    some (s.goto (.klass (if left ≤ 1 then .between else .named (left - 1))))

end State

end Custody.Log.Pattern
