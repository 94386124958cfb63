import Custody.Log.Pattern.Class
import Custody.Text.Alphanumeric
import Custody.Text.Hexadecimal

/-!
# Patterns

The regular expressions that a filter may ask the value of a field to match. No line
is ever held against one here; what counts is whether a text is one. It is read
character by character, and every character is refused or leads to the next state.

There are alternatives, groups with or without a name, flags, the repetitions `*`,
`+` and `?`, classes with ranges, nested classes and operators, and escapes. A count
of repetitions is not among them. What needs the Unicode tables of classes or of case
is refused: a class such as `\d`, a word boundary, or a letter in any case, unless
`(?-u)` makes characters of bytes, and then only ASCII is left to classes. A pattern
has at most `maxHeight` levels of groups, repetitions, classes, operators, and of
pieces that stand side by side.

* `Pattern.State.step`: the state behind one more character;
* `Pattern.isWellFormed`: whether a text is a pattern.
-/

namespace Custody.Log.Pattern

/-- The levels that a pattern may have. -/
def maxHeight : Nat := 250

namespace State

/-- An item of a sequence that is no character. -/
def assertion (s : State) (role : Role) : Option State :=
  if role = .item then some (s.addItem 0) else none

/-- An escape of a class of characters. -/
def namedClass (s : State) : Role → Option State
  | .item => some (s.addItem 0)
  | .member => some (s.addMember 0 (.behind none))
  | .upper _ => none

/-- The character behind a backslash. -/
def stepEscape (s : State) (role : Role) (c : Char) : Option State :=
  let bytes := !s.style.codePoints
  match c with
  | 'x' => some (s.goto (.hex 2 0 true role))
  | 'u' => some (s.goto (.hex 4 0 false role))
  | 'U' => some (s.goto (.hex 8 0 false role))
  | 'a' => s.literal role false '\x07'
  | 'f' => s.literal role false '\x0c'
  | 'n' => s.literal role false '\n'
  | 'r' => s.literal role false '\r'
  | 't' => s.literal role false '\t'
  | 'v' => s.literal role false '\x0b'
  | 'd' => if bytes then s.namedClass role else none
  | 's' => if bytes then s.namedClass role else none
  | 'w' => if bytes then s.namedClass role else none
  | 'A' => s.assertion role
  | 'z' => s.assertion role
  | 'b' => if bytes then s.assertion role else none
  | 'B' => if bytes then s.assertion role else none
  | '<' => if bytes then s.assertion role else none
  | '>' => if bytes then s.assertion role else none
  | c => if c.toNat < 128 && !c.isAlphanum then s.literal role false c else none

/-- A hexadecimal digit. The last one completes a code point. -/
def stepHex (s : State) (left value : Nat) (byte : Bool) (role : Role) (c : Char) :
    Option State := do
  let value := value * 16 + (← Text.hexDigit? c)
  if left ≤ 1 then
    if value.isValidChar then s.literal role byte (Char.ofNat value) else none
  else
    some (s.goto (.hex (left - 1) value byte role))

/-- The style of a group with flags: those behind a hyphen are taken back. -/
def styled (style : Style) (flags : List Char) : Style :=
  let set := flags.takeWhile (· ≠ '-')
  let unset := flags.dropWhile (· ≠ '-')
  let flag (c : Char) (old : Bool) := (old || set.contains c) && !unset.contains c
  ⟨flag 'i' style.anyCase, flag 'u' style.codePoints, flag 'x' style.spaced⟩

/-- Flags that stand alone count up to the end of the group around them. -/
def closeFlags (s : State) (seen : List Char) : Option State :=
  match s.groups with
  | [] => none
  | (_, around) :: rest =>
    some { s with
      style := styled s.style seen, group := around.add 0, groups := rest,
      place := .sequence .nothing }

/-- Behind a bracket with a question mark: flags, or the start of a name. -/
def stepFlags (s : State) (seen : List Char) (c : Char) (rest : List Char) : Option State :=
  let dangling := seen.getLast? = some '-'
  match c with
  | ':' =>
    if dangling then none
    else some { s with style := styled s.style seen, place := .sequence .nothing }
  | ')' => if dangling || seen.isEmpty then none else s.closeFlags seen
  | '<' => if seen.isEmpty then some (s.goto (.name [])) else none
  | 'P' => if seen.isEmpty && rest.head? = some '<' then some s else none
  | c =>
    if ['i', 'm', 's', 'U', 'u', 'R', 'x', '-'].contains c && !seen.contains c then
      some (s.goto (.flags (seen ++ [c])))
    else
      none

/-- The character may stand in the name of a group, or start it. -/
def isNamePart (first : Bool) (c : Char) : Bool :=
  c == '_' ||
    if first then Text.isAlphabetic c
    else c == '.' || c == '[' || c == ']' || Text.isAlphanumeric c

/-- The name of a group, which no other group has. -/
def stepName (s : State) (start : List Char) (c : Char) : Option State :=
  if c = '>' then
    if start.isEmpty || s.names.contains start then none
    else some { s with names := start :: s.names, place := .sequence .nothing }
  else if isNamePart start.isEmpty c then
    some (s.goto (.name (start ++ [c])))
  else
    none

def openGroup (s : State) : State :=
  { s with
    group := .empty, groups := (s.style, s.group) :: s.groups, place := .sequence .bracket }

/-- A group ends, and is one level higher than what is in it. -/
def closeGroup (s : State) : Option State :=
  match s.groups with
  | [] => none
  | (style, around) :: rest =>
    some ({ s with style := style, group := around, groups := rest }.addItem
      (s.group.height + 1))

/-- A repetition of the last item. -/
def repeatItem (s : State) : Option State :=
  some { s with
    group := { s.group with sequence := s.group.sequence.raiseLast }
    place := .sequence .repetition }

/-- A mark of repetition. -/
def stepRepetition (s : State) (before : Before) : Option State :=
  match before with
  | .nothing => none
  | .bracket => none
  | .item => s.repeatItem
  | .repetition => s.repeatItem

/-- A question mark. -/
def stepQuestion (s : State) (before : Before) : Option State :=
  match before with
  | .nothing => none
  | .bracket => some (s.goto (.flags []))
  | .item => s.repeatItem
  | .repetition => some (s.goto (.sequence .item))

/-- An item of a sequence, or what separates items. -/
def stepSequence (s : State) (before : Before) (c : Char) : Option State :=
  match c with
  | '(' => some s.openGroup
  | ')' => s.closeGroup
  | '|' => some { s with group := s.group.alternate, place := .sequence .nothing }
  | '[' => some (s.openClass [])
  | '?' => s.stepQuestion before
  | '*' => s.stepRepetition before
  | '+' => s.stepRepetition before
  | '{' => none
  | '\\' => some (s.goto (.escape .item))
  | '.' => if s.style.codePoints then some (s.addItem 0) else none
  | '^' => some (s.addItem 0)
  | '$' => some (s.addItem 0)
  | c => s.literal .item false c

/-- The state behind the character `c`, which has `rest` behind it. -/
def step (s : State) (c : Char) (rest : List Char) : Option State :=
  let spaced := s.style.spaced && s.place.admitsBlanks
  if s.inComment then
    some { s with inComment := c ≠ '\n' }
  else if spaced && Text.isBlank c then
    some (s.goto s.place.pastBlank)
  else if spaced && c == '#' then
    some { s with inComment := true, place := s.place.pastBlank }
  else
    match s.place with
    | .sequence before => s.stepSequence before c
    | .flags seen => s.stepFlags seen c rest
    | .name start => s.stepName start c
    | .klass place => s.stepClass place c rest
    | .escape role => s.stepEscape role c
    | .hex left value byte role => s.stepHex left value byte role c

/-- The state behind a text. -/
def run (s : State) : List Char → Option State
  | [] => some s
  | c :: rest =>
    match s.step c rest with
    | none => none
    | some s => s.run rest

/-- A pattern may end here. -/
def isComplete (s : State) : Bool :=
  match s.place with
  | .sequence _ => s.groups.isEmpty && s.group.height ≤ maxHeight
  | _ => false

end State

/-- The text is a pattern. -/
def isWellFormed (cs : List Char) : Bool := (State.initial.run cs).any State.isComplete

end Custody.Log.Pattern
