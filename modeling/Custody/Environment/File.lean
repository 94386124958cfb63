import Custody.Environment.Line
import Custody.Registry

/-!
# Environment files

The variables of the environment, and how a file adds to them. A quote or an
escape that is open at the end of a line joins the next line to it. A variable
that is set keeps its value, and the first malformed line ends the file.

* `Variables.value?`: the value of a variable;
* `Variables.load`: the variables with those of a file.
-/

namespace Custody.Environment

/-- The values of variables by name. -/
abbrev Variables := Registry String String

/-- How a line stands where its reader has come to. -/
inductive Openness
  | complete
  | escape
  | single
  | singleEscape
  | double
  | doubleEscape
  | blank
  | comment
  deriving DecidableEq, Repr

namespace Openness

/-- One character outside of quotes and escapes. -/
def enter (c : Char) : Openness :=
  if c = '\\' then .escape else if c = '"' then .double else if c = '\'' then .single else .complete

/-- One character. A comment starts right behind a blank. -/
def step (s : Openness) (c : Char) : Openness :=
  match s with
  | .blank => if c = '#' then .comment else enter c
  | .complete => if Text.isBlank c && c ≠ '\n' && c ≠ '\r' then .blank else enter c
  | .escape => .complete
  | .double => if c = '\\' then .doubleEscape else if c = '"' then .complete else .double
  | .doubleEscape => .double
  | .single => if c = '\\' then .singleEscape else if c = '\'' then .complete else .single
  | .singleEscape => .single
  | .comment => .comment

/-- How a line stands at its end, and the line up to its comment. -/
def atEnd : Openness → List Char → Openness × List Char
  | s, [] => (s, [])
  | s, c :: rest =>
    let next := s.step c
    if next = .comment then
      (.comment, [])
    else
      let (final, kept) := next.atEnd rest
      (final, c :: kept)

end Openness

/-- The lines of a text, each with its line end. -/
def physicalLines : List Char → List (List Char)
  | [] => []
  | c :: rest =>
    if c = '\n' then
      [c] :: physicalLines rest
    else
      match physicalLines rest with
      | [] => [[c]]
      | line :: lines => (c :: line) :: lines

/-- A line without its line end. -/
def chomp (line : List Char) : List Char :=
  match line.reverse with
  | '\n' :: '\r' :: rest => rest.reverse
  | '\n' :: rest => rest.reverse
  | _ => line

/-- Joins lines that belong together. `pending` was read before and stands as
`s`. The end of the text inside a line is `none`. -/
def joinLines (s : Openness) (pending : List Char) : List (List Char) → List (Option (List Char))
  | [] => if s = .complete then [] else [none]
  | line :: rest =>
    let whole := pending ++ line
    if (Text.trimStart whole).head? = some '#' then
      some [] :: joinLines .complete [] rest
    else
      match s.atEnd line with
      | (.complete, _) => some (chomp whole) :: joinLines .complete [] rest
      | (.comment, kept) => some (pending ++ kept) :: joinLines .complete [] rest
      | (s, _) => joinLines s whole rest

/-- The lines of a file, joined. A byte order mark at its start is no text. -/
def logicalLines (text : String) : List (Option (List Char)) :=
  let cs := text.toList
  let cs := if cs.head? = some '\ufeff' then cs.drop 1 else cs
  joinLines .complete [] (physicalLines cs)

namespace Variables

/-- What the entry `key=value` holds for a name: all behind `name=`, where it
starts so. -/
def held? (name key value : String) : Option String :=
  if key = name then
    some value
  else
    let front := name.toList ++ ['=']
    let entry := key.toList ++ '=' :: value.toList
    if front.isPrefixOf entry then some (String.ofList (entry.drop front.length)) else none

/-- The value of a variable. A name may reach into a value: if `A` is `B=1`, then
`A=B` is `1`. -/
def value? (v : Variables) (name : String) : Option String :=
  if name.isEmpty then none
  else v.entries.findSome? fun (key, value) => held? name key value

/-- The value of a variable in a file, empty if it has none. -/
def lookup (v : Variables) (name : String) : String := (v.value? name).getD ""

/-- Sets a variable that is not set yet. -/
def define (v : Variables) (name value : String) : Variables :=
  if (v.value? name).isSome then v else v.put name value

/-- Adds the variables of the lines, up to the first that is malformed. -/
def loadLines (v : Variables) : List (Option (List Char)) → Variables
  | [] => v
  | none :: _ => v
  | some line :: rest =>
    match Entry.ofLine v.lookup line with
    | .malformed => v
    | .nothing => loadLines v rest
    | .assigns name value => loadLines (v.define name value) rest

/-- Adds the variables of a file. -/
def load (v : Variables) (text : String) : Variables := v.loadLines (logicalLines text)

end Variables

end Custody.Environment
