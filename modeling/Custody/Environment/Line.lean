import Custody.Text.Alphanumeric
import Custody.Text.Blank

/-!
# Lines of an environment file

A line is blank, a comment, or gives a name a value: `NAME=value`, with `export`
before it or not. A value may hold quotes of both kinds and escapes; outside of
single quotes `$NAME` and `${NAME}` stand for the value of a name, which is empty
if it has none. Blanks end an unquoted value, and only a comment may follow.

* `Entry.ofLine`: what a line says;
* `ValueReader.read`: the value behind the equals sign.
-/

namespace Custody.Environment

/-- Where in a value the reader is. -/
inductive Mode
  | plain
  | single
  | double
  /-- Behind a blank, where only a comment may follow. -/
  | ended
  deriving DecidableEq, Repr

/-- How far a name to be replaced has been read. -/
inductive Reference
  | none
  /-- Behind a dollar sign. -/
  | bare (name : List Char)
  /-- Behind a dollar sign and an opening brace. -/
  | braced (name : List Char)
  deriving DecidableEq, Repr

/-- A reader of values, with what it has put out. -/
structure ValueReader where
  mode : Mode
  escaped : Bool
  reference : Reference
  output : List Char
  deriving DecidableEq, Repr

namespace ValueReader

def start : ValueReader := ⟨.plain, false, .none, []⟩

/-- The character that a backslash and this one stand for. -/
def escape? : Char → Option Char
  | '\\' => some '\\'
  | '\'' => some '\''
  | '"' => some '"'
  | '$' => some '$'
  | ' ' => some ' '
  | 'n' => some '\n'
  | _ => none

/-- Writes out a name that has been read to its end. -/
def expand (s : ValueReader) (lookup : String → String) (name : List Char) : ValueReader :=
  { s with reference := .none, output := s.output ++ (lookup (String.ofList name)).toList }

def push (s : ValueReader) (c : Char) : ValueReader := { s with output := s.output ++ [c] }

/-- One character where no name is being read and nothing is escaped. -/
def stepOpen (s : ValueReader) (c : Char) : ValueReader :=
  match s.mode with
  | .plain =>
    if c = '$' then { s with reference := .bare [] }
    else if c = '\'' then { s with mode := .single }
    else if c = '"' then { s with mode := .double }
    else if c = '\\' then { s with escaped := true }
    else if c = ' ' || c = '\t' then { s with mode := .ended }
    else s.push c
  | .double =>
    if c = '$' then { s with reference := .bare [] }
    else if c = '"' then { s with mode := .plain }
    else if c = '\\' then { s with escaped := true }
    else s.push c
  | .single => if c = '\'' then { s with mode := .plain } else s.push c
  | .ended => s

/-- One character of a name to be replaced, or behind it. The character that ends
a bare name stands for itself, a dollar sign apart. -/
def stepReference (s : ValueReader) (lookup : String → String) (c : Char) : ValueReader :=
  match s.reference with
  | .none => s
  | .bare name =>
    if Text.isAlphanumeric c then { s with reference := .bare (name ++ [c]) }
    else if c = '{' && name.isEmpty then { s with reference := .braced [] }
    else if c = '$' then { s.expand lookup name with reference := .bare [] }
    else (s.expand lookup name).push c
  | .braced name =>
    if c = '}' then s.expand lookup name else { s with reference := .braced (name ++ [c]) }

/-- The value of the characters, or `none` if they do not make one. -/
def readFrom (lookup : String → String) (s : ValueReader) : List Char → Option (List Char)
  | [] =>
    match s.mode, s.reference with
    | .single, _ => none
    | .double, _ => none
    | _, .braced _ => none
    | _, .bare name => some (s.expand lookup name).output
    | _, .none => some s.output
  | c :: rest =>
    if s.mode = .ended then
      if c = ' ' || c = '\t' then readFrom lookup s rest
      else if c = '#' then readFrom lookup s []
      else none
    else if s.escaped then
      match escape? c with
      | some c => readFrom lookup ({ s with escaped := false }.push c) rest
      | none => none
    else if s.reference = .none then
      readFrom lookup (s.stepOpen c) rest
    else
      readFrom lookup (s.stepReference lookup c) rest

/-- The value that the text behind an equals sign stands for. -/
def read (lookup : String → String) (cs : List Char) : Option (List Char) :=
  readFrom lookup start cs

end ValueReader

/-- What a line of an environment file says. -/
inductive Entry
  | malformed
  | nothing
  | assigns (name value : String)
  deriving DecidableEq, Repr

namespace Entry

/-- The name at the front and what follows it. -/
def name? (cs : List Char) : Option (List Char × List Char) :=
  match cs with
  | [] => none
  | c :: _ =>
    if c.isAlpha || c = '_' then
      let inName (c : Char) : Bool := c.isAlphanum || c = '_' || c = '.'
      some (cs.takeWhile inName, cs.dropWhile inName)
    else
      none

/-- What follows the equals sign at the front, blanks skipped. -/
def behindEquals? (cs : List Char) : Option (List Char) :=
  match Text.trimStart cs with
  | '=' :: rest => some (Text.trimStart rest)
  | _ => none

/-- The assigned name and the text of its value. A name `export` without an
equals sign only announces the name behind it. -/
def assignment? (cs : List Char) : Option (List Char × List Char) := do
  let (name, rest) ← name? cs
  match behindEquals? rest with
  | some value => return (name, value)
  | none =>
    if name = "export".toList then
      let (name, rest) ← name? (Text.trimStart rest)
      return (name, ← behindEquals? rest)
    else
      none

/-- The text is empty or starts a comment. -/
def isVoid (cs : List Char) : Bool := cs.isEmpty || cs.head? == some '#'

/-- What a line says, given the values of names. -/
def ofLine (lookup : String → String) (line : List Char) : Entry :=
  let line := Text.trim line
  if isVoid line then
    .nothing
  else
    match assignment? line with
    | none => .malformed
    | some (name, text) =>
      if isVoid text then
        .assigns (String.ofList name) ""
      else
        match ValueReader.read lookup text with
        | none => .malformed
        | some value => .assigns (String.ofList name) (String.ofList value)

end Entry

end Custody.Environment
