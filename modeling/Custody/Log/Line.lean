/-!
# Log lines

A line of the log has a level, a message and named values.

* `Line.names`: what the line has;
* `Line.text`: the line without its origin;
* `Line.textFrom`: the line with its origin.
-/

namespace Custody.Log

/-- The levels, from the most to the least verbose. -/
inductive Level
  | trace
  | debug
  | info
  | warn
  | error
  deriving DecidableEq, Repr

namespace Level

/-- How severe a level is. -/
def severity : Level → Nat
  | trace => 1
  | debug => 2
  | info => 3
  | warn => 4
  | error => 5

def word : Level → String
  | trace => "TRACE"
  | debug => "DEBUG"
  | info => "INFO"
  | warn => "WARN"
  | error => "ERROR"

end Level

/-- One line of the log. -/
structure Line where
  level : Level
  message : String
  fields : List (String × String)
  deriving DecidableEq, Repr

namespace Line

/-- The names of all the line has, of which the message is one. -/
def names (l : Line) : List String := "message" :: l.fields.map Prod.fst

/-- The message and the values behind it. -/
def body (l : Line) : String :=
  " ".intercalate (l.message :: l.fields.map fun (name, value) => name ++ "=" ++ value)

def text (l : Line) : String := l.level.word ++ " " ++ l.body

def textFrom (origin : String) (l : Line) : String :=
  l.level.word ++ " " ++ origin ++ ": " ++ l.body

end Line

end Custody.Log
