/-!
# Structural descriptions

The text that shows a value by its constructors: a record names its fields, a
list stands in brackets, and an optional value says whether it is there.
-/

namespace Custody.Text

/-- Items between commas. -/
def commas (items : List String) : String := ", ".intercalate items

/-- A record with all its fields. -/
def record (name : String) (fields : List (String × String)) : String :=
  name ++ " \x7b " ++ commas (fields.map fun (field, value) => field ++ ": " ++ value) ++ " \x7d"

/-- A record that keeps some of its fields to itself. -/
def openRecord (name : String) (fields : List (String × String)) : String :=
  name ++ " \x7b " ++ commas (fields.map (fun (field, value) => field ++ ": " ++ value) ++ [".."])
    ++ " \x7d"

/-- A constructor with one argument. -/
def applied (name argument : String) : String := name ++ "(" ++ argument ++ ")"

def sequence (items : List String) : String := "[" ++ commas items ++ "]"

def optional : Option String → String
  | none => "None"
  | some value => applied "Some" value

end Custody.Text
