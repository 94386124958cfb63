import Custody.Decimal.Notation
import Custody.Json.Input
import Custody.Text.Quoted

/-!
# Faults of JSON texts

Why a text is not the JSON that was asked for, and where. A text can break the
grammar of JSON, or hold a well-formed value of the wrong kind.

* `Cause.message`: the wording of a cause;
* `Fault.message`: the wording of a cause with its place.
-/

namespace Custody.Json

/-- A value that was found where another was expected. -/
inductive Found
  | null
  | boolean (value : Bool)
  | integer (value : Int)
  | real (value : Float)
  | text (value : String)
  | list
  | object

def Found.message : Found → String
  | .null => "null"
  | .boolean value => s!"boolean `{value}`"
  | .integer value => s!"integer `{value}`"
  | .real value => s!"floating point `{Decimal.ofFloat value}`"
  | .text value => s!"string {Text.quoted value}"
  | .list => "sequence"
  | .object => "map"

/-- Why a text was refused. -/
inductive Cause
  | endInList
  | endInObject
  | endInText
  | endInValue
  | colonExpected
  | commaOrListEndExpected
  | commaOrObjectEndExpected
  | wordExpected
  | valueExpected
  | invalidEscape
  | invalidNumber
  | numberOutOfRange
  | controlCharacter
  | keyNotText
  | loneSurrogate
  | unpairedSurrogate
  | trailingComma
  | trailingCharacters
  | wrongKind (found : Found) (expected : String)
  | wrongValue (found : Found) (expected : String)
  | wrongLength (length : Nat) (expected : String)
  | unknownVariant (name : String) (known : List String)
  | missingField (name : String)
  | duplicateField (name : String)

/-- A choice of two or more names. -/
def alternatives (names : List String) : String :=
  match names.map fun name => s!"`{name}`" with
  | [first, second] => first ++ " or " ++ second
  | quoted => "one of " ++ ", ".intercalate quoted

def Cause.message : Cause → String
  | .endInList => "EOF while parsing a list"
  | .endInObject => "EOF while parsing an object"
  | .endInText => "EOF while parsing a string"
  | .endInValue => "EOF while parsing a value"
  | .colonExpected => "expected `:`"
  | .commaOrListEndExpected => "expected `,` or `]`"
  | .commaOrObjectEndExpected => "expected `,` or `\x7d`"
  | .wordExpected => "expected ident"
  | .valueExpected => "expected value"
  | .invalidEscape => "invalid escape"
  | .invalidNumber => "invalid number"
  | .numberOutOfRange => "number out of range"
  | .controlCharacter =>
    "control character (\\u0000-\\u001F) found while parsing a string"
  | .keyNotText => "key must be a string"
  | .loneSurrogate => "lone leading surrogate in hex escape"
  | .unpairedSurrogate => "unexpected end of hex escape"
  | .trailingComma => "trailing comma"
  | .trailingCharacters => "trailing characters"
  | .wrongKind found expected => s!"invalid type: {found.message}, expected {expected}"
  | .wrongValue found expected => s!"invalid value: {found.message}, expected {expected}"
  | .wrongLength length expected => s!"invalid length {length}, expected {expected}"
  | .unknownVariant name known => s!"unknown variant `{name}`, expected {alternatives known}"
  | .missingField name => s!"missing field `{name}`"
  | .duplicateField name => s!"duplicate field `{name}`"

/-- A cause and the place where it came up. -/
structure Fault where
  cause : Cause
  place : Position

def Fault.message (f : Fault) : String :=
  s!"{f.cause.message} at line {f.place.line} column {f.place.column}"

namespace Input

/-- Refuses the text at the place reached. -/
def refuse {α : Type} (i : Input) (cause : Cause) : Except Fault α :=
  .error ⟨cause, i.place⟩

/-- Refuses the text at the next character, which is not read. -/
def refuseNext {α : Type} (i : Input) (cause : Cause) : Except Fault α :=
  .error ⟨cause, i.peekPlace⟩

end Input

end Custody.Json
