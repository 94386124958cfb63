import Custody.Json.Skip

/-!
# Expected scalars

Reading a value that must be an integer of 64 bits, `null`, or one of a few
names. What is found instead is read far enough to be named in the refusal.

* `mismatch`: the refusal of a value of the wrong kind;
* `readNatural`, `readSigned`, `readNull`, `readName`: the expected scalars.
-/

namespace Custody.Json

/-- A refusal placed behind what was read. -/
def Input.fault (i : Input) (cause : Cause) : Fault := ⟨cause, i.place⟩

/-- Refuses the word that starts here, read past its first letter. -/
def mismatchedWord (word : List Char) (found : Found) (expected : String) (i : Input) : Fault :=
  match expectWord word i with
  | .error fault => fault
  | .ok rest => rest.fault (.wrongKind found expected)

/-- Refuses a number of the wrong kind. -/
def mismatchedNumber (positive : Bool) (expected : String) (i : Input) : Fault :=
  match readNumber positive i with
  | .error fault => fault
  | .ok (.natural n, rest) => rest.fault (.wrongKind (.integer n) expected)
  | .ok (.negative n, rest) => rest.fault (.wrongKind (.integer n) expected)
  | .ok (.real x, rest) => rest.fault (.wrongKind (.real x) expected)

/-- Refuses the value that starts here, which must be none of the expected kind. -/
def mismatch (expected : String) (i : Input) : Fault :=
  match i.chars with
  | [] => ⟨.valueExpected, i.peekPlace⟩
  | 'n' :: _ => mismatchedWord ['u', 'l', 'l'] .null expected i.eat
  | 't' :: _ => mismatchedWord ['r', 'u', 'e'] (.boolean true) expected i.eat
  | 'f' :: _ => mismatchedWord ['a', 'l', 's', 'e'] (.boolean false) expected i.eat
  | '-' :: _ => mismatchedNumber false expected i.eat
  | '"' :: _ =>
    match readText i.eat with
    | .error fault => fault
    | .ok (text, rest) => rest.fault (.wrongKind (.text text) expected)
  | '[' :: _ => i.fault (.wrongKind .list expected)
  | '{' :: _ => i.fault (.wrongKind .object expected)
  | c :: _ =>
    if c.isDigit then mismatchedNumber true expected i
    else ⟨.valueExpected, i.peekPlace⟩

/-- Reads a number, or refuses what starts here. -/
def readExpectedNumber (expected : String) (i : Input) : Except Fault (Number × Input) :=
  match i.chars with
  | [] => i.refuse .endInValue
  | '-' :: _ => readNumber false i.eat
  | c :: _ => if c.isDigit then readNumber true i else .error (mismatch expected i)

/-- Reads an unsigned 64-bit integer. -/
def readNatural (expected : String) (i : Input) : Except Fault (UInt64 × Input) :=
  match readExpectedNumber expected i.skipBlank with
  | .error fault => .error fault
  | .ok (.natural n, rest) => .ok (UInt64.ofNat n, rest)
  | .ok (.negative n, rest) => rest.refuse (.wrongValue (.integer n) expected)
  | .ok (.real x, rest) => rest.refuse (.wrongKind (.real x) expected)

/-- Reads a signed 64-bit integer. -/
def readSigned (expected : String) (i : Input) : Except Fault (Int64 × Input) :=
  match readExpectedNumber expected i.skipBlank with
  | .error fault => .error fault
  | .ok (.natural n, rest) =>
    if n < Nat.pow 2 63 then .ok (Int64.ofNat n, rest)
    else rest.refuse (.wrongValue (.integer n) expected)
  | .ok (.negative n, rest) => .ok (Int64.ofInt n, rest)
  | .ok (.real x, rest) => rest.refuse (.wrongKind (.real x) expected)

/-- Reads `null`. -/
def readNull (expected : String) (i : Input) : Except Fault Input :=
  let start := i.skipBlank
  match start.chars with
  | [] => start.refuse .endInValue
  | 'n' :: _ => expectWord ['u', 'l', 'l'] start.eat
  | _ => .error (mismatch expected start)

/-- Reads a text, behind its opening quotation mark, that must be one of the known
names. -/
def readKnown {α : Type} (known : List (String × α)) (i : Input) : Except Fault (α × Input) :=
  match readText i with
  | .error fault => .error fault
  | .ok (name, rest) =>
    match known.lookup name with
    | some value => .ok (value, rest)
    | none => rest.refuse (.unknownVariant name (known.map Prod.fst))

/-- Past the colon between the key and the value of a member. -/
def readColon (i : Input) : Except Fault Input :=
  let start := i.skipBlank
  match start.chars with
  | [] => start.refuse .endInObject
  | ':' :: _ => .ok start.eat
  | _ => start.refuseNext .colonExpected

/-- Reads an object, behind the opening quotation mark of its key, whose one member
is `null` under one of the known names. -/
def readKnownKey {α : Type} (known : List (String × α)) (i : Input) :
    Except Fault (α × Input) :=
  match readKnown known i with
  | .error fault => .error fault
  | .ok (value, rest) =>
    match readColon rest with
    | .error fault => .error fault
    | .ok rest =>
      match readNull "unit" rest with
      | .error fault => .error fault
      | .ok rest =>
        let close := rest.skipBlank
        match close.chars with
        | [] => close.refuse .endInObject
        | '}' :: _ => .ok (value, close.eat)
        | _ => close.refuse .valueExpected

/-- Reads one of the known names, as a text, or as the key of an object with the
one member `null`. -/
def readName {α : Type} (known : List (String × α)) (i : Input) : Except Fault (α × Input) :=
  let start := i.skipBlank
  match start.chars with
  | [] => start.refuse .endInValue
  | '"' :: _ => readKnown known start.eat
  | '{' :: _ =>
    let key := start.eat.skipBlank
    match key.chars with
    | [] => key.refuse .endInObject
    | '"' :: _ => readKnownKey known key.eat
    | '}' :: _ => key.refuseNext .valueExpected
    | _ => key.refuseNext .keyNotText
  | _ => start.refuseNext .valueExpected

end Custody.Json
