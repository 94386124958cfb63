import Custody.Decimal.Integer
import Custody.Log.Line
import Custody.Log.Pattern
import Custody.Text.Bytes

/-!
# Filter directives

A directive names a level, the start of an origin, or both with an equals sign
between them. In square brackets it may name a span, and in braces within them a
field, with a value or without. A directive with a span, or with the value of a
field, is about spans and covers no line; one with a field alone covers the lines
that have it.

* `Threshold.ofText?`: the levels, by number or by name;
* `Directive.ofText?`: one directive;
* `Directive.covers`: the lines it is about;
* `Directive.isBelow`: which of two directives is the less specific one.
-/

namespace Custody.Log

/-- The least severe level that is shown. -/
inductive Threshold
  | off
  | upTo (level : Level)
  deriving DecidableEq, Repr

namespace Threshold

def shows (t : Threshold) (level : Level) : Bool :=
  match t with
  | off => false
  | upTo least => least.severity ≤ level.severity

/-- The thresholds by number. -/
def ofNumber? : Nat → Option Threshold
  | 0 => some off
  | 1 => some (upTo .error)
  | 2 => some (upTo .warn)
  | 3 => some (upTo .info)
  | 4 => some (upTo .debug)
  | 5 => some (upTo .trace)
  | _ => none

/-- The thresholds by name, in any case. -/
def ofName? (name : String) : Option Threshold :=
  [("", upTo .error), ("error", upTo .error), ("warn", upTo .warn), ("info", upTo .info),
    ("debug", upTo .debug), ("trace", upTo .trace), ("off", off)].lookup
    (String.ofList (name.toList.map Char.toLower))

/-- The threshold of a number or a name. -/
def ofText? (cs : List Char) : Option Threshold :=
  match Decimal.Integer.natural64? cs with
  | .ok n => ofNumber? n.toNat
  | .error _ => ofName? (String.ofList cs)

/-- The threshold behind an equals sign. Without one everything is shown. -/
def assigned? (cs : List Char) : Option Threshold :=
  if cs.isEmpty then some (upTo .trace) else ofText? cs

end Threshold

/-- What a directive is about, apart from the origin. -/
inductive Scope
  | everything
  /-- The lines with a field of this name. -/
  | field (name : String)
  /-- Spans, and no line. -/
  | spans
  deriving DecidableEq, Repr

namespace Scope

/-- The scope holds lines with these fields. -/
def covers (names : List String) : Scope → Bool
  | everything => true
  | field name => names.contains name
  | spans => false

/-- A scope with a field is more specific than one without, and of two fields the
one later in the alphabet is. -/
def isBelow : Scope → Scope → Bool
  | everything, field _ => true
  | field name, field other => name < other
  | _, _ => false

/-- Digits, of which there may be a fraction and a power of ten. -/
def isDecimal (cs : List Char) : Bool :=
  let whole := cs.takeWhile Char.isDigit
  let (fraction, rest) :=
    match cs.dropWhile Char.isDigit with
    | '.' :: rest => (rest.takeWhile Char.isDigit, rest.dropWhile Char.isDigit)
    | rest => ([], rest)
  let digits (cs : List Char) := !cs.isEmpty && cs.all Char.isDigit
  digits (whole ++ fraction) &&
    match rest with
    | [] => true
    | mark :: '+' :: power => mark.toLower == 'e' && digits power
    | mark :: '-' :: power => mark.toLower == 'e' && digits power
    | mark :: power => mark.toLower == 'e' && digits power

/-- A number with or without a sign, finite or not. -/
def isNumber (cs : List Char) : Bool :=
  let unsigned :=
    match cs with
    | '+' :: rest => rest
    | '-' :: rest => rest
    | rest => rest
  isDecimal unsigned ||
    ["inf", "infinity", "nan"].contains (String.ofList (unsigned.map Char.toLower))

/-- The scope of a field in braces. Its name ends at the first equals sign, and its
value, a number or a pattern, at the second. -/
def ofField? (cs : List Char) : Option Scope :=
  if cs.isEmpty then none
  else
    match cs.dropWhile (· ≠ '=') with
    | [] => some (field (String.ofList cs))
    | _ :: rest =>
      let value := rest.takeWhile (· ≠ '=')
      if isNumber value || Pattern.isWellFormed value then some spans else none

end Scope

/-- One rule of a filter. -/
structure Directive where
  /-- The start of the origins it covers, or all of them. -/
  target : Option String
  scope : Scope
  threshold : Threshold
  deriving DecidableEq, Repr

namespace Directive

/-- A directive starts with a letter or digit, or one of these marks. -/
def isStart (c : Char) : Bool := c == '-' || c == ':' || c == '_' || Text.isAlphanumeric c

/-- A level, or else the start of an origin, all of whose lines are shown. -/
def ofWord (cs : List Char) : Directive :=
  match Threshold.ofText? cs with
  | some threshold => ⟨none, .everything, threshold⟩
  | none => ⟨some (String.ofList cs), .everything, .upTo .trace⟩

/-- The threshold behind a span, of which `tail` is left and starts at `start`. -/
def thresholdBehind? (text tail : List Char) (start : Nat) : Option Threshold :=
  match tail with
  | [] => some (.upTo .trace)
  | '=' :: _ => Threshold.assigned? (Text.dropBytes (start + 1) text)
  | _ => none

/-- The directive whose span starts at `start`, where `tail` is left. -/
def ofSpan? (target : Option String) (text tail : List Char) (start : Nat) :
    Option Directive :=
  let span := tail.takeWhile fun c => c ≠ ']' && c ≠ '{'
  let behind := start + Text.byteCount span + 1
  match tail.drop span.length with
  | ']' :: rest => do
    return ⟨target, .spans, ← thresholdBehind? text rest behind⟩
  | '{' :: rest => do
    let fields := rest.takeWhile (· ≠ '}')
    let length := Text.byteCount fields
    let scope ← Scope.ofField? (Text.takeBytes length (Text.dropBytes behind text))
    match rest.drop fields.length with
    | '}' :: ']' :: rest =>
      return ⟨target, if span.isEmpty then scope else .spans,
        ← thresholdBehind? text rest (behind + length + 2)⟩
    | _ => none
  | _ => none

/-- The directive of a text. Where its parts are is found without the blanks at its
ends, and then the parts are cut from the text with them, at the same bytes: a blank
in front shifts them all, and one at the end belongs to the last. -/
def ofText? (text : String) : Option Directive :=
  let text := text.toList
  let body := Text.trim text
  match body with
  | [] => none
  | '[' :: rest => ofSpan? none text rest 1
  | c :: _ =>
    if isStart c then
      let word := body.takeWhile fun c => c ≠ '=' && c ≠ '['
      let length := Text.byteCount word
      let target := some (String.ofList (Text.takeBytes length text))
      match body.drop word.length with
      | '=' :: _ => do
        return ⟨target, .everything, ← Threshold.assigned? (Text.dropBytes (length + 1) text)⟩
      | '[' :: rest => ofSpan? target text rest (length + 1)
      | _ => some (ofWord text)
    else
      none

/-- The directive is about lines of the origin with these fields. -/
def covers (d : Directive) (origin : String) (names : List String) : Bool :=
  d.scope.covers names &&
    match d.target with
    | none => true
    | some target => target.toList.isPrefixOf origin.toList

/-- How much of the origin the directive names. -/
def rank (d : Directive) : Nat :=
  match d.target with
  | none => 0
  | some target => target.length + 1

/-- The directive is less specific than the other one. -/
def isBelow (d other : Directive) : Bool :=
  d.rank < other.rank || d.rank == other.rank && d.scope.isBelow other.scope

end Directive

end Custody.Log
