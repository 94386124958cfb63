import Custody.Log.Directive

/-!
# Log filters

A filter is a list of directives between commas. Of the directives that cover a line
the most specific one decides, and of two alike the later one; what none covers is
not shown.

* `Filter.ofText?`, `Filter.ofTextLossy`: all directives of a text, or those that are
  well formed;
* `Filter.shows`: whether a line is shown.
-/

namespace Custody.Log

/-- A list of directives. -/
structure Filter where
  directives : List Directive
  deriving DecidableEq, Repr

namespace Filter

/-- Without any directive errors are shown. -/
def ofDirectives (directives : List Directive) : Filter :=
  if directives.isEmpty then ⟨[⟨none, .everything, .upTo .error⟩]⟩ else ⟨directives⟩

/-- The texts between the commas. -/
def segments (text : String) : List String :=
  (text.splitOn ",").filter fun segment => !segment.isEmpty

/-- The filter of a text in which every directive is well formed. -/
def ofText? (text : String) : Option Filter :=
  ((segments text).mapM Directive.ofText?).map ofDirectives

/-- The filter of the directives that are well formed. -/
def ofTextLossy (text : String) : Filter :=
  ofDirectives ((segments text).filterMap Directive.ofText?)

/-- The later of two directives, unless it is less specific than the earlier one. -/
def moreSpecific (best : Option Directive) (d : Directive) : Option Directive :=
  match best with
  | none => some d
  | some b => if d.isBelow b then some b else some d

/-- The directive that decides about lines of the origin with these fields. -/
def deciding? (f : Filter) (origin : String) (names : List String) : Option Directive :=
  (f.directives.filter fun d => d.covers origin names).foldl moreSpecific none

/-- The filter shows a line from the origin. -/
def shows (f : Filter) (origin : String) (line : Line) : Bool :=
  match f.deciding? origin line.names with
  | none => false
  | some d => d.threshold.shows line.level

end Filter

end Custody.Log
