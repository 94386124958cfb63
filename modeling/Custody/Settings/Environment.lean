import Custody.Decimal.Integer
import Custody.Environment.File
import Custody.Settings.Basic

/-!
# Settings in the environment

Each setting has a variable, named by a common prefix and the name of the
setting. A variable that is not set leaves the standard value. Blanks around a
value do not count, nor does the case of the words for an order.

* `ServingOrder.ofWord?`: the order of a word or its short form;
* `Settings.ofVariables?`: the settings of the variables, validated.
-/

namespace Custody

open Environment (Variables)

/-- The order of a word, in any case and with blanks around it, or the word that
is none. -/
def ServingOrder.ofWord? (raw : String) : Except String ServingOrder :=
  let word := String.ofList ((Text.trim raw.toList).map Char.toLower)
  if word = "ascending" || word = "asc" then .ok .ascending
  else if word = "descending" || word = "desc" then .ok .descending
  else .error word

namespace Settings

/-- Why the variables hold no settings to work with. -/
inductive VariableFault
  | integer (name raw : String) (fault : Decimal.Integer.Fault)
  | order (word : String)
  | invalid (fault : Fault)
  deriving DecidableEq, Repr

def VariableFault.message : VariableFault → String
  | .integer name raw fault => s!"{name}: cannot parse `{raw}`: {fault.message}"
  | .order word => s!"unknown priority order `{word}`"
  | .invalid fault => fault.message

/-- The integer in a variable, or the standard one. -/
def integerIn {α : Type} (v : Variables) (name : String)
    (read : List Char → Except Decimal.Integer.Fault α) (otherwise : α) :
    Except VariableFault α :=
  match v.value? name with
  | none => .ok otherwise
  | some raw => (read (Text.trim raw.toList)).mapError (.integer name raw)

/-- The order in a variable, or the standard one. -/
def orderIn (v : Variables) (name : String) (otherwise : ServingOrder) :
    Except VariableFault ServingOrder :=
  match v.value? name with
  | none => .ok otherwise
  | some raw => (ServingOrder.ofWord? raw).mapError .order

/-- The settings that the variables of a family hold. -/
def ofVariables? (v : Variables) (family : String) : Except VariableFault Settings := do
  let maxResources ←
    integerIn v (family ++ "_MAX_RESOURCES") Decimal.Integer.natural64? standard.maxResources
  let waiterCapacity ←
    integerIn v (family ++ "_WAITER_CAPACITY") Decimal.Integer.natural64? standard.waiterCapacity
  let order ← orderIn v (family ++ "_ORDER") standard.order
  let defaultPriority ←
    integerIn v (family ++ "_DEFAULT_PRIORITY") Decimal.Integer.signed64? standard.defaultPriority
  let settings : Settings := ⟨maxResources, waiterCapacity, order, defaultPriority⟩
  settings.validated.mapError .invalid

end Settings

end Custody
