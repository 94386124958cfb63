import Custody.Broker.Basic
import Custody.Log.Line
import Custody.Settings.Roster

/-!
# Brokers of a roster

All brokers of a roster are built, or none: the roster is validated as a whole
before the first broker is made.
-/

namespace Custody

namespace Roster

variable {ι ρ : Type} [DecidableEq ι]

/-- The line of the log for a broker that was built. -/
def builtLine (name : String) (settings : Settings) : Log.Line :=
  ⟨.debug, "broker built",
    [("broker", name), ("max_resources", toString settings.maxResources),
      ("waiter_capacity", toString settings.waiterCapacity)]⟩

/-- Builds the brokers one by one, as long as that succeeds. -/
def buildMembers :
    List (String × Settings) → Except (Refusal ι) (List (String × Broker ι ρ)) × List Log.Line
  | [] => (.ok [], [])
  | (name, settings) :: rest =>
    match Broker.new? settings with
    | .error fault =>
      (.error (.invalidSettings s!"broker `{name}`: {Refusal.invalidMessage fault.message}"), [])
    | .ok broker =>
      match buildMembers rest with
      | (.error refusal, lines) => (.error refusal, builtLine name settings :: lines)
      | (.ok brokers, lines) => (.ok ((name, broker) :: brokers), builtLine name settings :: lines)

/-- Builds the brokers of a roster, and gives the lines of the log. -/
def build (r : Roster) : Except (Refusal ι) (List (String × Broker ι ρ)) × List Log.Line :=
  match r.validate with
  | .error fault => (.error (.invalidSettings fault.message), [])
  | .ok () => buildMembers r.brokers.entries

end Roster

end Custody
