import Custody.Registry
import Custody.Settings.Json

/-!
# Rosters

Settings for several brokers, by name. Whether a roster is valid does not depend
on the order of its names; which fault is reported when there are several does,
and it is the first one met.

* `Roster.validate`: there is a broker, and all settings are valid;
* `Roster.ofJson?`: the roster of a text, validated.
-/

namespace Custody

/-- Settings of brokers by name, in the order in which they are gone through. -/
structure Roster where
  brokers : Registry String Settings

namespace Roster

open Json (Input Failure readField skipField)

/-- What is wrong with a roster. -/
inductive Fault
  | empty
  | member (name : String) (fault : Settings.Fault)
  deriving DecidableEq, Repr

def Fault.message : Fault → String
  | .empty => "at least one broker must be defined"
  | .member name fault => s!"broker `{name}` invalid: {fault.message}"

/-- The first fault of the members. -/
def validateMembers : List (String × Settings) → Except Fault Unit
  | [] => .ok ()
  | (name, settings) :: rest =>
    match settings.validate with
    | .error fault => .error (.member name fault)
    | .ok () => validateMembers rest

/-- Refuses a roster without brokers, or with settings that are not valid. -/
def validate (r : Roster) : Except Fault Unit :=
  if r.brokers.entries.isEmpty then .error .empty else validateMembers r.brokers.entries

/-- Reads the settings of one name. The last ones of a name count. -/
def readEntry (name : String) (entries : Registry String Settings) (i : Input) :
    Except Failure (Registry String Settings × Input) :=
  readField name (none : Option Settings) Settings.read (entries.put name) i

def entryReader : Json.MemberReader (Registry String Settings) :=
  ⟨readEntry, Json.readField_size fun _ _ _ => Settings.read_size⟩

/-- Reads settings by name. -/
def readEntries (i : Input) : Except Json.Fault (Registry String Settings × Input) :=
  Json.readObject "a map" entryReader .empty i

theorem readEntries_size {i rest : Input} {entries : Registry String Settings}
    (h : readEntries i = .ok (entries, rest)) : rest.size ≤ i.size := Json.readObject_size h

/-- Reads the member of the given key. -/
def readMember (key : String) (given : Option (Registry String Settings)) (i : Input) :
    Except Failure (Option (Registry String Settings) × Input) :=
  if key = "brokers" then readField key given readEntries some i else skipField given i

theorem readMember_size {key : String} {given given' : Option (Registry String Settings)}
    {i rest : Input} (h : readMember key given i = .ok (given', rest)) :
    rest.size ≤ i.size := by
  unfold readMember at h
  split at h
  · exact Json.readField_size (fun _ _ _ => readEntries_size) h
  · exact Json.skipField_size h

def memberReader : Json.MemberReader (Option (Registry String Settings)) :=
  ⟨readMember, readMember_size⟩

/-- Reads the members of an object behind its opening bracket. -/
def readMembers (i : Input) : Except Failure (Roster × Input) :=
  match Json.readMembers memberReader true none i with
  | .error failure => .error failure
  | .ok (none, rest) => .error (.unplaced (.missingField "brokers") rest)
  | .ok (some brokers, rest) => .ok (⟨brokers⟩, rest)

/-- Reads the items of a list behind its opening bracket. -/
def readItems (i : Input) : Except Failure (Roster × Input) :=
  match Settings.readItem true readEntries i with
  | .error failure => .error failure
  | .ok (none, i) => .error (.unplaced (.wrongLength 0 "struct BrokerSetConfig with 1 element") i)
  | .ok (some brokers, i) => .ok (⟨brokers⟩, i)

theorem readMembers_size {i rest : Input} {r : Roster} (h : readMembers i = .ok (r, rest)) :
    rest.size ≤ i.size := by
  unfold readMembers at h
  split at h <;> cases h
  exact Json.readMembers_size ‹_›

theorem readItems_size {i rest : Input} {r : Roster} (h : readItems i = .ok (r, rest)) :
    rest.size ≤ i.size := by
  unfold readItems at h
  split at h <;> cases h
  exact Settings.readItem_size (fun _ _ _ => readEntries_size) ‹_›

def reader : Json.RecordReader Roster where
  expected := "struct BrokerSetConfig"
  items := readItems
  members := readMembers
  items_size_le := readItems_size
  members_size_le := readMembers_size

/-- Reads a roster, as it stands. -/
def read (i : Input) : Except Json.Fault (Roster × Input) := Json.readRecord reader i

/-- Why a text holds no roster to work with. -/
inductive JsonFault
  | unreadable (fault : Json.Fault)
  | invalid (fault : Fault)

def JsonFault.message : JsonFault → String
  | .unreadable fault => "parse error: " ++ fault.message
  | .invalid fault => fault.message

/-- The roster of a text, which must be valid. -/
def ofJson? (text : String) : Except JsonFault Roster :=
  match Json.readDocument read text with
  | .error fault => .error (.unreadable fault)
  | .ok r => (r.validate.map fun _ => r).mapError .invalid

end Roster

end Custody
