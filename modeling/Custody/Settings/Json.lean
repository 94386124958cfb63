import Custody.Json.Record
import Custody.Settings.Basic

/-!
# Settings in JSON

Settings are written as an object with the four fields in a fixed order and no
blanks. They are read from an object by the names of the fields, or from a list
by their places; the order and the default priority may be left out, and members
of other names are passed over.

* `Settings.toJson`: the written form;
* `Settings.read`: the settings in an input;
* `Settings.ofJson?`: the settings of a text, validated.
-/

namespace Custody

namespace ServingOrder

/-- The orders by the words for them. -/
def byWord : List (String × ServingOrder) :=
  [(ascending.word, ascending), (descending.word, descending)]

/-- Reads an order. -/
def read (i : Json.Input) : Except Json.Fault (ServingOrder × Json.Input) :=
  Json.readName byWord i

/-- The order of a text. -/
def ofJson? (text : String) : Except Json.Fault ServingOrder := Json.readDocument read text

def toJson (o : ServingOrder) : String := Json.quote o.word

end ServingOrder

namespace Settings

open Json (Input Failure readField skipField nextItem)

/-- The fields that have been read. -/
structure Draft where
  maxResources : Option UInt64
  waiterCapacity : Option UInt64
  order : Option ServingOrder
  defaultPriority : Option Priority
  deriving DecidableEq, Repr

namespace Draft

def blank : Draft := ⟨none, none, none, none⟩

/-- Reads the member of the given key into the draft. -/
def readMember (key : String) (d : Draft) (i : Input) : Except Failure (Draft × Input) :=
  if key = "max_resources" then
    readField key d.maxResources (Json.readNatural "usize")
      (fun value => { d with maxResources := some value }) i
  else if key = "waiter_capacity" then
    readField key d.waiterCapacity (Json.readNatural "usize")
      (fun value => { d with waiterCapacity := some value }) i
  else if key = "order" then
    readField key d.order ServingOrder.read (fun value => { d with order := some value }) i
  else if key = "default_priority" then
    readField key d.defaultPriority (Json.readSigned "i64")
      (fun value => { d with defaultPriority := some value }) i
  else
    skipField d i

/-- The settings of a draft, or the first required field that it lacks. -/
def finish (d : Draft) : Except Json.Cause Settings :=
  match d.maxResources with
  | none => .error (.missingField "max_resources")
  | some maxResources =>
    match d.waiterCapacity with
    | none => .error (.missingField "waiter_capacity")
    | some waiterCapacity =>
      .ok
        { maxResources := maxResources
          waiterCapacity := waiterCapacity
          order := d.order.getD standard.order
          defaultPriority := d.defaultPriority.getD standard.defaultPriority }

theorem readMember_size {key : String} {d d' : Draft} {i rest : Input}
    (h : readMember key d i = .ok (d', rest)) : rest.size ≤ i.size := by
  unfold readMember at h
  split at h
  · exact Json.readField_size (fun _ _ _ => Json.readNatural_size) h
  · split at h
    · exact Json.readField_size (fun _ _ _ => Json.readNatural_size) h
    · split at h
      · exact Json.readField_size (fun _ _ _ => Json.readName_size) h
      · split at h
        · exact Json.readField_size (fun _ _ _ => Json.readSigned_size) h
        · exact Json.skipField_size h

def reader : Json.MemberReader Draft := ⟨readMember, readMember_size⟩

end Draft

/-- Reads the members of an object behind its opening bracket. -/
def readMembers (i : Input) : Except Failure (Settings × Input) :=
  match Json.readMembers Draft.reader true .blank i with
  | .error failure => .error failure
  | .ok (d, rest) =>
    match d.finish with
    | .error cause => .error (.unplaced cause rest)
    | .ok s => .ok (s, rest)

/-- Reads the next item of a list, if there is one. -/
def readItem {α : Type} (first : Bool) (read : Input → Except Json.Fault (α × Input))
    (i : Input) : Except Failure (Option α × Input) :=
  match nextItem first i with
  | .error fault => .error (.placed fault)
  | .ok none => .ok (none, i)
  | .ok (some item) =>
    match read item with
    | .error fault => .error (.placed fault)
    | .ok (value, rest) => .ok (some value, rest)

/-- Reads the items of a list behind its opening bracket. -/
def readItems (i : Input) : Except Failure (Settings × Input) :=
  match readItem true (Json.readNatural "usize") i with
  | .error failure => .error failure
  | .ok (none, i) => .error (.unplaced (.wrongLength 0 "struct BrokerConfig with 4 elements") i)
  | .ok (some maxResources, i) =>
    match readItem false (Json.readNatural "usize") i with
    | .error failure => .error failure
    | .ok (none, i) => .error (.unplaced (.wrongLength 1 "struct BrokerConfig with 4 elements") i)
    | .ok (some waiterCapacity, i) =>
      match readItem false ServingOrder.read i with
      | .error failure => .error failure
      | .ok (order, i) =>
        match readItem false (Json.readSigned "i64") i with
        | .error failure => .error failure
        | .ok (defaultPriority, i) =>
          .ok
            ({ maxResources := maxResources
               waiterCapacity := waiterCapacity
               order := order.getD standard.order
               defaultPriority := defaultPriority.getD standard.defaultPriority }, i)

theorem readMembers_size {i rest : Input} {s : Settings}
    (h : readMembers i = .ok (s, rest)) : rest.size ≤ i.size := by
  unfold readMembers at h
  split at h
  · cases h
  · split at h <;> cases h
    exact Json.readMembers_size ‹_›

theorem readItem_size {α : Type} {first : Bool}
    {read : Input → Except Json.Fault (α × Input)} {i rest : Input} {value : Option α}
    (hread : ∀ j value rest, read j = .ok (value, rest) → rest.size ≤ j.size)
    (h : readItem first read i = .ok (value, rest)) : rest.size ≤ i.size := by
  unfold readItem at h
  split at h
  · cases h
  · cases h
    exact Nat.le_refl _
  · next hnext =>
    split at h <;> cases h
    exact Nat.le_trans (hread _ _ _ ‹_›) (Json.nextItem_size hnext)

theorem readItems_size {i rest : Input} {s : Settings}
    (h : readItems i = .ok (s, rest)) : rest.size ≤ i.size := by
  unfold readItems at h
  split at h
  · cases h
  · cases h
  · next h1 =>
    have := readItem_size (fun _ _ _ => Json.readNatural_size) h1
    split at h
    · cases h
    · cases h
    · next h2 =>
      have := readItem_size (fun _ _ _ => Json.readNatural_size) h2
      split at h
      · cases h
      · next h3 =>
        have := readItem_size (fun _ _ _ => Json.readName_size) h3
        split at h
        · cases h
        · next h4 =>
          have := readItem_size (fun _ _ _ => Json.readSigned_size) h4
          cases h
          omega

def reader : Json.RecordReader Settings where
  expected := "struct BrokerConfig"
  items := readItems
  members := readMembers
  items_size_le := readItems_size
  members_size_le := readMembers_size

/-- Reads settings, as they stand. -/
def read (i : Input) : Except Json.Fault (Settings × Input) := Json.readRecord reader i

theorem read_size {i rest : Input} {s : Settings} (h : read i = .ok (s, rest)) :
    rest.size ≤ i.size := Json.readRecord_size h

/-- Why a text holds no settings to work with. -/
inductive JsonFault
  | unreadable (fault : Json.Fault)
  | invalid (fault : Fault)

def JsonFault.message : JsonFault → String
  | .unreadable fault => "parse error: " ++ fault.message
  | .invalid fault => fault.message

/-- The settings of a text, which must be valid. -/
def ofJson? (text : String) : Except JsonFault Settings :=
  match Json.readDocument read text with
  | .error fault => .error (.unreadable fault)
  | .ok s => s.validated.mapError .invalid

/-- The written form of settings. -/
def toJson (s : Settings) : String :=
  "\x7b\"max_resources\":" ++ toString s.maxResources
    ++ ",\"waiter_capacity\":" ++ toString s.waiterCapacity
    ++ ",\"order\":" ++ s.order.toJson
    ++ ",\"default_priority\":" ++ toString s.defaultPriority ++ "\x7d"

end Settings

end Custody
