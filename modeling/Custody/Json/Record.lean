import Custody.Json.Progress

/-!
# Records in JSON

A record is read from an object, its members in any order, or from a list of its
fields. What is wrong with a record as a whole, such as a field it lacks, has
its place where the reader leaves the brackets.

* `nextItem`, `nextKey`: the steps from one item or member to the next;
* `readMembers`: all members of an object, one after the other;
* `readRecord`: a record in either form;
* `readDocument`: one value and nothing behind it.
-/

namespace Custody.Json

/-- A refusal inside brackets. -/
inductive Failure
  | placed (fault : Fault)
  /-- The place is where the brackets are left from this input. -/
  | unplaced (cause : Cause) (i : Input)

/-- The input where the next item of a list starts, or `none` at its end. -/
def nextItem (first : Bool) (i : Input) : Except Fault (Option Input) :=
  let start := i.skipBlank
  match start.chars with
  | [] => start.refuse .endInList
  | ']' :: _ => .ok none
  | c :: _ =>
    if first then
      .ok (some start)
    else if c = ',' then
      let item := start.eat.skipBlank
      match item.chars with
      | [] => item.refuse .endInValue
      | ']' :: _ => item.refuseNext .trailingComma
      | _ => .ok (some item)
    else
      start.refuseNext .commaOrListEndExpected

/-- The next key of an object and the input behind it, or `none` at its end. -/
def nextKey (first : Bool) (i : Input) : Except Fault (Option (String × Input)) :=
  let start := i.skipBlank
  match start.chars with
  | [] => start.refuse .endInObject
  | '}' :: _ => .ok none
  | c :: _ =>
    if first then
      if c = '"' then (readText start.eat).map some else start.refuseNext .keyNotText
    else if c = ',' then
      let key := start.eat.skipBlank
      match key.chars with
      | [] => key.refuse .endInValue
      | '"' :: _ => (readText key.eat).map some
      | '}' :: _ => key.refuseNext .trailingComma
      | _ => key.refuseNext .keyNotText
    else
      start.refuseNext .commaOrObjectEndExpected

theorem nextItem_size {first : Bool} {i item : Input} (h : nextItem first i = .ok (some item)) :
    item.size ≤ i.size := by
  have blank := i.size_skipBlank_le
  have eaten := i.skipBlank.size_eat_le
  have again := i.skipBlank.eat.size_skipBlank_le
  unfold nextItem at h
  simp only at h
  split at h
  · cases h
  · cases h
  · split at h
    · cases h
      exact blank
    · split at h
      · split at h <;> cases h
        omega
      · cases h

theorem readText_map_size {i rest : Input} {key : String}
    (h : (readText i).map some = .ok (some (key, rest))) : rest.size < i.size := by
  cases hread : readText i with
  | error fault => simp [hread, Except.map] at h
  | ok result =>
    simp only [hread, Except.map, Except.ok.injEq, Option.some.injEq] at h
    exact readText_size (h ▸ hread)

theorem nextKey_size {first : Bool} {i rest : Input} {key : String}
    (h : nextKey first i = .ok (some (key, rest))) : rest.size < i.size := by
  have blank := i.size_skipBlank_le
  have eaten := i.skipBlank.size_eat_le
  have again := i.skipBlank.eat.size_skipBlank_le
  have eatenAgain := i.skipBlank.eat.skipBlank.size_eat_le
  unfold nextKey at h
  simp only at h
  split at h
  · cases h
  · cases h
  · split at h
    · split at h
      · have := readText_map_size h
        omega
      · cases h
    · split at h
      · split at h
        · cases h
        · have := readText_map_size h
          omega
        · cases h
        · cases h
      · cases h

/-- How the members of an object are collected: `read` is given the key, what
has been collected and the input behind the key. -/
structure MemberReader (δ : Type) where
  read : String → δ → Input → Except Failure (δ × Input)
  size_le : ∀ {key d d' i rest}, read key d i = .ok (d', rest) → rest.size ≤ i.size

/-- Reads the members of an object up to its closing bracket. -/
def readMembers {δ : Type} (m : MemberReader δ) (first : Bool) (d : δ) (i : Input) :
    Except Failure (δ × Input) :=
  match _next : nextKey first i with
  | .error fault => .error (.placed fault)
  | .ok none => .ok (d, i)
  | .ok (some (key, value)) =>
    match _member : m.read key d value with
    | .error failure => .error failure
    | .ok (d, rest) => readMembers m false d rest
termination_by i.size
decreasing_by
  exact Nat.lt_of_le_of_lt (m.size_le _member) (nextKey_size _next)

theorem readMembers_size {δ : Type} {m : MemberReader δ} {first : Bool} {d d' : δ}
    {i rest : Input} (h : readMembers m first d i = .ok (d', rest)) : rest.size ≤ i.size := by
  fun_induction readMembers m first d i with
  | case1 => cases h
  | case2 => cases h; exact Nat.le_refl _
  | case3 => cases h
  | case4 _ _ _ _ _ hnext _ _ hmember ih =>
    have := ih h
    have := m.size_le hmember
    have := nextKey_size hnext
    omega

/-- Past the end of a list. -/
def closeList (i : Input) : Except Fault Input :=
  let start := i.skipBlank
  match start.chars with
  | [] => start.refuse .endInList
  | ']' :: _ => .ok start.eat
  | ',' :: _ =>
    let next := start.eat.skipBlank
    match next.chars with
    | ']' :: _ => next.refuseNext .trailingComma
    | _ => next.refuseNext .trailingCharacters
  | _ => start.refuseNext .trailingCharacters

/-- Past the end of an object. -/
def closeObject (i : Input) : Except Fault Input :=
  let start := i.skipBlank
  match start.chars with
  | [] => start.refuse .endInObject
  | '}' :: _ => .ok start.eat
  | ',' :: _ => start.refuseNext .trailingComma
  | _ => start.refuseNext .trailingCharacters

theorem closeList_size {i rest : Input} (h : closeList i = .ok rest) : rest.size ≤ i.size := by
  have blank := i.size_skipBlank_le
  have eaten := i.skipBlank.size_eat_le
  unfold closeList at h
  simp only at h
  split at h
  · cases h
  · cases h
    omega
  · split at h <;> cases h
  · cases h

theorem closeObject_size {i rest : Input} (h : closeObject i = .ok rest) :
    rest.size ≤ i.size := by
  have blank := i.size_skipBlank_le
  have eaten := i.skipBlank.size_eat_le
  unfold closeObject at h
  simp only at h
  split at h <;> cases h
  omega

/-- The input reached by leaving a list early: past its end, or past a comma. -/
def leaveList (i : Input) : Input :=
  let start := i.skipBlank
  match start.chars with
  | ']' :: _ => start.eat
  | ',' :: _ => start.eat.skipBlank
  | _ => start

/-- The input reached by leaving an object early: past its end, if that is next. -/
def leaveObject (i : Input) : Input :=
  let start := i.skipBlank
  match start.chars with
  | '}' :: _ => start.eat
  | _ => start

/-- Gives a refusal inside brackets its place. -/
def Failure.settle (leave : Input → Input) : Failure → Fault
  | .placed fault => fault
  | .unplaced cause i => (leave i).fault cause

/-- Reads what stands inside brackets, and the closing bracket. -/
def readInside {α : Type} (read : Input → Except Failure (α × Input)) (leave : Input → Input)
    (close : Input → Except Fault Input) (i : Input) : Except Fault (α × Input) :=
  match read i with
  | .error failure => .error (failure.settle leave)
  | .ok (value, rest) =>
    match close rest with
    | .error fault => .error fault
    | .ok rest => .ok (value, rest)

/-- How a record is read behind its opening bracket. -/
structure RecordReader (α : Type) where
  /-- What the record is called in a refusal. -/
  expected : String
  items : Input → Except Failure (α × Input)
  members : Input → Except Failure (α × Input)
  items_size_le : ∀ {value i rest}, items i = .ok (value, rest) → rest.size ≤ i.size
  members_size_le : ∀ {value i rest}, members i = .ok (value, rest) → rest.size ≤ i.size

/-- Reads a record from an object or a list. -/
def readRecord {α : Type} (r : RecordReader α) (i : Input) : Except Fault (α × Input) :=
  let start := i.skipBlank
  match start.chars with
  | [] => start.refuse .endInValue
  | '[' :: _ => readInside r.items leaveList closeList start.eat
  | '{' :: _ => readInside r.members leaveObject closeObject start.eat
  | _ => .error (mismatch r.expected start)

/-- Reads an object whose keys are free, and nothing else. -/
def readObject {δ : Type} (expected : String) (m : MemberReader δ) (start : δ) (i : Input) :
    Except Fault (δ × Input) :=
  let opening := i.skipBlank
  match opening.chars with
  | [] => opening.refuse .endInValue
  | '{' :: _ => readInside (readMembers m true start) leaveObject closeObject opening.eat
  | _ => .error (mismatch expected opening)

theorem readInside_size {α : Type} {read : Input → Except Failure (α × Input)}
    {leave : Input → Input} {close : Input → Except Fault Input} {i rest : Input} {value : α}
    (hread : ∀ {value rest}, read i = .ok (value, rest) → rest.size ≤ i.size)
    (hclose : ∀ {j rest}, close j = .ok rest → rest.size ≤ j.size)
    (h : readInside read leave close i = .ok (value, rest)) : rest.size ≤ i.size := by
  unfold readInside at h
  split at h
  · cases h
  · next hin =>
    split at h <;> cases h
    exact Nat.le_trans (hclose ‹_›) (hread hin)

theorem readRecord_size {α : Type} {r : RecordReader α} {i rest : Input} {value : α}
    (h : readRecord r i = .ok (value, rest)) : rest.size ≤ i.size := by
  have blank := i.size_skipBlank_le
  have eaten := i.skipBlank.size_eat_le
  unfold readRecord at h
  simp only at h
  split at h
  · cases h
  · have := readInside_size r.items_size_le closeList_size h
    omega
  · have := readInside_size r.members_size_le closeObject_size h
    omega
  · cases h

theorem readObject_size {δ : Type} {expected : String} {m : MemberReader δ} {start d : δ}
    {i rest : Input} (h : readObject expected m start i = .ok (d, rest)) :
    rest.size ≤ i.size := by
  have blank := i.size_skipBlank_le
  have eaten := i.skipBlank.size_eat_le
  unfold readObject at h
  simp only at h
  split at h
  · cases h
  · have := readInside_size readMembers_size closeObject_size h
    omega
  · cases h

/-- Reads a text that holds one value and nothing behind it. -/
def readDocument {α : Type} (read : Input → Except Fault (α × Input)) (text : String) :
    Except Fault α :=
  match read (Input.ofString text) with
  | .error fault => .error fault
  | .ok (value, rest) =>
    let last := rest.skipBlank
    match last.chars with
    | [] => .ok value
    | _ => last.refuseNext .trailingCharacters

/-- Reads the value of a field that must not have been given before. -/
def readField {α δ : Type} (name : String) (given : Option α)
    (read : Input → Except Fault (α × Input)) (store : α → δ) (i : Input) :
    Except Failure (δ × Input) :=
  match given with
  | some _ => .error (.unplaced (.duplicateField name) i)
  | none =>
    match readColon i with
    | .error fault => .error (.placed fault)
    | .ok rest =>
      match read rest with
      | .error fault => .error (.placed fault)
      | .ok (value, rest) => .ok (store value, rest)

/-- Gets past the value of a field that nobody asked for. -/
def skipField {δ : Type} (d : δ) (i : Input) : Except Failure (δ × Input) :=
  match readColon i with
  | .error fault => .error (.placed fault)
  | .ok rest =>
    match skipValue rest with
    | .error fault => .error (.placed fault)
    | .ok rest => .ok (d, rest)

theorem readField_size {α δ : Type} {name : String} {given : Option α}
    {read : Input → Except Fault (α × Input)} {store : α → δ} {i rest : Input} {d : δ}
    (hread : ∀ j value rest, read j = .ok (value, rest) → rest.size ≤ j.size)
    (h : readField name given read store i = .ok (d, rest)) : rest.size ≤ i.size := by
  unfold readField at h
  split at h
  · cases h
  · split at h
    · cases h
    · next hcolon =>
      split at h <;> cases h
      exact Nat.le_trans (hread _ _ _ ‹_›) (readColon_size hcolon)

theorem skipField_size {δ : Type} {d d' : δ} {i rest : Input}
    (h : skipField d i = .ok (d', rest)) : rest.size ≤ i.size := by
  unfold skipField at h
  split at h
  · cases h
  · next hcolon =>
    split at h <;> cases h
    exact Nat.le_trans (skipValue_size ‹_›) (readColon_size hcolon)

end Custody.Json
