import Custody.Proofs.Json.Values

/-!
# Objects by their members

Blanks may stand between all parts of an object, and a key may be written with escapes. None of
this is noticed: what is read from an object is decided by its members, one after the other.

* `Laid`, `ObjectOf`: the texts of the objects with given members;
* `objectOf_objectText`: the text without blanks is one of them;
* `Knows`: what a member reader makes of each member;
* `readMembers_ok_iff`: what it makes of all of them;
* `readDocument_object`: what is made of a text that is such an object.
-/

namespace Custody.Json

/-- A member of an object: its key, and the text of its value. -/
structure Member where
  key : String
  value : List Char
  deriving DecidableEq, Repr

/-! ### Layouts -/

/-- What stands in front of a key: blanks, and a comma unless the key is the first. -/
inductive Lead : Bool → List Char → Prop
  | first {blanks : List Char} (blank : Blanks blanks) : Lead true blanks
  | next {before behind : List Char} (front : Blanks before) (back : Blanks behind) :
      Lead false (before ++ ',' :: behind)

/-- The texts that members may have inside an object. -/
inductive Laid : Bool → List Member → List Char → Prop
  | nil {first : Bool} : Laid first [] []
  | cons {first : Bool} {m : Member} {members : List Member}
      {lead spelling between gap others : List Char} (leads : Lead first lead)
      (spells : Spells spelling m.key.toList) (middle : Blanks between) (space : Blanks gap)
      (written : Written .value m.value) (more : Laid false members others) :
      Laid first (m :: members)
        (lead ++ '"' :: (spelling ++ '"' :: (between ++ ':' :: (gap ++ (m.value ++ others)))))

/-- The texts of the object with the members. -/
inductive ObjectOf (members : List Member) : List Char → Prop
  | braces {front inside back behind : List Char} (before : Blanks front)
      (laid : Laid true members inside) (blank : Blanks back) (after : Blanks behind) :
      ObjectOf members (front ++ '{' :: (inside ++ (back ++ '}' :: behind)))

/-! ### Without blanks -/

/-- The member as it is written, without blanks. -/
def Member.text (m : Member) : List Char := (quote m.key).toList ++ ':' :: m.value

/-- A comma stands before every member but the first. -/
def comma : Bool → List Char
  | true => []
  | false => [',']

/-- Members as they are written inside an object. -/
def membersText (first : Bool) : List Member → List Char
  | [] => []
  | m :: members => comma first ++ m.text ++ membersText false members

/-- The object of the members. -/
def objectText (members : List Member) : List Char := '{' :: membersText true members ++ ['}']

theorem laid_membersText {members : List Member} (written : ∀ m ∈ members, Written .value m.value)
    (first : Bool) : Laid first members (membersText first members) := by
  induction members generalizing first with
  | nil => exact .nil
  | cons m members ih =>
    have none : Blanks [] := by simp [Blanks]
    have leads : Lead first (comma first) := by
      cases first with
      | true => exact .first none
      | false => exact .next none none
    have more := ih (fun other mem => written other (List.mem_cons_of_mem m mem)) false
    have laid := Laid.cons leads (spells_written m.key.toList) none none
      (written m List.mem_cons_self) more
    simpa [membersText, Member.text, toList_quote] using laid

theorem objectOf_objectText {members : List Member}
    (written : ∀ m ∈ members, Written .value m.value) :
    ObjectOf members (objectText members) := by
  have none : Blanks [] := by simp [Blanks]
  have object := ObjectOf.braces none (laid_membersText written true) none none
  simpa [objectText] using object

/-! ### One member -/

/-- What a member reader takes from a member, and from which state to which, no matter how the
member is laid out. -/
def Knows {δ : Type} (r : MemberReader δ) (takes : Member → δ → δ → Prop) : Prop :=
  ∀ {m : Member} {d d' : δ} {between gap rest : List Char} {next : Input} (place : Position),
    Blanks between → Blanks gap → Written .value m.value → NumberEnds rest →
      (r.read m.key d ⟨between ++ ':' :: (gap ++ (m.value ++ rest)), place⟩ = .ok (d', next) ↔
        takes m d d' ∧ next = ⟨rest, place.afterAll (between ++ ':' :: (gap ++ m.value))⟩)

/-- Members are taken one after the other. -/
inductive Taken {δ : Type} (takes : Member → δ → δ → Prop) : List Member → δ → δ → Prop
  | nil {d : δ} : Taken takes [] d d
  | cons {m : Member} {members : List Member} {d d' final : δ} (first : takes m d d')
      (others : Taken takes members d' final) : Taken takes (m :: members) d final

variable {α β δ : Type} {between gap rest text : List Char} {place : Position} {next i : Input}

section Fields

variable {read : Input → Except Fault (β × Input)} {means : List Char → β → Prop} {store : β → δ}
  {given : Option β} {name : String} {d d' : δ}

/-- A field is taken once, for what its reader takes. -/
theorem readField_ok_iff (tells : Tells read means) (middle : Blanks between) (space : Blanks gap)
    (written : Written .value text) (ends : NumberEnds rest) :
    readField name given read store ⟨between ++ ':' :: (gap ++ (text ++ rest)), place⟩ =
        .ok (d, next) ↔
      (given = none ∧ ∃ value, means text value ∧ d = store value) ∧
        next = ⟨rest, place.afterAll (between ++ ':' :: (gap ++ text))⟩ := by
  have split : between ++ ':' :: (gap ++ text) = between ++ [':'] ++ gap ++ text := by simp
  cases given with
  | some => simp [readField]
  | none =>
    rw [readField]
    simp only [readColon_eq middle, tells.blanks space, split, Position.afterAll_append]
    constructor
    · intro ok
      split at ok
      · cases ok
      · rename_i taken
        have said := tells.only written ends taken
        cases (tells.reads said ends _).symm.trans taken
        cases ok
        exact ⟨⟨trivial, _, said, rfl⟩, rfl⟩
    · rintro ⟨⟨-, value, said, rfl⟩, rfl⟩
      simp only [tells.reads said ends _]

/-- Any value of a field that nobody asked for is passed. -/
theorem skipField_ok_iff (middle : Blanks between) (space : Blanks gap)
    (written : Written .value text) (ends : NumberEnds rest) :
    skipField d ⟨between ++ ':' :: (gap ++ (text ++ rest)), place⟩ = .ok (d', next) ↔
      d' = d ∧ next = ⟨rest, place.afterAll (between ++ ':' :: (gap ++ text))⟩ := by
  have split : between ++ ':' :: (gap ++ text) = between ++ [':'] ++ (gap ++ text) := by simp
  rw [skipField]
  simp only [readColon_eq middle, skipValue_eq space written ends, split,
    Position.afterAll_append]
  constructor
  · intro ok
    cases ok
    exact ⟨rfl, rfl⟩
  · rintro ⟨rfl, rfl⟩
    rfl

end Fields

/-! ### Keys -/

section Keys

variable {first : Bool} {lead spelling back : List Char} {key : String}

theorem nextKey_lead (leads : Lead first lead) (spells : Spells spelling key.toList)
    (rest : List Char) (place : Position) :
    nextKey first ⟨lead ++ '"' :: (spelling ++ '"' :: rest), place⟩ =
      .ok (some (key, ⟨rest, place.afterAll (lead ++ '"' :: (spelling ++ ['"']))⟩)) := by
  have quotes : Input.isBlank '"' = false := rfl
  cases leads with
  | first blank =>
    have text := reads_spelledText spells rest ((place.afterAll lead).after '"')
    rw [List.append_assoc, List.singleton_append] at text
    simp only [nextKey, Input.skipBlank_eq blank quotes, Input.eat, text,
      Position.afterAll_append]
    simp [Except.map, Position.afterAll]
  | @next before behind front back =>
    have text := reads_spelledText spells rest
      ((((place.afterAll before).after ',').afterAll behind).after '"')
    rw [List.append_assoc, List.singleton_append] at text
    simp only [List.append_assoc, List.cons_append, nextKey,
      Input.skipBlank_eq front (c := ',') rfl, Input.eat, Input.skipBlank_eq back quotes, text,
      Position.afterAll_append]
    simp [Except.map, Position.afterAll]

theorem nextKey_blanks (blank : Blanks back) (first : Bool) (rest : List Char)
    (place : Position) : nextKey first ⟨back ++ '}' :: rest, place⟩ = .ok none := by
  simp only [nextKey, Input.skipBlank_eq blank (c := '}') rfl]

/-- What follows a member ends its value. -/
theorem Laid.numberEnds {members : List Member} (laid : Laid false members text)
    (blank : Blanks back) (rest : List Char) : NumberEnds (text ++ (back ++ '}' :: rest)) := by
  cases laid with
  | nil => exact blank.numberEnds (numberEnds_closing .object rest)
  | cons leads =>
    cases leads with
    | next front =>
      rw [List.append_assoc, List.append_assoc, List.cons_append]
      exact front.numberEnds (numberEnds_comma _)

end Keys

/-! ### All members -/

theorem readMembers_end {r : MemberReader δ} {first : Bool} {d : δ} {i : Input}
    (last : nextKey first i = .ok none) : readMembers r first d i = .ok (d, i) := by
  rw [readMembers]
  split
  · rename_i refused
    rw [last] at refused
    cases refused
  · rfl
  · rename_i found
    rw [last] at found
    cases found

theorem readMembers_member {r : MemberReader δ} {first : Bool} {key : String} {d d' : δ}
    {i value next : Input} (found : nextKey first i = .ok (some (key, value)))
    (member : r.read key d value = .ok (d', next)) :
    readMembers r first d i = readMembers r false d' next := by
  rw [readMembers]
  split
  · rename_i refused
    rw [found] at refused
    cases refused
  · rename_i last
    rw [found] at last
    cases last
  · rename_i again
    rw [found] at again
    cases again
    split
    · rename_i refused
      rw [member] at refused
      cases refused
    · rename_i taken
      rw [member] at taken
      cases taken
      rfl

/-- To read the members is to read the first, and then the others. -/
theorem readMembers_ok_of_next {r : MemberReader δ} {first : Bool} {key : String} {d final : δ}
    {value last : Input} (found : nextKey first i = .ok (some (key, value)))
    (ok : readMembers r first d i = .ok (final, last)) :
    ∃ d' next, r.read key d value = .ok (d', next) ∧
      readMembers r false d' next = .ok (final, last) := by
  rw [readMembers] at ok
  split at ok
  · cases ok
  · rename_i done
    rw [found] at done
    cases done
  · rename_i again
    rw [found] at again
    cases again
    split at ok
    · cases ok
    · rename_i taken
      exact ⟨_, _, taken, ok⟩

/-- The members of an object are taken in turn, in any layout. -/
theorem readMembers_ok_iff {r : MemberReader δ} {takes : Member → δ → δ → Prop}
    (knows : Knows r takes) {first : Bool} {members : List Member} {inside back : List Char}
    (laid : Laid first members inside) (blank : Blanks back) (rest : List Char) :
    ∀ {place : Position} {d final : δ} {last : Input},
      readMembers r first d ⟨inside ++ (back ++ '}' :: rest), place⟩ = .ok (final, last) ↔
        Taken takes members d final ∧ last = ⟨back ++ '}' :: rest, place.afterAll inside⟩ := by
  induction laid with
  | nil =>
    intro place d final last
    rw [List.nil_append, readMembers_end (nextKey_blanks blank _ rest place)]
    constructor
    · intro ok
      cases ok
      exact ⟨.nil, rfl⟩
    · rintro ⟨taken, rfl⟩
      cases taken
      rfl
  | @cons first m members lead spelling between gap others leads spells middle space written
      more ih =>
    intro place d final last
    have ends := more.numberEnds blank rest
    have key := nextKey_lead leads spells
      (between ++ ':' :: (gap ++ (m.value ++ (others ++ (back ++ '}' :: rest))))) place
    have split : lead ++ '"' :: (spelling ++ '"' ::
        (between ++ ':' :: (gap ++ (m.value ++ others)))) =
          lead ++ '"' :: (spelling ++ ['"']) ++ (between ++ ':' :: (gap ++ m.value)) ++ others := by
      simp
    have whole : lead ++ '"' :: (spelling ++ '"' ::
        (between ++ ':' :: (gap ++ (m.value ++ others)))) ++ (back ++ '}' :: rest) =
          lead ++ '"' :: (spelling ++ '"' ::
            (between ++ ':' :: (gap ++ (m.value ++ (others ++ (back ++ '}' :: rest)))))) := by
      simp
    rw [whole, split, Position.afterAll_append, Position.afterAll_append]
    constructor
    · intro ok
      obtain ⟨d', next, member, others⟩ := readMembers_ok_of_next key ok
      obtain ⟨takes, rfl⟩ := (knows _ middle space written ends).1 member
      obtain ⟨taken, rfl⟩ := ih.1 others
      exact ⟨.cons takes taken, rfl⟩
    · rintro ⟨taken, rfl⟩
      cases taken with
      | cons takes others =>
        have member := (knows (place.afterAll (lead ++ '"' :: (spelling ++ ['"']))) middle space
          written ends).2 ⟨takes, rfl⟩
        rw [readMembers_member key member]
        exact ih.2 ⟨others, rfl⟩

/-! ### Whole texts -/

theorem closeObject_eq {back : List Char} (blank : Blanks back) (rest : List Char)
    (place : Position) :
    closeObject ⟨back ++ '}' :: rest, place⟩ = .ok ⟨rest, place.afterAll (back ++ ['}'])⟩ := by
  simp only [closeObject, Input.skipBlank_eq blank (c := '}') rfl, Input.eat,
    Position.afterAll_append]
  rfl

/-- What the reader makes of the members inside the brackets of an object, and that it stops
in front of the closing one. -/
def Makes (r : RecordReader α) (members : List Member) (means : α → Prop) : Prop :=
  ∀ {inside back : List Char} {value : α} {next : Input} (rest : List Char) (place : Position),
    Laid true members inside → Blanks back →
      (r.members ⟨inside ++ (back ++ '}' :: rest), place⟩ = .ok (value, next) ↔
        means value ∧ next = ⟨back ++ '}' :: rest, place.afterAll inside⟩)

theorem skipBlank_end {blanks : List Char} (blank : Blanks blanks) (place : Position) :
    Input.skipBlank ⟨blanks, place⟩ = ⟨[], place.afterAll blanks⟩ := by
  have past := Input.skipBlank_append blank [] place
  rwa [List.append_nil] at past

/-- A record is read from an object for what its reader makes of the members. -/
theorem readDocument_object {r : RecordReader α} {means : α → Prop} {members : List Member}
    (makes : Makes r members means) {text : String} (object : ObjectOf members text.toList)
    {value : α} : readDocument (readRecord r) text = .ok value ↔ means value := by
  generalize chars : text.toList = cs at object
  cases object with
  | @braces front inside back behind before laid blank after =>
    rw [readDocument, Input.ofString, chars]
    simp only [readRecord, Input.skipBlank_eq before (c := '{') rfl, Input.eat, readInside]
    constructor
    · intro ok
      split at ok
      · cases ok
      · rename_i taken
        split at taken
        · cases taken
        · rename_i inner
          obtain ⟨said, rfl⟩ := (makes _ _ laid blank).1 inner
          rw [closeObject_eq blank] at taken
          cases taken
          simp only [skipBlank_end after, Except.ok.injEq] at ok
          exact ok ▸ said
    · intro said
      have inner := (makes behind ((Position.start.afterAll front).after '{') laid blank).2
        ⟨said, rfl⟩
      simp only [inner, closeObject_eq blank, skipBlank_end after]

end Custody.Json
