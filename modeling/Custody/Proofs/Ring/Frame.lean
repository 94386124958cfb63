import Custody.Proofs.Ring.Cursor
import Custody.Proofs.Ring.Cycle

/-!
# What the changes of a ring leave alone

Each change writes the value and key of some slots and the link of some, and all other slots are
as they were.

* `Ring.Touches`: nothing but these slots differs;
* `Ring.touches_pushBack`, `Ring.touches_insertAt`, `Ring.Freed`: which slots they are, in any
  ring, laid out or not;
* `Ring.Appended`, `Ring.Inserted`, `Ring.Removed`: and where in the cycle they are, in a ring that
  is laid out.
-/

namespace Custody

namespace Ring

variable {κ α σ : Type}

/-- Value and key of slot `i`, if there is one. -/
def stored? (r : Ring κ α) (i : Nat) : Option (Option α × κ) :=
  r.slots[i]?.map fun slot => (slot.value, slot.key)

/-- Values and keys differ at most in the slots of `written`, and links at most in those of
`linked`. -/
structure Touches (r r' : Ring κ α) (written linked : List Nat) : Prop where
  capacity : r'.capacity = r.capacity
  stored : ∀ i ∉ written, r'.stored? i = r.stored? i
  links : ∀ i ∉ linked, r'.next i = r.next i

namespace Touches

variable {r r' : Ring κ α} {written written' linked linked' : List Nat}

theorem refl (r : Ring κ α) : r.Touches r [] [] := ⟨rfl, fun _ _ => rfl, fun _ _ => rfl⟩

theorem mono (touches : r.Touches r' written linked) (more : written ⊆ written')
    (more' : linked ⊆ linked') : r.Touches r' written' linked' where
  capacity := touches.capacity
  stored i apart := touches.stored i fun mem => apart (more mem)
  links i apart := touches.links i fun mem => apart (more' mem)

theorem link (touches : r.Touches r' written linked) (i target : Nat) :
    r.Touches (r'.link i target) written (i :: linked) where
  capacity := (capacity_link r' i target).trans touches.capacity
  stored j apart := by
    rw [← touches.stored j apart]
    simp only [stored?, Ring.link, Array.getElem?_modify]
    by_cases h : i = j <;> cases r'.slots[j]? <;> simp [h]
  links j apart := by
    rw [List.mem_cons, not_or] at apart
    rw [← touches.links j apart.2]
    simp [next, Ring.link, Array.getElem?_modify, Ne.symm apart.1]

/-- Whatever is written into slot `i`, if its link stays. -/
theorem write (touches : r.Touches r' written linked) (i : Nat) {f : Slot κ α → Slot κ α}
    (keeps : ∀ slot, (f slot).next = slot.next) :
    r.Touches { r' with slots := r'.slots.modify i f } (i :: written) linked where
  capacity := (Array.size_modify ..).trans touches.capacity
  stored j apart := by
    rw [List.mem_cons, not_or] at apart
    rw [← touches.stored j apart.2]
    simp [stored?, Array.getElem?_modify, Ne.symm apart.1]
  links j apart := by
    rw [← touches.links j apart]
    simp only [next, Array.getElem?_modify]
    by_cases h : i = j <;> cases r'.slots[j]? <;> simp [h, keeps]

theorem put (touches : r.Touches r' written linked) (i : Nat) (key : κ) (value : Option α) :
    r.Touches (r'.put i key value) (i :: written) linked := touches.write i fun _ => rfl

theorem vacate (touches : r.Touches r' written linked) (i : Nat) :
    r.Touches (r'.vacate i) (i :: written) linked := touches.write i fun _ => rfl

/-! Head, tail, size and stamp are in no slot. -/

theorem grown (touches : r.Touches r' written linked) : r.Touches r'.grown written linked :=
  ⟨touches.capacity, touches.stored, touches.links⟩

theorem shrunk (touches : r.Touches r' written linked) : r.Touches r'.shrunk written linked :=
  ⟨touches.capacity, touches.stored, touches.links⟩

theorem withTail (touches : r.Touches r' written linked) (t : Nat) :
    r.Touches { r' with tail := t } written linked :=
  ⟨touches.capacity, touches.stored, touches.links⟩

theorem withHead (touches : r.Touches r' written linked) (i : Nat) :
    r.Touches { r' with head := i } written linked :=
  ⟨touches.capacity, touches.stored, touches.links⟩

end Touches

/-! ### In any ring -/

theorem touches_pushBack (r : Ring κ α) (key : κ) (value : α) :
    r.Touches (r.pushBack key value) [r.freeSlot] [] := by
  unfold pushBack
  exact (((Touches.refl r).withTail _).put _ _ _).grown

theorem touches_displace (r : Ring κ α) (stop : Nat) (key : κ) (value : α)
    (displaced : Slot κ α) :
    r.Touches (r.displace stop key value displaced) [r.next r.tail, stop]
      [stop, r.next r.tail, r.tail] := by
  unfold displace
  have spliced := (((Touches.refl r).link r.tail (r.next (r.next r.tail))).link (r.next r.tail)
    ((r.link r.tail (r.next (r.next r.tail))).next stop)).link stop (r.next r.tail)
  exact (((spliced.withTail _).put _ _ _).put _ _ _).grown

/-- Wherever `stop` is, even outside. -/
theorem touches_insertAt (r : Ring κ α) (stop : Nat) (key : κ) (value : α) :
    r.Touches (r.insertAt stop key value) [r.next r.tail, stop]
      [stop, r.next r.tail, r.tail] := by
  unfold insertAt
  split
  · exact (Touches.refl r).mono (List.nil_subset _) (List.nil_subset _)
  · exact touches_displace r stop key value _

theorem head_insertAt (r : Ring κ α) (stop : Nat) (key : κ) (value : α) :
    (r.insertAt stop key value).head = r.head := by
  unfold insertAt
  split
  · rfl
  · simp [displace, grown, put, link]

theorem stored?_vacate {r : Ring κ α} {i : Nat} {entry : κ × α}
    (held : r.entryAt? i = some entry) : (r.vacate i).stored? i = some (none, entry.1) := by
  unfold entryAt? at held
  split at held
  · cases held
  · rename_i slot here
    obtain ⟨value, -, rfl⟩ := Option.map_eq_some_iff.1 held
    simp [stored?, vacate, Array.getElem?_modify, here]

/-- The entry of slot `i` is gone and its key has stayed. If the slot is not the first one, links
differ at most in the slot before it, in itself and in the last slot of what is left. -/
structure Freed (r r' : Ring κ α) (before? : Option Nat) (i : Nat) (entry : κ × α) : Prop where
  touches : r.Touches r' [i] (before?.elim [] fun before => [before, i, r'.tail])
  held : r.entryAt? i = some entry
  cleared : r'.stored? i = some (none, entry.1)

theorem freed_dropFront {r : Ring κ α} {entry : κ × α} (held : r.entryAt? r.head = some entry) :
    r.Freed r.dropFront none r.head entry where
  touches := (((Touches.refl r).vacate r.head).withHead _).shrunk
  held := held
  cleared := stored?_vacate held

theorem freed_dropBehind {r : Ring κ α} (before : Nat) {i : Nat} {entry : κ × α}
    (held : r.entryAt? i = some entry) :
    r.Freed (r.dropBehind before i) (some before) i entry := by
  have relinked {r' : Ring κ α} {written : List Nat}
      (vacated : r'.Touches (r.vacate i) written []) :
      r'.Touches (r.dropBehind before i) written [(r.dropBehind before i).tail, i, before] := by
    unfold dropBehind
    exact ((((vacated.link before _).withTail _).link i _).link _ _).shrunk
  constructor
  · exact (relinked ((Touches.refl r).vacate i)).mono (List.Subset.refl _) (by simp)
  · exact held
  · rw [(relinked (.refl _)).stored i List.not_mem_nil]
    exact stored?_vacate held

/-- What leaves is the entry of slot `i`, or the first one if no slot is named before it. -/
theorem freed_unlink {r r' : Ring κ α} {before? : Option Nat} {i : Nat} {entry : κ × α}
    (taken : r.unlink? before? i = some (entry, r')) :
    r.Freed r' before? (before?.elim r.head fun _ => i) entry := by
  unfold unlink? at taken
  split at taken
  · cases taken
  · rename_i linked
    cases taken
    cases before? with
    | none =>
      have front : r.front? = some entry := linked
      unfold front? at front
      split at front
      · cases front
      · exact freed_dropFront front
    | some before => exact freed_dropBehind before linked

theorem freed_popFront {r r' : Ring κ α} {entry : κ × α}
    (taken : r.popFront? = some (entry, r')) : r.Freed r' none r.head entry := by
  have unlinked : r.unlink? none r.head = some (entry, r') := taken
  exact freed_unlink unlinked

/-! ### In a ring that is laid out -/

/-- The entry is in the slot that was the first free one. Nothing else is written and no link
differs. -/
structure Appended (r r' : Ring κ α) (key : κ) (value : α) : Prop where
  touches : r.Touches r' [r.freeSlot] []
  first : r.next^[r.size] r.head = r.freeSlot
  vacant : r.entryAt? r.freeSlot = none
  holds : r'.entryAt? r.freeSlot = some (key, value)

/-- The entry is in slot `stop`, and the one that was there is in the slot that was the first
free one. Nothing else is written, and links differ at most in these two slots and in what was the
last one. -/
structure Inserted (r r' : Ring κ α) (stop : Nat) (key : κ) (value : α) : Prop where
  touches : r.Touches r' [stop, r.freeSlot] [stop, r.tail, r.freeSlot]
  first : r.next^[r.size] r.head = r.freeSlot
  vacant : r.entryAt? r.freeSlot = none
  holds : r'.entryAt? stop = some (key, value)
  displaced : r'.entryAt? r.freeSlot = r.entryAt? stop
  head : r'.head = r.head

/-- The entry of slot `i` is gone. The slot named before it holds an entry and linked to it, or
it is the first one; and the last slot of what is left is the tail. -/
structure Removed (r r' : Ring κ α) (before? : Option Nat) (i : Nat) (entry : κ × α) : Prop
    extends Freed r r' before? i entry where
  front : before? = none → r.head = i
  behind : ∀ before ∈ before?, (r.entryAt? before).isSome ∧ r.next before = i
  last : 0 < r'.size → r'.next^[r'.size - 1] r'.head = r'.tail

variable {r r' : Ring κ α} {live front back free : List Nat} {i f stop : Nat} {entry : κ × α}

theorem Laid.room (h : r.Laid live (f :: free)) : r.size < r.capacity := by
  have total := h.length_eq_capacity
  have size := h.size
  rw [List.length_cons] at total
  omega

theorem appended_pushBack (h : r.Laid live (f :: free)) (key : κ) (value : α) :
    r.Appended (r.pushBack key value) key value where
  touches := touches_pushBack r key value
  first := h.freeSlot_eq_iterate h.room
  vacant := by
    rw [freeSlot_eq h]
    exact h.vacant f List.mem_cons_self
  holds := by rw [entryAt?_pushBack h, freeSlot_eq h, if_pos rfl]

theorem inserted_insertAt (h : r.Laid (front ++ stop :: back) (f :: free)) (key : κ) (value : α) :
    r.Inserted (r.insertAt stop key value) stop key value := by
  have first := freeSlot_eq h
  have behind : r.next r.tail = f := by simp [next_tail h]
  have apart : stop ≠ f := h.apart (by simp) List.mem_cons_self
  constructor
  · have touches := touches_insertAt r stop key value
    rw [behind] at touches
    rw [first]
    exact touches.mono (by simp) (by simp)
  · exact h.freeSlot_eq_iterate h.room
  · rw [first]
    exact h.vacant f List.mem_cons_self
  · rw [entryAt?_insertAt h, if_neg apart, if_pos rfl]
  · rw [entryAt?_insertAt h, first, if_pos rfl]
  · exact head_insertAt r stop key value

/-- A slot links back to the one that is named before it. -/
theorem behind_getLast (h : r.Laid (front ++ i :: back) free) :
    ∀ before ∈ front.getLast?, (r.entryAt? before).isSome ∧ r.next before = i := by
  intro before named
  obtain ⟨initial, rfl⟩ := List.getLast?_eq_some_iff.1 named
  have cycle := h.cycle
  rw [List.append_assoc, List.append_assoc] at cycle
  exact ⟨h.held before (by simp), Leads.next_eq _ _ cycle⟩

theorem removed_unlink (h : r.Laid (front ++ i :: back) free)
    (taken : r.unlink? front.getLast? i = some (entry, r')) :
    r.Removed r' front.getLast? i entry := by
  have first : front = [] → r.head = i := by
    rintro rfl
    exact h.head_eq rfl
  have same : (front.getLast?.elim r.head fun _ => i) = i := by
    cases front with
    | nil => exact first rfl
    | cons => simp [List.getLast?_cons]
  have freed := freed_unlink taken
  rw [same] at freed
  unfold unlink? at taken
  split at taken
  · cases taken
  · cases taken
    obtain ⟨free', laid⟩ := laid_dropLinked h
    refine ⟨freed, ?_, behind_getLast h, laid.tail_eq_iterate⟩
    intro none
    exact first (List.getLast?_eq_none_iff.1 none)

theorem removed_popFront (h : r.Sound) (taken : r.popFront? = some (entry, r')) :
    r.Removed r' none r.head entry := by
  obtain ⟨live, free, laid⟩ := h
  cases live with
  | nil => simp [popFront?, front?, laid.size] at taken
  | cons i live =>
    have head : r.head = i := laid.head_eq rfl
    rw [head]
    change r.Removed r' [].getLast? i entry
    exact removed_unlink laid taken

theorem removed_removeFirst (h : r.Sound) {test : κ → α → σ → Bool × σ} {s : σ}
    (taken : (r.removeFirst test s).1 = some (entry, r')) :
    ∃ before? i, (r.locate test s).1 = some (before?, i) ∧ r.Removed r' before? i entry := by
  obtain ⟨before?, i, located, unlinked⟩ := unlink_of_removeFirst taken
  obtain ⟨live, free, laid⟩ := h
  have found := locate_eq laid test s
  split at found
  · rw [found] at located
    cases located
  · obtain ⟨front, k, back, rfl, -, ended⟩ := found
    rw [ended, Option.some.injEq, Prod.mk.injEq] at located
    obtain ⟨rfl, rfl⟩ := located
    exact ⟨_, _, by rw [ended], removed_unlink laid unlinked⟩

theorem Stands.removed {c c' : Cursor} {passed ahead : List Nat} {on? : Option Nat}
    (h : r.Stands c passed on? ahead free)
    (removes : r.removeAt? c = .ok (some entry, r', c')) :
    ∃ i, c.current = some i ∧ r.Removed r' c.previous i entry := by
  obtain ⟨⟨⟩, _⟩ | ⟨_, i, ⟨⟩, current, unlinked⟩ := unlink_of_removeAt removes
  have on : on? = some i := h.current.symm.trans current
  have laid : r.Laid (passed ++ i :: ahead) free := by
    have laid := h.laid
    rw [on] at laid
    simpa using laid
  rw [h.previous] at unlinked ⊢
  exact ⟨i, current, removed_unlink laid unlinked⟩

end Ring

end Custody
