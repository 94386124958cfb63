import Custody.Proofs.Shelf.Basic
import Mathlib.Data.List.Perm.Basic

/-!
# What holds on a shelf

All containers are whole, stamps count changes, and every cursor stands somewhere in the container
that it was in step with, as it was then.

* `Shelf.Valid`: the invariant;
* `Shelf.Onward`: containers only come and change, which leaves cursors what they are;
* `Shelf.Valid.addStock`, `Shelf.Valid.setStock`, `Shelf.Valid.addBookmark`,
  `Shelf.Valid.setBookmark`: what an operation does to a shelf keeps the invariant.
-/

namespace Custody

variable {k : Kind}

/-- The container is whole, its stamp counts the changes, and nothing got lost. -/
structure Stock.Valid (stock : Stock k.Container k.Entry) : Prop where
  sound : (k.ring stock.container).Sound
  stamp : k.stamp stock.container = UInt64.ofNat stock.changes
  balance : stock.entered.Perm (stock.left ++ k.entries stock.container)

/-- The container of one stock may become that of the other, and unless it does so by a
change it is the same. -/
def Stock.Onward {γ ε : Type} (before after : Stock γ ε) : Prop :=
  before.changes ≤ after.changes ∧
    (before.changes = after.changes → after.container = before.container)

/-- The cursor stands in the container that it was in step with, on the entry that it yielded
last or behind it, and as long as its home does not change it is in step. -/
structure Bookmark.Valid (s : Shelf k) (mark : Bookmark k.Container k.Entry) : Prop where
  stands : ∃ place on ahead, k.Stands mark.seen mark.cursor place on ahead ∧
    (on = true → (k.entries mark.seen)[place]? = mark.latest.map Prod.snd)
  stamp : mark.cursor.stamp = UInt64.ofNat mark.since
  home : ∃ stock, s.stocks[mark.home]? = some stock ∧ mark.since ≤ stock.changes ∧
    (mark.since = stock.changes → stock.container = mark.seen)

namespace Stock

variable {γ ε : Type}

theorem changes_after (stock : Stock γ ε) (container : γ) (entered left : List ε) :
    (stock.after container entered left).changes =
      stock.changes + (entered.length + left.length) := by
  simp only [changes, after, List.length_append]
  omega

theorem Onward.refl (stock : Stock γ ε) : stock.Onward stock := ⟨Nat.le_refl _, fun _ => rfl⟩

theorem onward_after (stock : Stock γ ε) {container : γ} {entered left : List ε}
    (same : entered = [] → left = [] → container = stock.container) :
    stock.Onward (stock.after container entered left) := by
  have changes := stock.changes_after container entered left
  constructor
  · omega
  · intro none
    have nobody : entered.length = 0 := by omega
    have nothing : left.length = 0 := by omega
    exact same (List.eq_nil_of_length_eq_zero nobody) (List.eq_nil_of_length_eq_zero nothing)

theorem Valid.answered {stock : Stock k.Container k.Entry} (valid : stock.Valid) {call : k.Call}
    {reply : k.Reply} {container : k.Container}
    (answered : k.Answered stock.container call reply container) :
    (stock.after container (k.entered call reply)
      (k.left (k.entries stock.container) call reply)).Valid where
  sound := answered.sound
  stamp := by
    rw [changes_after, UInt64.ofNat_add, ← valid.stamp]
    exact answered.stamp
  balance := by
    have more := valid.balance.append_right (k.entered call reply)
    refine more.trans ?_
    rw [List.append_assoc, after, List.append_assoc]
    apply List.Perm.append_left
    exact List.perm_append_comm.trans answered.balance.symm

theorem Valid.removed {stock : Stock k.Container k.Entry} (valid : stock.Valid)
    {container : k.Container} {place : Nat} {entry : k.Entry}
    (sound : (k.ring container).Sound) (stamp : k.stamp container = k.stamp stock.container + 1)
    (found : (k.entries stock.container)[place]? = some entry)
    (entries : k.entries container = (k.entries stock.container).eraseIdx place) :
    (stock.after container [] [entry]).Valid where
  sound := sound
  stamp := by
    rw [changes_after, UInt64.ofNat_add, ← valid.stamp]
    exact stamp
  balance := by
    obtain ⟨inside, rfl⟩ := List.getElem?_eq_some_iff.1 found
    have split := (List.getElem_cons_eraseIdx_perm inside).symm
    simp only [after, List.append_nil, List.append_assoc, entries]
    exact valid.balance.trans (List.Perm.append_left stock.left split)

end Stock

namespace Shelf

variable {s s' : Shelf k} {i j : Nat} {stock : Stock k.Container k.Entry}
  {mark : Bookmark k.Container k.Entry}

/-- The invariant of a shelf. -/
structure Valid (s : Shelf k) : Prop where
  stocks : ∀ stock ∈ s.stocks, stock.Valid
  bookmarks : ∀ mark ∈ s.bookmarks, mark.Valid s

/-- Every container of the shelf is there later on, perhaps changed. -/
def Onward (s s' : Shelf k) : Prop :=
  ∀ (i : Nat) (stock : Stock k.Container k.Entry), s.stocks[i]? = some stock →
    ∃ stock', s'.stocks[i]? = some stock' ∧ stock.Onward stock'

theorem onward_addStock (s : Shelf k) (stock : Stock k.Container k.Entry) :
    s.Onward (s.addStock stock) := by
  intro i found here
  obtain ⟨inside, _⟩ := List.getElem?_eq_some_iff.1 here
  refine ⟨found, ?_, .refl found⟩
  rw [addStock, List.getElem?_append_left inside]
  exact here

theorem onward_setStock (here : s.stocks[i]? = some stock) {stock' : Stock k.Container k.Entry}
    (onward : stock.Onward stock') : s.Onward (s.setStock i stock') := by
  intro n found there
  obtain ⟨inside, _⟩ := List.getElem?_eq_some_iff.1 here
  by_cases same : i = n
  · subst same
    obtain rfl : stock = found := Option.some.inj (here.symm.trans there)
    exact ⟨stock', by simp [setStock, inside], onward⟩
  · exact ⟨found, by simp [setStock, same, there], .refl found⟩

theorem Onward.bookmark_valid (onward : s.Onward s')
    (valid : mark.Valid s) : mark.Valid s' where
  stands := valid.stands
  stamp := valid.stamp
  home := by
    obtain ⟨stock, here, since, still⟩ := valid.home
    obtain ⟨stock', here', changes, same⟩ := onward mark.home stock here
    refine ⟨stock', here', Nat.le_trans since changes, ?_⟩
    intro unchanged
    rw [same (by omega)]
    exact still (by omega)

theorem valid_empty : (empty : Shelf k).Valid where
  stocks := by simp [empty]
  bookmarks := by simp [empty]

namespace Valid

theorem addStock (h : s.Valid) (valid : stock.Valid) : (s.addStock stock).Valid where
  stocks := by
    intro other mem
    rcases List.mem_append.1 mem with mem | mem
    · exact h.stocks other mem
    · rwa [List.mem_singleton.1 mem]
  bookmarks mark mem := (onward_addStock s stock).bookmark_valid (h.bookmarks mark mem)

theorem addBookmark (h : s.Valid) (valid : mark.Valid s) : (s.addBookmark mark).Valid where
  stocks := h.stocks
  bookmarks := by
    intro other mem
    have kept : s.Onward (s.addBookmark mark) := fun _ stock here => ⟨stock, here, .refl stock⟩
    rcases List.mem_append.1 mem with mem | mem
    · exact kept.bookmark_valid (h.bookmarks other mem)
    · exact kept.bookmark_valid (List.mem_singleton.1 mem ▸ valid)

theorem setStock (h : s.Valid) (here : s.stocks[i]? = some stock)
    {stock' : Stock k.Container k.Entry} (onward : stock.Onward stock') (valid : stock'.Valid) :
    (s.setStock i stock').Valid where
  stocks := by
    intro other mem
    rcases List.mem_or_eq_of_mem_set mem with mem | rfl
    · exact h.stocks other mem
    · exact valid
  bookmarks mark mem := (onward_setStock here onward).bookmark_valid (h.bookmarks mark mem)

theorem setBookmark (h : s.Valid) (valid : mark.Valid s) : (s.setBookmark j mark).Valid where
  stocks := h.stocks
  bookmarks := by
    intro other mem
    have kept : s.Onward (s.setBookmark j mark) := fun _ stock here => ⟨stock, here, .refl stock⟩
    rcases List.mem_or_eq_of_mem_set mem with mem | rfl
    · exact kept.bookmark_valid (h.bookmarks other mem)
    · exact kept.bookmark_valid valid

theorem of_stock (h : s.Valid) (here : s.stocks[i]? = some stock) : stock.Valid :=
  h.stocks stock (List.mem_of_getElem? here)

theorem of_bookmark (h : s.Valid) (here : s.bookmarks[j]? = some mark) : mark.Valid s :=
  h.bookmarks mark (List.mem_of_getElem? here)

end Valid

end Shelf

end Custody
