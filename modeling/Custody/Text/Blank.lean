import Custody.Text.Ranges

/-!
# Blank characters

The characters with the Unicode property White_Space, and text without them at
its ends.

* `trim_eq_self`: text that neither starts nor ends with one is kept whole;
* `trim_padded`: so is such a text with blanks around it, without the blanks.
-/

namespace Custody.Text

/-- The property White_Space. -/
def blankRanges : List (Nat × Nat) := [
  (0x9, 0xD), (0x20, 0x20), (0x85, 0x85), (0xA0, 0xA0), (0x1680, 0x1680), (0x2000, 0x200A),
  (0x2028, 0x2029), (0x202F, 0x202F), (0x205F, 0x205F), (0x3000, 0x3000)]

def isBlank (c : Char) : Bool := inRanges blankRanges c

/-- The text without the blanks at its start. -/
def trimStart (cs : List Char) : List Char := cs.dropWhile isBlank

/-- The text without the blanks at its end. -/
def trimEnd (cs : List Char) : List Char := (cs.reverse.dropWhile isBlank).reverse

/-- The text without the blanks at its ends. -/
def trim (cs : List Char) : List Char := trimEnd (trimStart cs)

theorem trim_eq_self (cs : List Char) (hfirst : ∀ c ∈ cs.head?, isBlank c = false)
    (hlast : ∀ c ∈ cs.getLast?, isBlank c = false) : trim cs = cs := by
  have start : trimStart cs = cs := by
    cases cs with
    | nil => rfl
    | cons c rest => simp [trimStart, hfirst c (by simp)]
  have ending : trimEnd cs = cs := by
    rcases List.eq_nil_or_concat cs with rfl | ⟨front, last, rfl⟩
    · rfl
    · simp [trimEnd, hlast last (by simp)]
  rw [trim, start, ending]

theorem trimStart_append {blanks : List Char} (h : ∀ c ∈ blanks, isBlank c = true)
    (cs : List Char) : trimStart (blanks ++ cs) = trimStart cs :=
  List.dropWhile_append_of_pos h

theorem trimEnd_append {blanks : List Char} (h : ∀ c ∈ blanks, isBlank c = true)
    (cs : List Char) : trimEnd (cs ++ blanks) = trimEnd cs := by
  rw [trimEnd, List.reverse_append, List.dropWhile_append_of_pos, trimEnd]
  intro c hc
  exact h c (List.mem_reverse.1 hc)

theorem trim_padded {before after : List Char} (hbefore : ∀ c ∈ before, isBlank c = true)
    (hafter : ∀ c ∈ after, isBlank c = true) (cs : List Char)
    (hfirst : ∀ c ∈ cs.head?, isBlank c = false) (hlast : ∀ c ∈ cs.getLast?, isBlank c = false) :
    trim (before ++ cs ++ after) = cs := by
  cases cs with
  | nil =>
    have all : ∀ c ∈ before ++ after, isBlank c = true := by
      intro c hc
      rcases List.mem_append.1 hc with hc | hc
      · exact hbefore c hc
      · exact hafter c hc
    have start := trimStart_append all []
    rw [List.append_nil] at start
    rw [List.append_nil, trim, start]
    rfl
  | cons c rest =>
    have start : trimStart (c :: rest ++ after) = c :: rest ++ after := by
      simp [trimStart, hfirst c rfl]
    have whole := trim_eq_self (c :: rest) hfirst hlast
    have front : trimStart (c :: rest) = c :: rest := by simp [trimStart, hfirst c rfl]
    rw [trim, front] at whole
    rw [List.append_assoc, trim, trimStart_append hbefore, start, trimEnd_append hafter, whole]

end Custody.Text
