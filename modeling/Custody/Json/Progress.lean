import Custody.Json.Scalar

/-!
# Readers move forward

Every reader leaves at most what it was given, so a loop of readers ends.
-/

namespace Custody.Json

theorem readChars_size {i rest : Input} {cs : List Char} (h : readChars i = .ok (cs, rest)) :
    rest.size < i.size := by
  fun_induction readChars i generalizing cs rest with
  | case1 => cases h
  | case2 => cases h; exact Nat.lt_succ_self _
  | case3 => cases h
  | case4 => cases h
  | case5 chars place c next hread cs' rest' hrest ih =>
    cases h
    exact Nat.lt_trans (ih hrest) (Nat.lt_succ_of_lt (readEscape_size hread))
  | case6 => cases h
  | case7 => cases h
  | case8 chars place c _ _ _ cs' rest' hrest ih =>
    cases h
    exact Nat.lt_succ_of_lt (ih hrest)

theorem readText_size {i rest : Input} {text : String} (h : readText i = .ok (text, rest)) :
    rest.size < i.size := by
  unfold readText at h
  split at h
  · cases h
  · next hread =>
    cases h
    exact readChars_size hread

theorem realOf_size {positive : Bool} {significand : Nat} {exponent : Int} {i rest : Input}
    {n : Number} (h : realOf positive significand exponent i = .ok (n, rest)) :
    rest.size ≤ i.size := by
  unfold realOf at h
  split at h <;> cases h
  exact Nat.le_refl _

theorem readExponent_size {positive : Bool} {significand : Nat} {start : Int} {i rest : Input}
    {n : Number} (h : readExponent positive significand start i = .ok (n, rest)) :
    rest.size ≤ i.size := by
  have hsign := size_exponentSign_le i
  have hdigits := (exponentSign i).2.size_skipDigits_le
  unfold readExponent at h
  simp only at h
  split at h
  · cases h
  · split at h
    · split at h
      · have := realOf_size h
        omega
      · split at h
        · cases h
        · cases h
          omega
    · cases h

theorem readFraction_size {positive : Bool} {significand : Nat} {start : Int} {i rest : Input}
    {n : Number} (h : readFraction positive significand start i = .ok (n, rest)) :
    rest.size ≤ i.size := by
  have hdigits := i.size_skipDigits_le
  unfold readFraction at h
  simp only at h
  split at h
  · cases h
  · split at h
    · have := readExponent_size h
      have := i.skipDigits.size_eat_le
      omega
    · have := realOf_size h
      omega

theorem readTail_size {positive : Bool} {significand left : Nat} {i rest : Input} {n : Number}
    (h : readTail positive significand left i = .ok (n, rest)) : rest.size ≤ i.size := by
  have heat := i.size_eat_le
  unfold readTail at h
  split at h
  · exact Nat.le_trans (readFraction_size h) heat
  · exact Nat.le_trans (readExponent_size h) heat
  · exact Nat.le_trans (readExponent_size h) heat
  · split at h
    · cases h
      exact Nat.le_refl _
    · exact realOf_size h

theorem readNumber_size {positive : Bool} {i rest : Input} {n : Number}
    (h : readNumber positive i = .ok (n, rest)) : rest.size ≤ i.size := by
  unfold readNumber at h
  split at h
  · cases h
  · split at h
    · cases h
    · exact Nat.le_trans (readTail_size h) i.size_eat_le
  · split at h
    · exact Nat.le_trans (readTail_size h) i.size_skipDigits_le
    · cases h

theorem readExpectedNumber_size {expected : String} {i rest : Input} {n : Number}
    (h : readExpectedNumber expected i = .ok (n, rest)) : rest.size ≤ i.size := by
  unfold readExpectedNumber at h
  split at h
  · cases h
  · exact Nat.le_trans (readNumber_size h) i.size_eat_le
  · split at h
    · exact readNumber_size h
    · cases h

theorem readNatural_size {expected : String} {i rest : Input} {n : UInt64}
    (h : readNatural expected i = .ok (n, rest)) : rest.size ≤ i.size := by
  unfold readNatural at h
  split at h <;> cases h
  exact Nat.le_trans (readExpectedNumber_size ‹_›) i.size_skipBlank_le

theorem readSigned_size {expected : String} {i rest : Input} {n : Int64}
    (h : readSigned expected i = .ok (n, rest)) : rest.size ≤ i.size := by
  unfold readSigned at h
  split at h
  · cases h
  · split at h
    · cases h
      exact Nat.le_trans (readExpectedNumber_size ‹_›) i.size_skipBlank_le
    · cases h
  · cases h
    exact Nat.le_trans (readExpectedNumber_size ‹_›) i.size_skipBlank_le
  · cases h

theorem readNull_size {expected : String} {i rest : Input} (h : readNull expected i = .ok rest) :
    rest.size ≤ i.size := by
  have hblank := i.size_skipBlank_le
  have heat := i.skipBlank.size_eat_le
  unfold readNull at h
  simp only at h
  split at h
  · cases h
  · have := expectWord_size h
    omega
  · cases h

theorem readKnown_size {α : Type} {known : List (String × α)} {i rest : Input} {value : α}
    (h : readKnown known i = .ok (value, rest)) : rest.size ≤ i.size := by
  unfold readKnown at h
  split at h
  · cases h
  · next hread =>
    have := readText_size hread
    split at h
    · cases h
      omega
    · cases h

theorem readColon_size {i rest : Input} (h : readColon i = .ok rest) : rest.size ≤ i.size := by
  have hblank := i.size_skipBlank_le
  have heat := i.skipBlank.size_eat_le
  unfold readColon at h
  simp only at h
  split at h <;> cases h
  omega

theorem readKnownKey_size {α : Type} {known : List (String × α)} {i rest : Input} {value : α}
    (h : readKnownKey known i = .ok (value, rest)) : rest.size ≤ i.size := by
  unfold readKnownKey at h
  simp only at h
  split at h
  · cases h
  · next hknown =>
    have := readKnown_size hknown
    split at h
    · cases h
    · next hcolon =>
      have := readColon_size hcolon
      split at h
      · cases h
      · next after hnull =>
        have := readNull_size hnull
        have := after.size_skipBlank_le
        have := after.skipBlank.size_eat_le
        split at h <;> cases h
        omega

theorem readName_size {α : Type} {known : List (String × α)} {i rest : Input} {value : α}
    (h : readName known i = .ok (value, rest)) : rest.size ≤ i.size := by
  have hblank := i.size_skipBlank_le
  have heat := i.skipBlank.size_eat_le
  unfold readName at h
  simp only at h
  split at h
  · cases h
  · exact Nat.le_trans (readKnown_size h) (Nat.le_trans heat hblank)
  · have := i.skipBlank.eat.size_skipBlank_le
    have := i.skipBlank.eat.skipBlank.size_eat_le
    split at h
    · cases h
    · have := readKnownKey_size h
      omega
    · cases h
    · cases h
  · cases h

theorem skipOpen_size {expecting : Expecting} {brackets : List Bracket} {i rest : Input}
    (h : skipOpen expecting brackets i = .ok rest) : rest.size ≤ i.size := by
  have blank := fun j : Input => j.size_skipBlank_le
  have eaten := fun j : Input => Nat.le_trans j.skipBlank.size_eat_le j.size_skipBlank_le
  fun_induction skipOpen expecting brackets i with
  | case1 _ _ _ _ ih => exact Nat.le_trans (ih h) (eaten _)
  | case2 _ _ _ _ ih => exact Nat.le_trans (ih h) (eaten _)
  | case4 _ _ _ hscalar _ _ ih =>
    exact Nat.le_trans (ih h) (Nat.le_trans (Nat.le_of_lt (skipScalar_size hscalar)) (blank _))
  | case5 => cases h; exact Nat.le_refl _
  | case7 _ _ _ _ _ ih => exact Nat.le_trans (ih h) (eaten _)
  | case8 _ _ _ _ _ _ ih => exact Nat.le_trans (ih h) (blank _)
  | case10 _ _ _ _ _ _ hkey _ ih =>
    exact Nat.le_trans (ih h) (Nat.le_trans (Nat.le_of_lt (skipKey_size hkey)) (blank _))
  | case12 _ _ _ _ _ ih => exact Nat.le_trans (ih h) (eaten _)
  | case13 _ _ _ _ _ ih => exact Nat.le_trans (ih h) (eaten _)
  | case15 _ _ _ _ hkey _ _ ih =>
    exact Nat.le_trans (ih h) (Nat.le_trans (Nat.le_of_lt (skipKey_size hkey)) (eaten _))
  | case3 | case6 | case9 | case11 | case14 | case16 => cases h

theorem skipValue_size {i rest : Input} (h : skipValue i = .ok rest) : rest.size ≤ i.size :=
  skipOpen_size h

end Custody.Json
