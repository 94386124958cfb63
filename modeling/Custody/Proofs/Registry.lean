import Custody.Registry
import Mathlib.Data.List.Nodup

/-!
# Registries counted

How many keys a registry has, and how many of its values pass a test, after a change.

* `Registry.countP_congr`, `Registry.countP_succ`: the values that pass;
* `Registry.put_self`, `Registry.erase_put`: writing what is there changes nothing, nor does
  writing what is then taken out.
-/

namespace Custody

namespace Registry

variable {ι β : Type} [DecidableEq ι]

theorem find_eq_none_iff {key : ι} {entries : List (ι × β)} :
    find key entries = none ↔ key ∉ entries.map Prod.fst := by
  induction entries with
  | nil => simp [find]
  | cons entry rest ih =>
    by_cases h : key = entry.1 <;> simp [find, h, ih]

theorem mem_keys_iff (r : Registry ι β) (key : ι) :
    key ∈ r.keys ↔ (r.get? key).isSome = true := by
  rw [← Option.ne_none_iff_isSome, get?, Ne, find_eq_none_iff, not_not, keys]

@[simp]
theorem get?_empty (key : ι) : (empty : Registry ι β).get? key = none := rfl

theorem contains_eq_false_iff (r : Registry ι β) (key : ι) :
    r.contains key = false ↔ r.get? key = none := by
  simp [contains]

theorem putIn_of_not_mem {key : ι} {entries : List (ι × β)} (value : β)
    (h : find key entries = none) : putIn key value entries = entries ++ [(key, value)] := by
  induction entries with
  | nil => rfl
  | cons entry rest ih =>
    by_cases hk : key = entry.1
    · simp [find, hk] at h
    · simp only [find, if_neg hk] at h
      simp [putIn, Ne.symm hk, ih h]

/-- Writing over a key leaves the entries before it and behind it as they are. -/
theorem putIn_of_mem {key : ι} {entries : List (ι × β)} {old : β} (value : β)
    (h : find key entries = some old) :
    ∃ front back, entries = front ++ (key, old) :: back ∧
      putIn key value entries = front ++ (key, value) :: back ∧
      key ∉ front.map Prod.fst := by
  induction entries with
  | nil => simp [find] at h
  | cons entry rest ih =>
    by_cases hk : key = entry.1
    · simp only [find, if_pos hk, Option.some.injEq] at h
      exact ⟨[], rest, by simp [← h, hk], by simp [putIn, hk], by simp⟩
    · simp only [find, if_neg hk] at h
      obtain ⟨front, back, hrest, hput, hfront⟩ := ih h
      exact ⟨entry :: front, back, by simp [hrest], by simp [putIn, Ne.symm hk, hput],
        by simp [hk, hfront]⟩

theorem entries_put_of_some {r : Registry ι β} {key : ι} {old : β} (value : β)
    (h : r.get? key = some old) :
    ∃ front back, r.entries = front ++ (key, old) :: back ∧
      (r.put key value).entries = front ++ (key, value) :: back := by
  obtain ⟨front, back, hentries, hput, _⟩ := putIn_of_mem value h
  exact ⟨front, back, hentries, hput⟩

theorem entries_put_of_none {r : Registry ι β} {key : ι} (value : β) (h : r.get? key = none) :
    (r.put key value).entries = r.entries ++ [(key, value)] := putIn_of_not_mem value h

theorem size_put_of_some {r : Registry ι β} {key : ι} {old : β} (value : β)
    (h : r.get? key = some old) : (r.put key value).size = r.size := by
  obtain ⟨front, back, hentries, hput⟩ := entries_put_of_some value h
  simp only [size, hentries, hput, List.length_append, List.length_cons]

theorem size_put_of_none {r : Registry ι β} {key : ι} (value : β) (h : r.get? key = none) :
    (r.put key value).size = r.size + 1 := by
  simp [size, entries_put_of_none value h]

theorem size_erase_le (r : Registry ι β) (key : ι) : (r.erase key).size ≤ r.size :=
  List.length_filter_le _ _

omit [DecidableEq ι] in
theorem ext_entries {r r' : Registry ι β} (h : r.entries = r'.entries) : r = r' := by
  cases r
  cases r'
  simp_all

theorem put_self {r : Registry ι β} {key : ι} {value : β} (h : r.get? key = some value) :
    r.put key value = r := by
  obtain ⟨front, back, hentries, hput⟩ := entries_put_of_some value h
  exact ext_entries (hput.trans hentries.symm)

/-- Writing a key and taking it out again is taking it out. -/
theorem erase_put (r : Registry ι β) (key : ι) (value : β) :
    (r.put key value).erase key = r.erase key := by
  apply ext_entries
  cases known : r.get? key with
  | none => simp [erase, entries_put_of_none value known]
  | some old =>
    obtain ⟨front, back, hentries, hput⟩ := entries_put_of_some value known
    simp [erase, hentries, hput]

/-- Taking out a key that is not there changes nothing. -/
theorem erase_of_unknown {r : Registry ι β} {key : ι} (unknown : r.get? key = none) :
    r.erase key = r := by
  apply ext_entries
  rw [erase, List.filter_eq_self]
  intro entry mem
  rw [decide_eq_true_iff]
  rintro rfl
  exact find_eq_none_iff.1 unknown (List.mem_map_of_mem mem)

theorem find_of_mem {key : ι} {value : β} {entries : List (ι × β)}
    (nodup : (entries.map Prod.fst).Nodup) (h : (key, value) ∈ entries) :
    find key entries = some value := by
  induction entries with
  | nil => simp at h
  | cons entry rest ih =>
    simp only [List.map_cons, List.nodup_cons] at nodup
    rcases List.mem_cons.1 h with rfl | hrest
    · simp [find]
    · have hne : key ≠ entry.1 := by
        rintro rfl
        exact nodup.1 (List.mem_map.2 ⟨_, hrest, rfl⟩)
      simp only [find, if_neg hne]
      exact ih nodup.2 hrest

theorem get?_of_mem {r : Registry ι β} {key : ι} {value : β} (h : (key, value) ∈ r.entries) :
    r.get? key = some value := find_of_mem r.nodup h

/-! ### Counting -/

omit [DecidableEq ι] in
theorem nodup_keys (r : Registry ι β) : r.keys.Nodup := r.nodup

theorem mem_filter_keys (r : Registry ι β) (p : β → Bool) (key : ι) :
    key ∈ (r.keys.filter fun k => (r.get? k).any p) ↔ (r.get? key).any p = true := by
  rw [List.mem_filter, mem_keys_iff, and_iff_right_iff_imp]
  intro passes
  cases hget : r.get? key with
  | none => simp [hget] at passes
  | some value => rfl

theorem countP_values (r : Registry ι β) (p : β → Bool) :
    r.values.countP p = (r.keys.filter fun k => (r.get? k).any p).length := by
  rw [← List.countP_eq_length_filter, values, keys, List.countP_map, List.countP_map]
  apply List.countP_congr
  intro entry mem
  simp [get?_of_mem mem]

/-- Values that pass a test at the same keys are as many. -/
theorem countP_congr {r r' : Registry ι β} {p : β → Bool}
    (same : ∀ k, (r'.get? k).any p = (r.get? k).any p) :
    r'.values.countP p = r.values.countP p := by
  rw [countP_values, countP_values]
  apply List.Perm.length_eq
  rw [List.perm_ext_iff_of_nodup (r'.nodup_keys.filter _) (r.nodup_keys.filter _)]
  intro key
  rw [mem_filter_keys, mem_filter_keys, same]

/-- One value more passes a test. -/
theorem countP_succ {r r' : Registry ι β} {p : β → Bool} {key : ι}
    (before : (r.get? key).any p = false) (after : (r'.get? key).any p = true)
    (same : ∀ k, k ≠ key → (r'.get? k).any p = (r.get? k).any p) :
    r'.values.countP p = r.values.countP p + 1 := by
  rw [countP_values, countP_values, ← List.length_cons (a := key)]
  apply List.Perm.length_eq
  have absent : key ∉ r.keys.filter fun k => (r.get? k).any p := by
    rw [mem_filter_keys, before]
    simp
  rw [List.perm_ext_iff_of_nodup (r'.nodup_keys.filter _)
    (List.nodup_cons.2 ⟨absent, r.nodup_keys.filter _⟩)]
  intro k
  rw [List.mem_cons, mem_filter_keys, mem_filter_keys]
  by_cases hk : k = key
  · simp [hk, after]
  · simp [hk, same k hk]

end Registry

end Custody
