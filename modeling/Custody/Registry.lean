/-!
# Registries

Values by key, each key at most once, in the order in which the keys came.

* `Registry.get?_put`, `Registry.get?_erase`: what a look-up finds after a change.
-/

namespace Custody

/-- Values by key. -/
structure Registry (ι β : Type) where
  entries : List (ι × β)
  nodup : (entries.map Prod.fst).Nodup

namespace Registry

variable {ι β : Type} [DecidableEq ι]

def empty : Registry ι β := ⟨[], List.nodup_nil⟩

def size (r : Registry ι β) : Nat := r.entries.length

def keys (r : Registry ι β) : List ι := r.entries.map Prod.fst

def values (r : Registry ι β) : List β := r.entries.map Prod.snd

/-- The value of the first entry with the key. -/
def find (key : ι) : List (ι × β) → Option β
  | [] => none
  | (k, v) :: rest => if key = k then some v else find key rest

def get? (r : Registry ι β) (key : ι) : Option β := find key r.entries

def contains (r : Registry ι β) (key : ι) : Bool := (r.get? key).isSome

/-- The entries with the value of one key replaced, or added at the end. -/
def putIn (key : ι) (value : β) : List (ι × β) → List (ι × β)
  | [] => [(key, value)]
  | (k, v) :: rest => if k = key then (key, value) :: rest else (k, v) :: putIn key value rest

theorem mem_keys_putIn {key k : ι} {value : β} {entries : List (ι × β)} :
    k ∈ (putIn key value entries).map Prod.fst ↔ k = key ∨ k ∈ entries.map Prod.fst := by
  induction entries with
  | nil => simp [putIn]
  | cons entry rest ih =>
    by_cases h : entry.1 = key
    · simp [putIn, h]
    · simp only [putIn, if_neg h, List.map_cons, List.mem_cons, ih]
      constructor
      · rintro (h | h | h) <;> simp [h]
      · rintro (h | h | h) <;> simp [h]

theorem nodup_putIn {key : ι} {value : β} {entries : List (ι × β)}
    (h : (entries.map Prod.fst).Nodup) : ((putIn key value entries).map Prod.fst).Nodup := by
  induction entries with
  | nil => simp [putIn]
  | cons entry rest ih =>
    simp only [List.map_cons, List.nodup_cons] at h
    by_cases hk : entry.1 = key
    · simpa [putIn, ← hk] using h
    · simp only [putIn, if_neg hk, List.map_cons, List.nodup_cons]
      refine ⟨?_, ih h.2⟩
      rw [mem_keys_putIn]
      rintro (heq | hmem)
      · exact hk heq
      · exact h.1 hmem

/-- Gives the key a value, the old one replaced. -/
def put (r : Registry ι β) (key : ι) (value : β) : Registry ι β :=
  ⟨putIn key value r.entries, nodup_putIn r.nodup⟩

/-- Takes the key out. -/
def erase (r : Registry ι β) (key : ι) : Registry ι β where
  entries := r.entries.filter fun entry => entry.1 ≠ key
  nodup := (List.filter_sublist.map Prod.fst).nodup r.nodup

/-- Changes every value. -/
def mapValues {γ : Type} (f : ι → β → γ) (r : Registry ι β) : Registry ι γ where
  entries := r.entries.map fun (key, value) => (key, f key value)
  nodup := by
    have h := r.nodup
    simpa only [List.map_map, Function.comp_def] using h

theorem find_putIn (key k : ι) (value : β) (entries : List (ι × β)) :
    find k (putIn key value entries) = if k = key then some value else find k entries := by
  induction entries with
  | nil => by_cases h : k = key <;> simp [putIn, find, h]
  | cons entry rest ih =>
    obtain ⟨k', v⟩ := entry
    by_cases hk : k' = key
    · subst hk
      by_cases h : k = k' <;> simp [putIn, find, h]
    · by_cases h : k = k'
      · subst h
        simp [putIn, find, hk]
      · simp [putIn, find, hk, h, ih]

theorem find_filter (key k : ι) (entries : List (ι × β)) :
    find k (entries.filter fun entry => entry.1 ≠ key) =
      if k = key then none else find k entries := by
  induction entries with
  | nil => simp [find]
  | cons entry rest ih =>
    obtain ⟨k', v⟩ := entry
    by_cases hk : k' = key
    · subst hk
      by_cases h : k = k' <;> simp_all [find]
    · by_cases h : k = k'
      · subst h
        simp [find, hk]
      · simp [find, hk, h]
        simpa using ih

@[simp]
theorem get?_put (r : Registry ι β) (key k : ι) (value : β) :
    (r.put key value).get? k = if k = key then some value else r.get? k :=
  find_putIn key k value r.entries

@[simp]
theorem get?_erase (r : Registry ι β) (key k : ι) :
    (r.erase key).get? k = if k = key then none else r.get? k :=
  find_filter key k r.entries

@[simp]
theorem get?_mapValues {γ : Type} (f : ι → β → γ) (r : Registry ι β) (k : ι) :
    (r.mapValues f).get? k = (r.get? k).map (f k) := by
  simp only [get?, mapValues]
  induction r.entries with
  | nil => rfl
  | cons entry rest ih =>
    obtain ⟨k', v⟩ := entry
    by_cases h : k = k'
    · subst h
      simp [find]
    · simpa [find, h] using ih

end Registry

end Custody
